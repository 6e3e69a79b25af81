/-
  BASE64 — bytes as text: three bytes become four letters, and the last group is padded.
-/

namespace FeatureFlags.Digest

/-- The 64 letters, in order. -/
def letters : List Char :=
  "ABCDEFGHIJKLMNOPQRSTUVWXYZabcdefghijklmnopqrstuvwxyz0123456789+/".toList

/-- The letter of the low six bits of a number. -/
def letter (n : Nat) : Char := letters.getD (n % 64) '='

/-- **Base64** with padding. -/
def base64 : List UInt8 → List Char
  | a :: b :: c :: rest =>
    let n := a.toNat * 65536 + b.toNat * 256 + c.toNat
    letter (n / 262144) :: letter (n / 4096) :: letter (n / 64) :: letter n :: base64 rest
  | [a, b] =>
    let n := a.toNat * 65536 + b.toNat * 256
    [letter (n / 262144), letter (n / 4096), letter (n / 64), '=']
  | [a] =>
    let n := a.toNat * 65536
    [letter (n / 262144), letter (n / 4096), '=', '=']
  | [] => []

example : base64 [77, 97, 110, 77] = "TWFuTQ==".toList := by decide +kernel

end FeatureFlags.Digest
