/-
  SHA-1 — the digest that spreads contexts over buckets.
-/
import FeatureFlags.Digest.Message

namespace FeatureFlags.Digest.Sha1

/-- The five words of the running digest. -/
structure State where
  a : UInt32
  b : UInt32
  c : UInt32
  d : UInt32
  e : UInt32
deriving DecidableEq

def initial : State := ⟨0x67452301, 0xEFCDAB89, 0x98BADCFE, 0x10325476, 0xC3D2E1F0⟩

/-- The next word of a schedule: four earlier ones combined and rotated by one. -/
def nextWord (words : List UInt32) : UInt32 :=
  rotateLeft (words.getD 2 0 ^^^ words.getD 7 0 ^^^ words.getD 13 0 ^^^ words.getD 15 0) 1

/-- The mixing function and the constant of a round. -/
def mix (round : Nat) (s : State) : UInt32 :=
  if round < 20 then ((s.b &&& s.c) ||| (~~~s.b &&& s.d)) + 0x5A827999
  else if round < 40 then (s.b ^^^ s.c ^^^ s.d) + 0x6ED9EBA1
  else if round < 60 then ((s.b &&& s.c) ||| (s.b &&& s.d) ||| (s.c &&& s.d)) + 0x8F1BBCDC
  else (s.b ^^^ s.c ^^^ s.d) + 0xCA62C1D6

def round (s : State) (word : UInt32 × Nat) : State :=
  ⟨rotateLeft s.a 5 + mix word.2 s + s.e + word.1, s.a, rotateLeft s.b 30, s.c, s.d⟩

/-- Take one block into the digest. -/
def absorb (s : State) (block : List UInt32) : State :=
  let t := (extend nextWord 64 block).zipIdx.foldl round s
  ⟨s.a + t.a, s.b + t.b, s.c + t.c, s.d + t.d, s.e + t.e⟩

/-- **The digest** of a message: 20 bytes. -/
def digest (message : List UInt8) : List UInt8 :=
  let s := (blocks message).foldl absorb initial
  wordBytes [s.a, s.b, s.c, s.d, s.e]

example : (digest (bytesOf "abc")).take 4 = [0xA9, 0x99, 0x3E, 0x36] := by decide +kernel

end FeatureFlags.Digest.Sha1
