/-
  MESSAGES for the digests: bytes, padded and cut into blocks of sixteen 32-bit words.

  Both digests of this library read a message the same way: a byte `0x80` ends it, zeros fill it up,
  and its length in bits stands in the last eight bytes, so that whole blocks of 64 bytes result.
-/

namespace FeatureFlags.Digest

/-- The bytes of a text. -/
def bytesOf (s : String) : List UInt8 := s.toUTF8.data.toList

/-- The low `count` bytes of a number, most significant first. -/
def bigEndian (count : Nat) (n : Nat) : List UInt8 :=
  (List.range count).map fun i => UInt8.ofNat (n / Nat.pow 256 (count - 1 - i))

/-- The number that bytes spell, most significant first. -/
def ofBigEndian (bytes : List UInt8) : Nat := bytes.foldl (fun n b => 256 * n + b.toNat) 0

/-- The message with its end mark, its filling and its length. -/
def padded (message : List UInt8) : List UInt8 :=
  let zeros := (119 - message.length % 64) % 64
  message ++ 0x80 :: List.replicate zeros 0 ++ bigEndian 8 (8 * message.length)

/-- Cut a list into groups of `size`; what does not fill a group is left out. -/
def groups {α : Type} (size : Nat) (items : List α) : List (List α) :=
  (List.range (items.length / size)).map fun i => (items.drop (i * size)).take size

/-- The blocks of a message, each sixteen words. -/
def blocks (message : List UInt8) : List (List UInt32) :=
  (groups 64 (padded message)).map fun block =>
    (groups 4 block).map fun word => UInt32.ofNat (ofBigEndian word)

/-- Rotate a word to the left. -/
def rotateLeft (w : UInt32) (count : UInt32) : UInt32 := (w <<< count) ||| (w >>> (32 - count))

/-- Rotate a word to the right. -/
def rotateRight (w : UInt32) (count : UInt32) : UInt32 := (w >>> count) ||| (w <<< (32 - count))

/-- The words of a block followed by `count` more, each computed from the words before it.  The
    rule `next` sees those words last first. -/
def extend (next : List UInt32 → UInt32) (count : Nat) (block : List UInt32) : List UInt32 :=
  ((List.range count).foldl (fun words _ => next words :: words) block.reverse).reverse

/-- The bytes of a list of words. -/
def wordBytes (words : List UInt32) : List UInt8 := words.flatMap fun w => bigEndian 4 w.toNat

end FeatureFlags.Digest
