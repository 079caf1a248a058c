/-!
# SHA-256 digests

The digest recorded beside every written file. Words are 32 bits wide and arithmetic wraps, as the
standard has it.
-/

namespace Scaffold.Digest

/-- The state between two blocks: eight words. -/
structure State where
  a : UInt32
  b : UInt32
  c : UInt32
  d : UInt32
  e : UInt32
  f : UInt32
  g : UInt32
  h : UInt32

/-- The state before the first block. -/
def State.initial : State :=
  ⟨0x6a09e667, 0xbb67ae85, 0x3c6ef372, 0xa54ff53a,
   0x510e527f, 0x9b05688c, 0x1f83d9ab, 0x5be0cd19⟩

/-- One constant for each of the 64 rounds. -/
def roundConstants : Array UInt32 :=
  #[0x428a2f98, 0x71374491, 0xb5c0fbcf, 0xe9b5dba5, 0x3956c25b, 0x59f111f1, 0x923f82a4,
    0xab1c5ed5, 0xd807aa98, 0x12835b01, 0x243185be, 0x550c7dc3, 0x72be5d74, 0x80deb1fe,
    0x9bdc06a7, 0xc19bf174, 0xe49b69c1, 0xefbe4786, 0x0fc19dc6, 0x240ca1cc, 0x2de92c6f,
    0x4a7484aa, 0x5cb0a9dc, 0x76f988da, 0x983e5152, 0xa831c66d, 0xb00327c8, 0xbf597fc7,
    0xc6e00bf3, 0xd5a79147, 0x06ca6351, 0x14292967, 0x27b70a85, 0x2e1b2138, 0x4d2c6dfc,
    0x53380d13, 0x650a7354, 0x766a0abb, 0x81c2c92e, 0x92722c85, 0xa2bfe8a1, 0xa81a664b,
    0xc24b8b70, 0xc76c51a3, 0xd192e819, 0xd6990624, 0xf40e3585, 0x106aa070, 0x19a4c116,
    0x1e376c08, 0x2748774c, 0x34b0bcb5, 0x391c0cb3, 0x4ed8aa4a, 0x5b9cca4f, 0x682e6ff3,
    0x748f82ee, 0x78a5636f, 0x84c87814, 0x8cc70208, 0x90befffa, 0xa4506ceb, 0xbef9a3f7,
    0xc67178f2]

/-- The word turned right by fewer than 32 places. -/
def rotateRight (word places : UInt32) : UInt32 :=
  (word >>> places) ||| (word <<< (32 - places))

/-- The 64 round words of a block, extended from its sixteen. -/
def schedule (block : Array UInt32) : Array UInt32 :=
  (List.range 48).foldl
    (fun words i =>
      let w15 := words.getD (i + 1) 0
      let w2 := words.getD (i + 14) 0
      let s0 := rotateRight w15 7 ^^^ rotateRight w15 18 ^^^ (w15 >>> 3)
      let s1 := rotateRight w2 17 ^^^ rotateRight w2 19 ^^^ (w2 >>> 10)
      words.push (words.getD i 0 + s0 + words.getD (i + 9) 0 + s1))
    block

/-- One round with its word and constant added up. -/
def State.round (s : State) (addend : UInt32) : State :=
  let s1 := rotateRight s.e 6 ^^^ rotateRight s.e 11 ^^^ rotateRight s.e 25
  let choice := (s.e &&& s.f) ^^^ ((~~~s.e) &&& s.g)
  let t1 := s.h + s1 + choice + addend
  let s0 := rotateRight s.a 2 ^^^ rotateRight s.a 13 ^^^ rotateRight s.a 22
  let majority := (s.a &&& s.b) ^^^ (s.a &&& s.c) ^^^ (s.b &&& s.c)
  ⟨t1 + s0 + majority, s.a, s.b, s.c, s.d + t1, s.e, s.f, s.g⟩

/-- Word by word sum of two states. -/
def State.add (s t : State) : State :=
  ⟨s.a + t.a, s.b + t.b, s.c + t.c, s.d + t.d, s.e + t.e, s.f + t.f, s.g + t.g, s.h + t.h⟩

/-- The state after one more block of sixteen words. -/
def State.absorb (s : State) (block : Array UInt32) : State :=
  let words := schedule block
  s.add ((List.range 64).foldl
    (fun t i => t.round (words.getD i 0 + roundConstants.getD i 0)) s)

/-- The eight bytes of a length, most significant first. -/
def lengthBytes (bits : Nat) : List UInt8 :=
  (List.range 8).reverse.map fun place => UInt8.ofNat (bits >>> (8 * place))

/-- The message, a one bit, zeros up to a whole number of blocks, and the length in bits. -/
def padded (message : ByteArray) : ByteArray :=
  let zeros := (119 - message.size % 64) % 64
  let tail : List UInt8 := 0x80 :: (List.replicate zeros 0 ++ lengthBytes (8 * message.size))
  tail.foldl ByteArray.push message

/-- The byte at an offset; zero behind the end. -/
def byteAt (bytes : ByteArray) (offset : Nat) : UInt8 :=
  if h : offset < bytes.size then bytes.get offset h else 0

/-- The big-endian word at a byte offset. -/
def wordAt (bytes : ByteArray) (offset : Nat) : UInt32 :=
  (List.range 4).foldl (fun word i => (word <<< 8) ||| (byteAt bytes (offset + i)).toUInt32) 0

/-- The sixteen words of the block with the given number. -/
def blockAt (bytes : ByteArray) (number : Nat) : Array UInt32 :=
  ((List.range 16).map fun i => wordAt bytes (64 * number + 4 * i)).toArray

/-- A word as eight hexadecimal digits. -/
def wordDigits (word : UInt32) : List Char :=
  (List.range 8).reverse.map fun place => Nat.digitChar ((word.toNat >>> (4 * place)) % 16)

/-- The digest of a message as 64 hexadecimal digits. -/
def sha256 (message : ByteArray) : String :=
  let bytes := padded message
  let final := (List.range (bytes.size / 64)).foldl
    (fun state number => state.absorb (blockAt bytes number)) State.initial
  String.ofList ([final.a, final.b, final.c, final.d, final.e, final.f, final.g, final.h].flatMap
    wordDigits)

end Scaffold.Digest
