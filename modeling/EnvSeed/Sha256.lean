/-!
# SHA-256

The hash of a byte string: padding to whole blocks, the message schedule of a block, and 64 rounds
that mix a block into eight words.
-/

namespace EnvSeed.Sha256

/-- The eight words carried from block to block. -/
structure Words where
  a : UInt32
  b : UInt32
  c : UInt32
  d : UInt32
  e : UInt32
  f : UInt32
  g : UInt32
  h : UInt32

/-- The fractional parts of the square roots of the first eight primes. -/
def initial : Words :=
  ⟨0x6a09e667, 0xbb67ae85, 0x3c6ef372, 0xa54ff53a, 0x510e527f, 0x9b05688c, 0x1f83d9ab, 0x5be0cd19⟩

/-- The fractional parts of the cube roots of the first 64 primes. -/
def roundConstants : List UInt32 :=
  [0x428a2f98, 0x71374491, 0xb5c0fbcf, 0xe9b5dba5, 0x3956c25b, 0x59f111f1, 0x923f82a4, 0xab1c5ed5,
   0xd807aa98, 0x12835b01, 0x243185be, 0x550c7dc3, 0x72be5d74, 0x80deb1fe, 0x9bdc06a7, 0xc19bf174,
   0xe49b69c1, 0xefbe4786, 0x0fc19dc6, 0x240ca1cc, 0x2de92c6f, 0x4a7484aa, 0x5cb0a9dc, 0x76f988da,
   0x983e5152, 0xa831c66d, 0xb00327c8, 0xbf597fc7, 0xc6e00bf3, 0xd5a79147, 0x06ca6351, 0x14292967,
   0x27b70a85, 0x2e1b2138, 0x4d2c6dfc, 0x53380d13, 0x650a7354, 0x766a0abb, 0x81c2c92e, 0x92722c85,
   0xa2bfe8a1, 0xa81a664b, 0xc24b8b70, 0xc76c51a3, 0xd192e819, 0xd6990624, 0xf40e3585, 0x106aa070,
   0x19a4c116, 0x1e376c08, 0x2748774c, 0x34b0bcb5, 0x391c0cb3, 0x4ed8aa4a, 0x5b9cca4f, 0x682e6ff3,
   0x748f82ee, 0x78a5636f, 0x84c87814, 0x8cc70208, 0x90befffa, 0xa4506ceb, 0xbef9a3f7, 0xc67178f2]

/-- Rotate a word to the right. -/
def rotate (word count : UInt32) : UInt32 :=
  (word >>> count) ||| (word <<< (32 - count))

/-- The message followed by one set bit, zeros, and its length in bits as 64 bits. -/
def padded (message : ByteArray) : Array UInt8 :=
  let zeros := (119 - message.size % 64) % 64
  let bits := message.size * 8
  let length := (List.range 8).map fun i => UInt8.ofNat (bits >>> (8 * (7 - i)))
  message.data ++ #[0x80] ++ Array.replicate zeros 0 ++ length.toArray

/-- The big-endian word at an offset. -/
def wordAt (bytes : Array UInt8) (offset : Nat) : UInt32 :=
  (List.range 4).foldl (fun word i => (word <<< 8) ||| (bytes.getD (offset + i) 0).toUInt32) 0

/-- Add the next word of a message schedule. -/
def extendSchedule (words : Array UInt32) : Array UInt32 :=
  let back (distance : Nat) := words.getD (words.size - distance) 0
  let early := back 15
  let late := back 2
  words.push (back 16 + (rotate early 7 ^^^ rotate early 18 ^^^ (early >>> 3)) + back 7 +
    (rotate late 17 ^^^ rotate late 19 ^^^ (late >>> 10)))

/-- The 64 words of the block at an offset: its own 16, and 48 made from them. -/
def schedule (bytes : Array UInt8) (offset : Nat) : Array UInt32 :=
  (List.range 48).foldl (fun words _ => extendSchedule words)
    ((List.range 16).map fun i => wordAt bytes (offset + 4 * i)).toArray

/-- One round, with its constant and its word of the schedule added up. -/
def Words.mix (w : Words) (input : UInt32) : Words :=
  let first := w.h + (rotate w.e 6 ^^^ rotate w.e 11 ^^^ rotate w.e 25) +
    ((w.e &&& w.f) ^^^ (~~~w.e &&& w.g)) + input
  let second := (rotate w.a 2 ^^^ rotate w.a 13 ^^^ rotate w.a 22) +
    ((w.a &&& w.b) ^^^ (w.a &&& w.c) ^^^ (w.b &&& w.c))
  ⟨first + second, w.a, w.b, w.c, w.d + first, w.e, w.f, w.g⟩

/-- Add two states word by word. -/
def Words.add (v w : Words) : Words :=
  ⟨v.a + w.a, v.b + w.b, v.c + w.c, v.d + w.d, v.e + w.e, v.f + w.f, v.g + w.g, v.h + w.h⟩

/-- Mix the block at an offset into the words. -/
def Words.absorb (words : Words) (bytes : Array UInt8) (offset : Nat) : Words :=
  words.add ((List.zipWith (· + ·) roundConstants (schedule bytes offset).toList).foldl Words.mix words)

/-- The words after the whole message. -/
def hash (message : ByteArray) : Words :=
  let bytes := padded message
  (List.range (bytes.size / 64)).foldl (fun words i => words.absorb bytes (64 * i)) initial

/-- A word as eight lower-case hexadecimal digits. -/
def hexWord (word : UInt32) : List Char :=
  (List.range 8).map fun i => Nat.digitChar (word.toNat >>> (4 * (7 - i)) % 16)

/-- The hash as 64 lower-case hexadecimal digits. -/
def hexDigest (message : ByteArray) : List Char :=
  let w := hash message
  [w.a, w.b, w.c, w.d, w.e, w.f, w.g, w.h].flatMap hexWord

end EnvSeed.Sha256
