/-
The SHA-256 digest of a string of bytes: padding to whole blocks, a schedule of 64 words for each
block, and 64 rounds on a state of eight words.
-/

namespace AdaGlue.Sha256

/-- The chaining state. -/
structure State where
  a : UInt32
  b : UInt32
  c : UInt32
  d : UInt32
  e : UInt32
  f : UInt32
  g : UInt32
  h : UInt32
  deriving DecidableEq, Repr

/-- The fractional parts of the square roots of the first eight primes. -/
def State.initial : State :=
  ⟨0x6a09e667, 0xbb67ae85, 0x3c6ef372, 0xa54ff53a, 0x510e527f, 0x9b05688c, 0x1f83d9ab, 0x5be0cd19⟩

/-- The fractional parts of the cube roots of the first 64 primes. -/
def roundConstants : List UInt32 :=
  [0x428a2f98, 0x71374491, 0xb5c0fbcf, 0xe9b5dba5, 0x3956c25b, 0x59f111f1, 0x923f82a4, 0xab1c5ed5,
   0xd807aa98, 0x12835b01, 0x243185be, 0x550c7dc3, 0x72be5d74, 0x80deb1fe, 0x9bdc06a7, 0xc19bf174,
   0xe49b69c1, 0xefbe4786, 0x0fc19dc6, 0x240ca1cc, 0x2de92c6f, 0x4a7484aa, 0x5cb0a9dc, 0x76f988da,
   0x983e5152, 0xa831c66d, 0xb00327c8, 0xbf597fc7, 0xc6e00bf3, 0xd5a79147, 0x06ca6351, 0x14292967,
   0x27b70a85, 0x2e1b2138, 0x4d2c6dfc, 0x53380d13, 0x650a7354, 0x766a0abb, 0x81c2c92e, 0x92722c85,
   0xa2bfe8a1, 0xa81a664b, 0xc24b8b70, 0xc76c51a3, 0xd192e819, 0xd6990624, 0xf40e3585, 0x106aa070,
   0x19a4c116, 0x1e376c08, 0x2748774c, 0x34b0bcb5, 0x391c0cb3, 0x4ed8aa4a, 0x5b9cca4f, 0x682e6ff3,
   0x748f82ee, 0x78a5636f, 0x84c87814, 0x8cc70208, 0x90befffa, 0xa4506ceb, 0xbef9a3f7, 0xc67178f2]

/-! ## Mixing -/

def rotate (x : UInt32) (n : UInt32) : UInt32 :=
  (x >>> n) ||| (x <<< (32 - n))

def smallSigma0 (x : UInt32) : UInt32 :=
  rotate x 7 ^^^ rotate x 18 ^^^ (x >>> 3)

def smallSigma1 (x : UInt32) : UInt32 :=
  rotate x 17 ^^^ rotate x 19 ^^^ (x >>> 10)

def bigSigma0 (x : UInt32) : UInt32 :=
  rotate x 2 ^^^ rotate x 13 ^^^ rotate x 22

def bigSigma1 (x : UInt32) : UInt32 :=
  rotate x 6 ^^^ rotate x 11 ^^^ rotate x 25

def choose (x y z : UInt32) : UInt32 :=
  (x &&& y) ^^^ (~~~x &&& z)

def majority (x y z : UInt32) : UInt32 :=
  (x &&& y) ^^^ (x &&& z) ^^^ (y &&& z)

/-! ## Blocks -/

def byteAt (bytes : ByteArray) (i : Nat) : UInt8 :=
  if h : i < bytes.size then bytes[i] else 0

/-- The word at a position, its first byte the highest. -/
def wordAt (bytes : ByteArray) (i : Nat) : UInt32 :=
  ((byteAt bytes i).toUInt32 <<< 24) ||| ((byteAt bytes (i + 1)).toUInt32 <<< 16) |||
    ((byteAt bytes (i + 2)).toUInt32 <<< 8) ||| (byteAt bytes (i + 3)).toUInt32

/-- The words of the block at a position. -/
def block (bytes : ByteArray) (start : Nat) : Array UInt32 :=
  ((List.range 16).map fun i => wordAt bytes (start + 4 * i)).toArray

/-- The words of a block, and 48 more of which each is mixed from four earlier ones. -/
def schedule (words : Array UInt32) : Array UInt32 :=
  (List.range 48).foldl
    (fun w i => w.push (smallSigma1 (w.getD (i + 14) 0) + w.getD (i + 9) 0 +
      smallSigma0 (w.getD (i + 1) 0) + w.getD i 0))
    words

/-- One round, with its constant and its word. -/
def round (s : State) (kw : UInt32 × UInt32) : State :=
  let t1 := s.h + bigSigma1 s.e + choose s.e s.f s.g + kw.1 + kw.2
  let t2 := bigSigma0 s.a + majority s.a s.b s.c
  ⟨t1 + t2, s.a, s.b, s.c, s.d + t1, s.e, s.f, s.g⟩

def State.add (s t : State) : State :=
  ⟨s.a + t.a, s.b + t.b, s.c + t.c, s.d + t.d, s.e + t.e, s.f + t.f, s.g + t.g, s.h + t.h⟩

/-- Takes a block into the state. -/
def compress (s : State) (words : Array UInt32) : State :=
  s.add ((roundConstants.zip (schedule words).toList).foldl round s)

/-! ## Messages -/

/-- The number of bits of a message, in eight bytes. -/
def lengthBytes (size : Nat) : List UInt8 :=
  (List.range 8).map fun i => ((size * 8) >>> (56 - 8 * i)).toUInt8

/-- The message with a one bit, zeros and its length behind it, a whole number of blocks. -/
def pad (message : ByteArray) : ByteArray :=
  let zeros := (119 - message.size % 64) % 64
  message ++ ⟨(0x80 :: (List.replicate zeros 0 ++ lengthBytes message.size)).toArray⟩

def digest (message : ByteArray) : State :=
  let padded := pad message
  (List.range (padded.size / 64)).foldl (fun s n => compress s (block padded (64 * n))) .initial

/-- Eight lowercase hexadecimal digits. -/
def hexWord (w : UInt32) : String :=
  String.ofList ((List.range 8).map fun i => Nat.digitChar ((w.toNat >>> (28 - 4 * i)) % 16))

/-- The digest in hexadecimal. -/
def hex (message : ByteArray) : String :=
  let s := digest message
  String.join ([s.a, s.b, s.c, s.d, s.e, s.f, s.g, s.h].map hexWord)

end AdaGlue.Sha256
