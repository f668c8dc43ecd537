/-!
# MD5

`digest` is the MD5 digest of a byte string (RFC 1321): the message is padded with a one
bit, zeros and its length in bits to a whole number of 64-byte blocks, and each block is
mixed into four 32-bit words by four rounds of sixteen steps. The digest is the four words,
each written least significant byte first.
-/

namespace CatalogSync.Md5

def constants : List UInt32 :=
  [0xd76aa478, 0xe8c7b756, 0x242070db, 0xc1bdceee, 0xf57c0faf, 0x4787c62a, 0xa8304613,
   0xfd469501, 0x698098d8, 0x8b44f7af, 0xffff5bb1, 0x895cd7be, 0x6b901122, 0xfd987193,
   0xa679438e, 0x49b40821, 0xf61e2562, 0xc040b340, 0x265e5a51, 0xe9b6c7aa, 0xd62f105d,
   0x02441453, 0xd8a1e681, 0xe7d3fbc8, 0x21e1cde6, 0xc33707d6, 0xf4d50d87, 0x455a14ed,
   0xa9e3e905, 0xfcefa3f8, 0x676f02d9, 0x8d2a4c8a, 0xfffa3942, 0x8771f681, 0x6d9d6122,
   0xfde5380c, 0xa4beea44, 0x4bdecfa9, 0xf6bb4b60, 0xbebfbc70, 0x289b7ec6, 0xeaa127fa,
   0xd4ef3085, 0x04881d05, 0xd9d4d039, 0xe6db99e5, 0x1fa27cf8, 0xc4ac5665, 0xf4292244,
   0x432aff97, 0xab9423a7, 0xfc93a039, 0x655b59c3, 0x8f0ccc92, 0xffeff47d, 0x85845dd1,
   0x6fa87e4f, 0xfe2ce6e0, 0xa3014314, 0x4e0811a1, 0xf7537e82, 0xbd3af235, 0x2ad7d2bb,
   0xeb86d391]

def rotations : List UInt32 :=
  (List.replicate 4 [7, 12, 17, 22]).flatten ++ (List.replicate 4 [5, 9, 14, 20]).flatten ++
  (List.replicate 4 [4, 11, 16, 23]).flatten ++ (List.replicate 4 [6, 10, 15, 21]).flatten

def rotateLeft (x s : UInt32) : UInt32 := (x <<< s) ||| (x >>> (32 - s))

/-- The four words of the state. -/
structure State where
  a : UInt32
  b : UInt32
  c : UInt32
  d : UInt32

def initial : State := ⟨0x67452301, 0xefcdab89, 0x98badcfe, 0x10325476⟩

def mix (i : Nat) (b c d : UInt32) : UInt32 × Nat :=
  if i < 16 then ((b &&& c) ||| (~~~b &&& d), i)
  else if i < 32 then ((d &&& b) ||| (~~~d &&& c), (5 * i + 1) % 16)
  else if i < 48 then (b ^^^ c ^^^ d, (3 * i + 5) % 16)
  else (c ^^^ (b ||| ~~~d), 7 * i % 16)

def step (words : List UInt32) (s : State) (i : Nat) : State :=
  let (f, g) := mix i s.b s.c s.d
  let f := f + s.a + constants.getD i 0 + words.getD g 0
  { a := s.d, b := s.b + rotateLeft f (rotations.getD i 0), c := s.b, d := s.c }

def blockWords (block : List UInt8) : List UInt32 :=
  (List.range 16).map fun k =>
    let byte (j : Nat) : UInt32 := (block.getD (4 * k + j) 0).toUInt32
    byte 0 ||| (byte 1 <<< 8) ||| (byte 2 <<< 16) ||| (byte 3 <<< 24)

def block (s : State) (bytes : List UInt8) : State :=
  let words := blockWords bytes
  let t := (List.range 64).foldl (step words) s
  ⟨s.a + t.a, s.b + t.b, s.c + t.c, s.d + t.d⟩

def blocks : Nat → State → List UInt8 → State
  | 0, s, _ => s
  | fuel + 1, s, bytes =>
    if bytes.isEmpty then s else blocks fuel (block s (bytes.take 64)) (bytes.drop 64)

def littleEndian (n : Nat) (x : Nat) : List UInt8 :=
  (List.range n).map fun k => UInt8.ofNat (x / Nat.pow 256 k % 256)

def pad (message : List UInt8) : List UInt8 :=
  let zeros := (119 - message.length % 64) % 64
  message ++ [0x80] ++ List.replicate zeros 0 ++ littleEndian 8 (8 * message.length % Nat.pow 2 64)

/-- The MD5 digest of a message. -/
def digest (message : List UInt8) : List UInt8 :=
  let padded := pad message
  let s := blocks (padded.length / 64 + 1) initial padded
  [s.a, s.b, s.c, s.d].flatMap fun w => littleEndian 4 w.toNat

end CatalogSync.Md5
