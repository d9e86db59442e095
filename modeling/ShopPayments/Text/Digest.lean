/-!
# MD5 digests

The digest of a byte sequence: the bytes are padded to blocks of sixteen words,
and each block is mixed into a state of four words in 64 steps. `Digest.hex`
writes the digest of the UTF-8 form of a text in hexadecimal.
-/

namespace ShopPayments
namespace Digest

/-- The four words that the blocks are mixed into. -/
structure State where
  a : UInt32
  b : UInt32
  c : UInt32
  d : UInt32

/-- The state before the first block. -/
def State.initial : State := ⟨0x67452301, 0xefcdab89, 0x98badcfe, 0x10325476⟩

/-- Sixty-four words: the first bits of the sines of whole numbers. -/
def sines : List UInt32 := [
  0xd76aa478, 0xe8c7b756, 0x242070db, 0xc1bdceee, 0xf57c0faf, 0x4787c62a, 0xa8304613, 0xfd469501,
  0x698098d8, 0x8b44f7af, 0xffff5bb1, 0x895cd7be, 0x6b901122, 0xfd987193, 0xa679438e, 0x49b40821,
  0xf61e2562, 0xc040b340, 0x265e5a51, 0xe9b6c7aa, 0xd62f105d, 0x02441453, 0xd8a1e681, 0xe7d3fbc8,
  0x21e1cde6, 0xc33707d6, 0xf4d50d87, 0x455a14ed, 0xa9e3e905, 0xfcefa3f8, 0x676f02d9, 0x8d2a4c8a,
  0xfffa3942, 0x8771f681, 0x6d9d6122, 0xfde5380c, 0xa4beea44, 0x4bdecfa9, 0xf6bb4b60, 0xbebfbc70,
  0x289b7ec6, 0xeaa127fa, 0xd4ef3085, 0x04881d05, 0xd9d4d039, 0xe6db99e5, 0x1fa27cf8, 0xc4ac5665,
  0xf4292244, 0x432aff97, 0xab9423a7, 0xfc93a039, 0x655b59c3, 0x8f0ccc92, 0xffeff47d, 0x85845dd1,
  0x6fa87e4f, 0xfe2ce6e0, 0xa3014314, 0x4e0811a1, 0xf7537e82, 0xbd3af235, 0x2ad7d2bb, 0xeb86d391]

/-- The rotations of the four rounds, four steps each. -/
def rotations : List (List UInt32) :=
  [[7, 12, 17, 22], [5, 9, 14, 20], [4, 11, 16, 23], [6, 10, 15, 21]]

/-- A word rotated to the left. -/
def rotate (x n : UInt32) : UInt32 := (x <<< n) ||| (x >>> (32 - n))

/-- What a step mixes in, and the word of the block that it takes. -/
def select (s : State) (step : Nat) : UInt32 × Nat :=
  match step / 16 with
  | 0 => ((s.b &&& s.c) ||| (~~~s.b &&& s.d), step)
  | 1 => ((s.d &&& s.b) ||| (~~~s.d &&& s.c), (5 * step + 1) % 16)
  | 2 => (s.b ^^^ s.c ^^^ s.d, (3 * step + 5) % 16)
  | _ => (s.c ^^^ (s.b ||| ~~~s.d), (7 * step) % 16)

/-- One step of the mixing. -/
def mixStep (block : List UInt32) (s : State) (step : Nat) (sine : UInt32) : State :=
  let (mixed, index) := select s step
  let sum := s.a + mixed + sine + block.getD index 0
  let rotation := (rotations.getD (step / 16) []).getD (step % 4) 0
  ⟨s.d, s.b + rotate sum rotation, s.b, s.c⟩

/-- Mixes a block of sixteen words into the state. -/
def mixBlock (s : State) (block : List UInt32) : State :=
  let mixed := (sines.zipIdx).foldl (fun s' e => mixStep block s' e.2 e.1) s
  ⟨s.a + mixed.a, s.b + mixed.b, s.c + mixed.c, s.d + mixed.d⟩

/-- The bytes of a number, the lowest first. -/
def littleEndian (n : Nat) : Nat → List UInt8
  | 0 => []
  | count + 1 => UInt8.ofNat n :: littleEndian (n / 256) count

/-- The bytes with a final bit, zeros and the length in bits, up to whole blocks. -/
def padded (bytes : List UInt8) : List UInt8 :=
  let zeros := (119 - bytes.length % 64) % 64
  bytes ++ 0x80 :: List.replicate zeros 0 ++ littleEndian (8 * bytes.length) 8

/-- Four bytes as a word, the lowest first. -/
def words : List UInt8 → List UInt32
  | a :: b :: c :: d :: rest =>
    (a.toUInt32 ||| (b.toUInt32 <<< 8) ||| (c.toUInt32 <<< 16) ||| (d.toUInt32 <<< 24))
      :: words rest
  | _ => []

/-- Mixes all blocks; the first argument bounds their number. -/
def mixAll : Nat → State → List UInt32 → State
  | 0, s, _ => s
  | blocks + 1, s, ws =>
    if ws.isEmpty then s else mixAll blocks (mixBlock s (ws.take 16)) (ws.drop 16)

/-- The sixteen bytes of the digest. -/
def md5 (bytes : List UInt8) : List UInt8 :=
  let ws := words (padded bytes)
  let s := mixAll ws.length .initial ws
  [s.a, s.b, s.c, s.d].flatMap fun w => littleEndian w.toNat 4

/-- Two hexadecimal digits. -/
def hexByte (b : UInt8) : List Char :=
  [Nat.digitChar (b.toNat / 16), Nat.digitChar (b.toNat % 16)]

/-- The digest of a text in hexadecimal. -/
def hex (s : String) : String := String.ofList ((md5 s.toUTF8.toList).flatMap hexByte)

end Digest
end ShopPayments
