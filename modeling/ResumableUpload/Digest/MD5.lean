import ResumableUpload.Digest.Iterated
/-!
# MD5

The compression step of MD5 and the digest of sixteen bytes built on it.
-/

namespace ResumableUpload.Digest.MD5

/-- The four words that a block changes. -/
structure State where
  a : UInt32
  b : UInt32
  c : UInt32
  d : UInt32

/-- The constants added in the sixty-four rounds: the sines of 1, 2, … 64. -/
def sines : Array UInt32 := #[
  0xd76aa478, 0xe8c7b756, 0x242070db, 0xc1bdceee,
  0xf57c0faf, 0x4787c62a, 0xa8304613, 0xfd469501,
  0x698098d8, 0x8b44f7af, 0xffff5bb1, 0x895cd7be,
  0x6b901122, 0xfd987193, 0xa679438e, 0x49b40821,
  0xf61e2562, 0xc040b340, 0x265e5a51, 0xe9b6c7aa,
  0xd62f105d, 0x02441453, 0xd8a1e681, 0xe7d3fbc8,
  0x21e1cde6, 0xc33707d6, 0xf4d50d87, 0x455a14ed,
  0xa9e3e905, 0xfcefa3f8, 0x676f02d9, 0x8d2a4c8a,
  0xfffa3942, 0x8771f681, 0x6d9d6122, 0xfde5380c,
  0xa4beea44, 0x4bdecfa9, 0xf6bb4b60, 0xbebfbc70,
  0x289b7ec6, 0xeaa127fa, 0xd4ef3085, 0x04881d05,
  0xd9d4d039, 0xe6db99e5, 0x1fa27cf8, 0xc4ac5665,
  0xf4292244, 0x432aff97, 0xab9423a7, 0xfc93a039,
  0x655b59c3, 0x8f0ccc92, 0xffeff47d, 0x85845dd1,
  0x6fa87e4f, 0xfe2ce6e0, 0xa3014314, 0x4e0811a1,
  0xf7537e82, 0xbd3af235, 0x2ad7d2bb, 0xeb86d391]

/-- The turns of the four groups of rounds, four to a group. -/
def turns : Array UInt32 := #[
  7, 12, 17, 22, 5, 9, 14, 20, 4, 11, 16, 23, 6, 10, 15, 21]

def round (block : Array UInt8) (state : State) (index : Nat) : State :=
  let group := index / 16
  let mixed :=
    match group with
    | 0 => (state.b &&& state.c) ||| (~~~state.b &&& state.d)
    | 1 => (state.d &&& state.b) ||| (~~~state.d &&& state.c)
    | 2 => state.b ^^^ state.c ^^^ state.d
    | _ => state.c ^^^ (state.b ||| ~~~state.d)
  let place :=
    match group with
    | 0 => index
    | 1 => (5 * index + 1) % 16
    | 2 => (3 * index + 5) % 16
    | _ => 7 * index % 16
  let sum :=
    mixed + state.a + sines.getD index 0 + wordAtReversed block place
  let turn := turns.getD (4 * group + index % 4) 7
  { a := state.d, b := state.b + rotateLeft sum turn, c := state.b,
    d := state.c }

def compress (state : State) (block : Array UInt8) : State :=
  let last := (List.range 64).foldl (round block) state
  { a := state.a + last.a, b := state.b + last.b, c := state.c + last.c,
    d := state.d + last.d }

def construction : Construction State where
  start := ⟨0x67452301, 0xefcdab89, 0x98badcfe, 0x10325476⟩
  compress := compress
  lengthBytes bits := (bigEndianLength bits).reverse
  output state :=
    littleEndian state.a ++ littleEndian state.b ++ littleEndian state.c
      ++ littleEndian state.d

end ResumableUpload.Digest.MD5
