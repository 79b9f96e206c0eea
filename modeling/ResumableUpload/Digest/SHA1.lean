import ResumableUpload.Digest.Iterated
/-!
# SHA-1

The compression step of SHA-1 and the digest of twenty bytes built on it.
-/

namespace ResumableUpload.Digest.SHA1

/-- The five words that a block changes. -/
structure State where
  a : UInt32
  b : UInt32
  c : UInt32
  d : UInt32
  e : UInt32

/-- The eighty words that a block expands to. -/
def schedule (block : Array UInt8) : Array UInt32 :=
  let first := (Array.range 16).map (wordAt block)
  (List.range' 16 64).foldl
    (fun words index =>
      words.push
        (rotateLeft
          (words.getD (index - 3) 0 ^^^ words.getD (index - 8) 0
            ^^^ words.getD (index - 14) 0 ^^^ words.getD (index - 16) 0)
          1))
    first

def round (words : Array UInt32) (state : State) (index : Nat) : State :=
  let (mixed, constant) : UInt32 × UInt32 :=
    match index / 20 with
    | 0 => ((state.b &&& state.c) ||| (~~~state.b &&& state.d), 0x5a827999)
    | 1 => (state.b ^^^ state.c ^^^ state.d, 0x6ed9eba1)
    | 2 =>
        ((state.b &&& state.c) ||| (state.b &&& state.d)
          ||| (state.c &&& state.d), 0x8f1bbcdc)
    | _ => (state.b ^^^ state.c ^^^ state.d, 0xca62c1d6)
  { a := rotateLeft state.a 5 + mixed + state.e + constant
      + words.getD index 0
    b := state.a, c := rotateLeft state.b 30, d := state.c, e := state.d }

def compress (state : State) (block : Array UInt8) : State :=
  let last := (List.range 80).foldl (round (schedule block)) state
  { a := state.a + last.a, b := state.b + last.b, c := state.c + last.c,
    d := state.d + last.d, e := state.e + last.e }

def construction : Construction State where
  start := ⟨0x67452301, 0xefcdab89, 0x98badcfe, 0x10325476, 0xc3d2e1f0⟩
  compress := compress
  lengthBytes := bigEndianLength
  output state :=
    bigEndian state.a ++ bigEndian state.b ++ bigEndian state.c
      ++ bigEndian state.d ++ bigEndian state.e

end ResumableUpload.Digest.SHA1
