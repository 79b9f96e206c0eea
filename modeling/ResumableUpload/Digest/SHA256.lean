import ResumableUpload.Digest.Iterated
/-!
# SHA-256

The compression step of SHA-256 and the digest of thirty-two bytes built on it.
-/

namespace ResumableUpload.Digest.SHA256

/-- The eight words that a block changes. -/
structure State where
  a : UInt32
  b : UInt32
  c : UInt32
  d : UInt32
  e : UInt32
  f : UInt32
  g : UInt32
  h : UInt32

/-- The constants of the sixty-four rounds: cube roots of the first primes. -/
def cubeRoots : Array UInt32 := #[
  0x428a2f98, 0x71374491, 0xb5c0fbcf, 0xe9b5dba5,
  0x3956c25b, 0x59f111f1, 0x923f82a4, 0xab1c5ed5,
  0xd807aa98, 0x12835b01, 0x243185be, 0x550c7dc3,
  0x72be5d74, 0x80deb1fe, 0x9bdc06a7, 0xc19bf174,
  0xe49b69c1, 0xefbe4786, 0x0fc19dc6, 0x240ca1cc,
  0x2de92c6f, 0x4a7484aa, 0x5cb0a9dc, 0x76f988da,
  0x983e5152, 0xa831c66d, 0xb00327c8, 0xbf597fc7,
  0xc6e00bf3, 0xd5a79147, 0x06ca6351, 0x14292967,
  0x27b70a85, 0x2e1b2138, 0x4d2c6dfc, 0x53380d13,
  0x650a7354, 0x766a0abb, 0x81c2c92e, 0x92722c85,
  0xa2bfe8a1, 0xa81a664b, 0xc24b8b70, 0xc76c51a3,
  0xd192e819, 0xd6990624, 0xf40e3585, 0x106aa070,
  0x19a4c116, 0x1e376c08, 0x2748774c, 0x34b0bcb5,
  0x391c0cb3, 0x4ed8aa4a, 0x5b9cca4f, 0x682e6ff3,
  0x748f82ee, 0x78a5636f, 0x84c87814, 0x8cc70208,
  0x90befffa, 0xa4506ceb, 0xbef9a3f7, 0xc67178f2]

/-- The sixty-four words that a block expands to. -/
def schedule (block : Array UInt8) : Array UInt32 :=
  let first := (Array.range 16).map (wordAt block)
  (List.range' 16 48).foldl
    (fun words index =>
      let near := words.getD (index - 2) 0
      let far := words.getD (index - 15) 0
      let nearMix :=
        rotateRight near 17 ^^^ rotateRight near 19 ^^^ (near >>> 10)
      let farMix := rotateRight far 7 ^^^ rotateRight far 18 ^^^ (far >>> 3)
      words.push
        (nearMix + words.getD (index - 7) 0 + farMix
          + words.getD (index - 16) 0))
    first

def round (words : Array UInt32) (state : State) (index : Nat) : State :=
  let upperMix :=
    rotateRight state.e 6 ^^^ rotateRight state.e 11 ^^^ rotateRight state.e 25
  let choice := (state.e &&& state.f) ^^^ (~~~state.e &&& state.g)
  let first :=
    state.h + upperMix + choice + cubeRoots.getD index 0 + words.getD index 0
  let lowerMix :=
    rotateRight state.a 2 ^^^ rotateRight state.a 13 ^^^ rotateRight state.a 22
  let majority :=
    (state.a &&& state.b) ^^^ (state.a &&& state.c) ^^^ (state.b &&& state.c)
  { a := first + (lowerMix + majority), b := state.a, c := state.b,
    d := state.c, e := state.d + first, f := state.e, g := state.f,
    h := state.g }

def compress (state : State) (block : Array UInt8) : State :=
  let last := (List.range 64).foldl (round (schedule block)) state
  { a := state.a + last.a, b := state.b + last.b, c := state.c + last.c,
    d := state.d + last.d, e := state.e + last.e, f := state.f + last.f,
    g := state.g + last.g, h := state.h + last.h }

def construction : Construction State where
  start :=
    ⟨0x6a09e667, 0xbb67ae85, 0x3c6ef372, 0xa54ff53a, 0x510e527f, 0x9b05688c,
      0x1f83d9ab, 0x5be0cd19⟩
  compress := compress
  lengthBytes := bigEndianLength
  output state :=
    bigEndian state.a ++ bigEndian state.b ++ bigEndian state.c
      ++ bigEndian state.d ++ bigEndian state.e ++ bigEndian state.f
      ++ bigEndian state.g ++ bigEndian state.h

end ResumableUpload.Digest.SHA256
