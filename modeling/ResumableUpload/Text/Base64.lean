import ResumableUpload.Bytes
/-!
# Base64

The standard alphabet with padding.  Only canonical text is read: groups of
four characters, padding at the end alone, and no stray bits under the
padding, so every list of bytes has exactly one written form.
-/

namespace ResumableUpload.Base64

/-- The character for a value below sixty-four. -/
def digit (value : Nat) : Char :=
  if value < 26 then Char.ofNat (65 + value)
  else if value < 52 then Char.ofNat (97 + (value - 26))
  else if value < 62 then Char.ofNat (48 + (value - 52))
  else if value = 62 then '+'
  else '/'

/-- The value of a character of the alphabet. -/
def value? (c : Char) : Option Nat :=
  if 'A' ≤ c ∧ c ≤ 'Z' then some (c.toNat - 65)
  else if 'a' ≤ c ∧ c ≤ 'z' then some (c.toNat - 97 + 26)
  else if '0' ≤ c ∧ c ≤ '9' then some (c.toNat - 48 + 52)
  else if c = '+' then some 62
  else if c = '/' then some 63
  else none

def encode : Bytes → List Char
  | [] => []
  | [a] => [digit (a.toNat / 4), digit (a.toNat % 4 * 16), '=', '=']
  | [a, b] =>
      [digit (a.toNat / 4), digit (a.toNat % 4 * 16 + b.toNat / 16),
        digit (b.toNat % 16 * 4), '=']
  | a :: b :: c :: rest =>
      digit (a.toNat / 4) :: digit (a.toNat % 4 * 16 + b.toNat / 16)
        :: digit (b.toNat % 16 * 4 + c.toNat / 64) :: digit (c.toNat % 64)
        :: encode rest

/-- The byte of a last group of two characters and two pads. -/
def lastOne (first second : Char) : Option Bytes := do
  let p ← value? first
  let q ← value? second
  if q % 16 = 0 then some [UInt8.ofNat (p * 4 + q / 16)] else none

/-- The two bytes of a last group of three characters and one pad. -/
def lastTwo (first second third : Char) : Option Bytes := do
  let p ← value? first
  let q ← value? second
  let r ← value? third
  if r % 4 = 0 then
    some [UInt8.ofNat (p * 4 + q / 16), UInt8.ofNat (q % 16 * 16 + r / 4)]
  else none

/-- The three bytes of a full group of four characters. -/
def fullGroup (first second third fourth : Char) : Option Bytes := do
  let p ← value? first
  let q ← value? second
  let r ← value? third
  let s ← value? fourth
  some [UInt8.ofNat (p * 4 + q / 16), UInt8.ofNat (q % 16 * 16 + r / 4),
    UInt8.ofNat (r % 4 * 64 + s)]

/-- The bytes that a canonical text stands for. -/
def decode : List Char → Option Bytes
  | [] => some []
  | [a, b, '=', '='] => lastOne a b
  | [a, b, c, '='] => lastTwo a b c
  | a :: b :: c :: d :: rest => do
      let group ← fullGroup a b c d
      let others ← decode rest
      some (group ++ others)
  | _ => none

end ResumableUpload.Base64
