import ResumableUpload.Text.Ascii
/-!
# Decimal numbers of 64 bits

Lengths, offsets and timeouts are written as decimal digits with an optional
sign.  A number that does not fit into 64 bits is not read at all.
-/

namespace ResumableUpload.Decimal

/--
The value of a run of ASCII digits, read after `value`, if it is below a bound.
Reading stops at the first digit that leads beyond the bound, since no digit
leads back.
-/
def digitsFrom (bound value : Nat) : List Char → Option Nat
  | [] => some value
  | c :: rest =>
      let next := value * 10 + (c.toNat - 48)
      if Ascii.isDigit c && next < bound then digitsFrom bound next rest
      else none

/-- The value of a text of ASCII digits, at least one, if it is below a bound. -/
def digits? (bound : Nat) : List Char → Option Nat
  | [] => none
  | chars => digitsFrom bound 0 chars

/-- One more than the largest unsigned number of 64 bits. -/
def unsignedBound : Nat := 18446744073709551616

/-- One more than the largest signed number of 64 bits. -/
def signedBound : Nat := 9223372036854775808

/-- An unsigned number: digits, perhaps after a plus sign, below `2 ^ 64`. -/
def unsigned? (chars : List Char) : Option Nat :=
  match chars with
  | '+' :: rest => digits? unsignedBound rest
  | _ => digits? unsignedBound chars

/--
A signed number: digits, perhaps after a sign, from `-2 ^ 63` up to but not
including `2 ^ 63`.
-/
def signed? (chars : List Char) : Option Int :=
  match chars with
  | '-' :: rest => (digits? (signedBound + 1) rest).map fun n => -(n : Int)
  | '+' :: rest => (digits? signedBound rest).map fun n => (n : Int)
  | _ => (digits? signedBound chars).map fun n => (n : Int)

/--
The decimal form of a number with at least `width` digits, filled up with
zeros on the left.
-/
def padded (width value : Nat) : String :=
  let text := toString value
  String.ofList (List.replicate (width - text.length) '0') ++ text

end ResumableUpload.Decimal
