import Mathlib.Data.String.Basic
import ResumableUpload.Bytes
/-!
# The order of texts and of their bytes

The UTF-8 form of a character is its number in base 64.  The first byte carries
the first digit and says how many digits follow, and each of these has a byte of
its own.  A form of more bytes begins with a greater byte, and two forms of as
many bytes are compared digit by digit.  So of two characters the lesser one has
the lesser form, whatever follows: `Utf8.encode_append_lt`.

Texts are therefore in the same order by their characters and by their bytes:
`Bytes.ofString_lt_iff`.
-/

namespace ResumableUpload

namespace Utf8

variable {number other count mark : Nat}

/-! ## Digits in base 64 -/

/-- The last digits of a number in base 64, in one byte each. -/
def trailing : Nat → Nat → Bytes
  | 0, _ => []
  | count + 1, number =>
      trailing count (number / 64) ++ [UInt8.ofNat (number % 64 + 0x80)]

/-- How many bytes follow the first one in the form of a character. -/
def following (number : Nat) : Nat :=
  if number ≤ 0x7F then 0
  else if number ≤ 0x7FF then 1
  else if number ≤ 0xFFFF then 2
  else 3

/-- How the first byte says that so many bytes follow. -/
def marking : Nat → Nat
  | 0 => 0
  | 1 => 0xC0
  | 2 => 0xE0
  | _ => 0xF0

/-- The first byte of the form of a character. -/
def leading (number : Nat) : Nat :=
  number / 64 ^ following number + marking (following number)

theorem cons_ofNat_lt (less : number < other) (room : other < 256)
    (left right : Bytes) :
    UInt8.ofNat number :: left < UInt8.ofNat other :: right := by
  refine List.cons_lt_cons_iff.2 (.inl ?_)
  rw [UInt8.lt_iff_toNat_lt, UInt8.toNat_ofNat_of_lt' (less.trans room),
    UInt8.toNat_ofNat_of_lt' room]
  exact less

/-- Of two numbers with as many digits the lesser one has the lesser digits. -/
theorem digits_lt (less : number < other)
    (room : other / 64 ^ count + mark < 256) (left right : Bytes) :
    UInt8.ofNat (number / 64 ^ count + mark) :: trailing count number ++ left
      < UInt8.ofNat (other / 64 ^ count + mark)
        :: trailing count other ++ right := by
  induction count generalizing number other left right with
  | zero =>
      rw [Nat.pow_zero, Nat.div_one] at room
      rw [Nat.pow_zero, Nat.div_one, Nat.div_one]
      exact cons_ofNat_lt (by omega) room _ _
  | succ count hypothesis =>
      rw [Nat.pow_succ', ← Nat.div_div_eq_div_mul] at room
      rw [Nat.pow_succ', ← Nat.div_div_eq_div_mul, ← Nat.div_div_eq_div_mul,
        trailing, trailing, ← List.cons_append, ← List.cons_append,
        List.append_assoc, List.append_assoc]
      rcases Nat.lt_or_ge (number / 64) (other / 64) with before | after
      · exact hypothesis before room _ _
      · have same : number / 64 = other / 64 := by omega
        rw [same]
        exact List.append_left_lt (cons_ofNat_lt (by omega) (by omega) _ _)

/-! ## Characters -/

theorem toNat_lt (c : Char) : c.toNat < 0x110000 := by
  rcases c.valid with low | ⟨-, high⟩
  · exact low.trans (by decide)
  · exact high

/-- The form of a character is its number, digit by digit. -/
theorem encode_eq (c : Char) :
    String.utf8EncodeChar c
      = UInt8.ofNat (leading c.toNat)
        :: trailing (following c.toNat) c.toNat := by
  have valid : c.val.toNat < 0x110000 := toNat_lt c
  rw [String.utf8EncodeChar, leading, following, Char.toNat]
  generalize c.val.toNat = number at valid ⊢
  -- The first digit is cut to the bits that its byte has room for; a number that
  -- is written in so many bytes has no others.
  split
  · simp [trailing, marking]
  · split
    · have first : number / 64 % 32 = number / 64 := by omega
      simp [trailing, marking, first]
    · split
      · have first : number / 4096 % 16 = number / 4096 := by omega
        simp [trailing, marking, first]
      · have first : number / 262144 % 8 = number / 262144 := by omega
        simp [trailing, marking, first, Nat.div_div_eq_div_mul]

/-- What the first byte of a form is, by the number of bytes that follow. -/
theorem leading_cases (valid : number < 0x110000) :
    following number = 0 ∧ number < 0x80 ∧ leading number = number ∨
    following number = 1 ∧ 0x80 ≤ number ∧ number < 0x800 ∧
      leading number = number / 64 + 0xC0 ∨
    following number = 2 ∧ 0x800 ≤ number ∧ number < 0x10000 ∧
      leading number = number / 4096 + 0xE0 ∨
    following number = 3 ∧ 0x10000 ≤ number ∧
      leading number = number / 262144 + 0xF0 := by
  have count := following.eq_def number
  split_ifs at count <;> rw [leading, count, marking] <;> omega

theorem leading_lt (valid : number < 0x110000) : leading number < 256 := by
  have cases := leading_cases valid
  omega

/-- A form of more bytes begins with a greater byte. -/
theorem leading_lt_leading (less : number < other) (valid : other < 0x110000)
    (apart : following number ≠ following other) :
    leading number < leading other := by
  have first := leading_cases (less.trans valid)
  have second := leading_cases valid
  omega

/--
Of two characters the lesser one has the lesser form, whatever follows the two.
-/
theorem encode_append_lt {c d : Char} (less : c < d) (left right : Bytes) :
    String.utf8EncodeChar c ++ left < String.utf8EncodeChar d ++ right := by
  have less : c.toNat < d.toNat := UInt32.lt_iff_toNat_lt.1 less
  have room := leading_lt (toNat_lt d)
  rw [encode_eq, encode_eq]
  by_cases same : following c.toNat = following d.toNat
  · rw [leading] at room
    rw [leading, leading, same]
    exact digits_lt less room left right
  · exact cons_ofNat_lt (leading_lt_leading less (toNat_lt d) same) room _ _

/-! ## Texts -/

theorem flatMap_encode_lt {left right : List Char} (less : left < right) :
    left.flatMap String.utf8EncodeChar < right.flatMap String.utf8EncodeChar := by
  induction less with
  | @nil d rest =>
      rw [List.flatMap_nil, List.flatMap_cons, encode_eq]
      exact List.nil_lt_cons _ _
  | rel less =>
      rw [List.flatMap_cons, List.flatMap_cons]
      exact encode_append_lt less _ _
  | cons _ hypothesis =>
      rw [List.flatMap_cons, List.flatMap_cons]
      exact List.append_left_lt hypothesis

end Utf8

/-- Texts are in the order of their bytes. -/
theorem Bytes.ofString_lt_iff {left right : String} :
    ofString left < ofString right ↔ left < right := by
  have keeps {left right : String} (less : left < right) :
      ofString left < ofString right := by
    rw [ofString_eq_flatMap, ofString_eq_flatMap]
    exact Utf8.flatMap_encode_lt (String.lt_iff.1 less)
  refine ⟨fun less => ?_, keeps⟩
  rcases lt_trichotomy left right with before | rfl | after
  · exact before
  · exact absurd less (List.lt_irrefl _)
  · exact absurd less (List.lt_asymm (keeps after))

end ResumableUpload
