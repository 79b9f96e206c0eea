/-!
# Letter case of ASCII text

Names on the wire (methods, header names, extension names, algorithm names,
metadata keys, paths) are compared without regard to the case of the
twenty-six ASCII letters.  Letters outside ASCII have no case here.
-/

namespace ResumableUpload.Ascii

/-- The lower-case form of an ASCII letter; any other character stays. -/
def lower (c : Char) : Char :=
  if 'A' ≤ c ∧ c ≤ 'Z' then Char.ofNat (c.toNat + 32) else c

/-- The upper-case form of an ASCII letter; any other character stays. -/
def upper (c : Char) : Char :=
  if 'a' ≤ c ∧ c ≤ 'z' then Char.ofNat (c.toNat - 32) else c

/-- The text with its ASCII letters in lower case. -/
def toLower (text : String) : String :=
  String.ofList (text.toList.map lower)

/-- The text with its ASCII letters in upper case. -/
def toUpper (text : String) : String :=
  String.ofList (text.toList.map upper)

/-- Whether two lists of characters are equal up to the case of ASCII letters. -/
def same : List Char → List Char → Bool
  | [], [] => true
  | left :: lefts, right :: rights =>
      lower left == lower right && same lefts rights
  | _, _ => false

theorem same_iff {left right : List Char} :
    same left right = true ↔ left.map lower = right.map lower := by
  induction left generalizing right with
  | nil => cases right <;> simp [same]
  | cons c rest hypothesis => cases right <;> simp [same, hypothesis]

/-- Whether two texts are equal up to the case of ASCII letters. -/
def equal (left right : String) : Bool :=
  same left.toList right.toList

theorem equal_iff {left right : String} :
    equal left right = true ↔ toLower left = toLower right := by
  rw [equal, same_iff, toLower, toLower, String.ofList_inj]

/-- Whether a character is an ASCII letter. -/
def isLetter (c : Char) : Bool :=
  ('a' ≤ c ∧ c ≤ 'z') || ('A' ≤ c ∧ c ≤ 'Z')

/-- Whether a character is an ASCII digit. -/
def isDigit (c : Char) : Bool :=
  '0' ≤ c ∧ c ≤ '9'

end ResumableUpload.Ascii
