/-!
# Classes of characters

Where a class of characters follows no rule that is shorter than a list, it is
given by the ranges of their numbers.  The ranges of a class ascend, so a search
may stop early.
-/

namespace ResumableUpload

/-- A class of characters. -/
structure CharClass where
  /-- The first and the last number of each unbroken range, in order. -/
  ranges : List (Nat × Nat)

namespace CharClass

/--
Whether a number lies in one of the ranges.  The search ends at the first range
that begins after the number.
-/
def within (number : Nat) : List (Nat × Nat) → Bool
  | [] => false
  | (first, last) :: later =>
      first ≤ number && (number ≤ last || within number later)

/-- Whether a character belongs to a class. -/
def has (charClass : CharClass) (c : Char) : Bool :=
  within c.toNat charClass.ranges

end CharClass

end ResumableUpload
