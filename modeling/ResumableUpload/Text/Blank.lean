/-!
# White space

Header values are trimmed and split at white space in the sense of the
Unicode property `White_Space`, which holds of twenty-five characters.
-/

namespace ResumableUpload.Blank

/-- Whether a character has the Unicode property `White_Space`. -/
def isBlank (c : Char) : Bool :=
  (9 ≤ c.toNat ∧ c.toNat ≤ 13) || c.toNat = 0x20 || c.toNat = 0x85
    || c.toNat = 0xA0 || c.toNat = 0x1680
    || (0x2000 ≤ c.toNat ∧ c.toNat ≤ 0x200A)
    || c.toNat = 0x2028 || c.toNat = 0x2029 || c.toNat = 0x202F
    || c.toNat = 0x205F || c.toNat = 0x3000

/-- The characters without white space at either end. -/
def trimmed (chars : List Char) : List Char :=
  ((chars.dropWhile isBlank).reverse.dropWhile isBlank).reverse

/-- The text without white space at either end. -/
def trim (text : String) : String :=
  String.ofList (trimmed text.toList)

/--
The maximal runs of characters that are not white space, in order, where
`run` is the run that the preceding characters have begun, in reverse.
-/
def wordsFrom (run : List Char) : List Char → List (List Char)
  | [] => if run.isEmpty then [] else [run.reverse]
  | c :: rest =>
      if isBlank c then
        if run.isEmpty then wordsFrom [] rest
        else run.reverse :: wordsFrom [] rest
      else wordsFrom (c :: run) rest

/-- The maximal runs of characters that are not white space, in order. -/
def words (chars : List Char) : List (List Char) :=
  wordsFrom [] chars

end ResumableUpload.Blank
