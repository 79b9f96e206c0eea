/-!
# Cutting text

Lists in header values are written with separators, paths with slashes, and
one rule measures a text in UTF-8 bytes.  This module holds the cuts: at each
occurrence of a separator, at the first one, at the ends, and at a number of
bytes.
-/

namespace ResumableUpload.Split

/--
The pieces between the occurrences of a separator.  There is always one piece
more than there are separators, so pieces may be empty.
-/
def pieces (separator : Char) : List Char → List (List Char)
  | [] => [[]]
  | c :: rest =>
      if c = separator then [] :: pieces separator rest
      else
        match pieces separator rest with
        | [] => [[c]]
        | piece :: others => (c :: piece) :: others

/-- The parts before and after the first occurrence of a separator. -/
def atFirst? (separator : Char) : List Char → Option (List Char × List Char)
  | [] => none
  | c :: rest =>
      if c = separator then some ([], rest)
      else (atFirst? separator rest).map fun cut => (c :: cut.1, cut.2)

/-- The characters without the trailing occurrences of one character. -/
def trimEnd (trailing : Char) (chars : List Char) : List Char :=
  (chars.reverse.dropWhile (· == trailing)).reverse

/-- The characters without the occurrences of one character at either end. -/
def trimBoth (outer : Char) (chars : List Char) : List Char :=
  trimEnd outer (chars.dropWhile (· == outer))

/-- The number of bytes of the UTF-8 form. -/
def byteLength (chars : List Char) : Nat :=
  chars.foldl (fun count c => count + c.utf8Size) 0

/--
The characters before and after a number of UTF-8 bytes.  There is no such
cut if the text is shorter, or if the place lies inside a character.
-/
def atByte? : Nat → List Char → Option (List Char × List Char)
  | 0, chars => some ([], chars)
  | _ + 1, [] => none
  | count + 1, c :: rest =>
      if c.utf8Size ≤ count + 1 then
        (atByte? (count + 1 - c.utf8Size) rest).map
          fun cut => (c :: cut.1, cut.2)
      else none

/-- The texts in order, with a separator between each two. -/
def join (separator : String) (texts : List String) : String :=
  separator.intercalate texts

end ResumableUpload.Split
