import ResumableUpload.Text.Ascii
import ResumableUpload.Text.Split
/-!
# The path of a URI

Uploads are referenced by URI, in full or from the path on.  Only the path of
a reference counts, but a text is a reference only if all of it is well
formed: an optional scheme and authority, a path, an optional query, and a
fragment that is cut off unread.  Nothing is decoded.
-/

namespace ResumableUpload.Uri

/-- The longest reference that is read, in bytes. -/
def maxLength : Nat := 65534

def maxSchemeLength : Nat := 64

/-- Whether a character may stand in a scheme. -/
def isSchemeChar (c : Char) : Bool :=
  Ascii.isLetter c || Ascii.isDigit c || c = '+' || c = '-' || c = '.' || c = '~'

/-- Whether a character may stand in an authority, apart from a percent sign. -/
def isAuthorityChar (c : Char) : Bool :=
  Ascii.isLetter c || Ascii.isDigit c
    || ['!', '$', '&', '\'', '(', ')', '*', '+', ',', '-', '.', ':', ';', '=',
        '@', '[', ']', '_', '~'].contains c

/--
Whether a character may stand in a path.  A delete, U+007F, may not, as the
other control characters of ASCII.
-/
def isPathChar (c : Char) : Bool :=
  c.toNat = 0x21 || c.toNat = 0x22 || (0x24 ≤ c.toNat ∧ c.toNat ≤ 0x3B)
    || c.toNat = 0x3D || (0x40 ≤ c.toNat ∧ c.toNat ≤ 0x5F)
    || (0x61 ≤ c.toNat ∧ c.toNat ≤ 0x7E) || 0x80 ≤ c.toNat

/-- Whether a character may stand in a query; again a delete may not. -/
def isQueryChar (c : Char) : Bool :=
  c.toNat = 0x21 || (0x24 ≤ c.toNat ∧ c.toNat ≤ 0x3B) || c.toNat = 0x3D
    || (0x3F ≤ c.toNat ∧ c.toNat ≤ 0x7E) || 0x80 ≤ c.toNat

def endsAuthority (c : Char) : Bool :=
  c = '/' || c = '?' || c = '#'

/-- What has been seen of an authority. -/
structure Seen where
  /-- The colons since the last at sign or closing bracket. -/
  colons : Nat := 0
  /-- Whether a percent sign stands since the last at sign or closing bracket. -/
  percent : Bool := false
  /-- Whether an opening bracket has been seen. -/
  opened : Bool := false
  /-- Whether a closing bracket has been seen. -/
  closed : Bool := false
  /-- Whether the last character was an at sign. -/
  atLast : Bool := false

namespace Seen

/-- One character more, unless it cannot stand there. -/
def next? (seen : Seen) (c : Char) : Option Seen :=
  let seen := { seen with atLast := c == '@' }
  if c = ':' then
    if seen.colons < 8 then some { seen with colons := seen.colons + 1 } else none
  else if c = '[' then
    if seen.percent || seen.opened then none else some { seen with opened := true }
  else if c = ']' then
    if !seen.opened || seen.closed then none
    else some { seen with closed := true, colons := 0, percent := false }
  else if c = '@' then some { seen with colons := 0, percent := false }
  else if c = '%' then some { seen with percent := true }
  else if isAuthorityChar c then some seen
  else none

/-- All characters of an authority, unless one cannot stand there. -/
def all? (seen : Seen) : List Char → Option Seen
  | [] => some seen
  | c :: rest => (seen.next? c).bind fun seen => seen.all? rest

/-- Whether an authority may end here. -/
def isComplete (seen : Seen) : Bool :=
  seen.opened == seen.closed && seen.colons ≤ 1 && !seen.atLast && !seen.percent

end Seen

/-- Whether the characters are an authority; they may not be empty. -/
def isAuthority (chars : List Char) : Bool :=
  !chars.isEmpty
    && match ({} : Seen).all? chars with
      | some seen => seen.isComplete
      | none => false

/--
The path of a text that begins with the path.  The text is a single asterisk
or begins with a slash, a question mark or a number sign; an empty path stands
for a slash.
-/
def pathOfRelative? (chars : List Char) : Option (List Char) :=
  if chars = ['*'] then some ['*']
  else if !(chars.head?.any endsAuthority) then none
  else
    let path := chars.takeWhile fun c => c != '?' && c != '#'
    let rest := chars.drop path.length
    let queryIsValid :=
      match rest with
      | '?' :: query => (query.takeWhile (· != '#')).all isQueryChar
      | _ => true
    if path.all isPathChar && queryIsValid then
      some (if path.isEmpty then ['/'] else path)
    else none

/-- What follows the scheme, where there is one. -/
inductive Scheme where
  /-- The text begins with a scheme, and the rest follows the two slashes. -/
  | found (rest : List Char)
  | missing
  | tooLong

/-- The scheme at the beginning of a text. -/
def schemeOf (chars : List Char) : Scheme :=
  if Ascii.same (chars.take 7) "http://".toList then .found (chars.drop 7)
  else if Ascii.same (chars.take 8) "https://".toList then .found (chars.drop 8)
  else if Split.byteLength chars ≤ 3 then .missing
  else
    let scheme := chars.takeWhile isSchemeChar
    match chars.drop scheme.length with
    | ':' :: '/' :: '/' :: rest =>
        if maxSchemeLength < scheme.length then .tooLong else .found rest
    | _ => .missing

/-- The path of a reference, if the text is one. -/
def path? (chars : List Char) : Option (List Char) :=
  if chars.isEmpty || maxLength < Split.byteLength chars then none
  else if chars = ['/'] || chars = ['*'] then some chars
  else if chars.head? = some '/' then pathOfRelative? chars
  else
    match schemeOf chars with
    | .tooLong => none
    | .missing => if isAuthority chars then some [] else none
    | .found rest =>
        let authority := rest.takeWhile fun c => !endsAuthority c
        let remaining := rest.drop authority.length
        if !isAuthority authority then none
        else if remaining.isEmpty then some ['/']
        else pathOfRelative? remaining

/-- The last character of ASCII has no place in a path, and the next one has. -/
example : path? "/files/a\x7fb".toList = none ∧
    path? "/files/a\u0080b".toList = some "/files/a\u0080b".toList := by
  decide +kernel

end ResumableUpload.Uri
