import ResumableUpload.Http.Uri
import ResumableUpload.Text.Blank
/-!
# Addresses and parts

An upload is addressed by a path below a base path, and an upload may be a
part that is joined with others, or the result of joining parts.  This module
reads addresses from request paths and from the list of references in
`Upload-Concat`, and writes them.

Two readers of addresses stand here side by side: `Address.ofPath?` for the
path of a request, and `Address.ofReference` for a reference in a list.  They
differ in how they treat slashes and in what they do when the base path ends
inside a character of the path.
-/

namespace ResumableUpload

/-- What a request path names, relative to the base path. -/
inductive Address where
  | base
  | upload (id : String)
  | elsewhere
  deriving DecidableEq, Repr

/-- The part an upload plays in a concatenation. -/
inductive Part where
  /-- None: the upload stands by itself. -/
  | whole
  | piece
  /-- The upload is what the listed uploads were joined to. -/
  | joined (ids : List String)
  deriving DecidableEq, Repr, Inhabited

/-- The base path without trailing slashes, in characters. -/
def baseChars (urlPath : String) : List Char :=
  Split.trimEnd '/' urlPath.toList

namespace Address

/-- The rest of a path below a base, compared up to ASCII case. -/
def below? (base path : List Char) : Option (List Char) :=
  match Split.atByte? (Split.byteLength base) path with
  | some (start, rest) => if Ascii.same start base then some rest else none
  | none => none

/-- What the path of a request names. -/
def ofPath (urlPath path : String) : Address :=
  let base := baseChars urlPath
  let path := Split.trimEnd '/' path.toList
  if Ascii.same path base then .base
  else
    match below? base path with
    | some ('/' :: id) =>
        if !id.isEmpty && !id.contains '/' then .upload (String.ofList id)
        else .elsewhere
    | _ => .elsewhere

/-- The upload that the path of a request names. -/
def uploadId? (urlPath path : String) : Option String :=
  match ofPath urlPath path with
  | .upload id => some id
  | _ => none

end Address

def addressOf (urlPath id : String) : String :=
  String.ofList (baseChars urlPath) ++ "/" ++ id

namespace Part

/-- Whether the upload is to be joined with others. -/
def isPiece : Part → Bool
  | .piece => true
  | _ => false

/-- Whether the upload is the result of joining others. -/
def isJoined : Part → Bool
  | .joined _ => true
  | _ => false

/-- How the part is written in `Upload-Concat`; standing alone is not written. -/
def written? (urlPath : String) : Part → Option String
  | .whole => none
  | .piece => some "partial"
  | .joined ids =>
      some ("final;" ++ Split.join " " (ids.map (addressOf urlPath)))

/-- Why a value of `Upload-Concat` is not understood. -/
inductive ParseError where
  | invalidValue
  | emptyFinal
  | invalidUrl (url : String)
  /--
  The base path ends inside a character of the path of a reference, so that
  the path cannot be cut there and reading is given up altogether.
  -/
  | cutInsideCharacter (url : String)
  deriving DecidableEq, Repr

def ParseError.message : ParseError → String
  | .invalidValue =>
      "Header Upload-Concat: Header is invalid. Valid values are \"partial\" and \"final\" followed by a list of file urls to concatenate"
  | .emptyFinal =>
      "Header Upload-Concat: Final upload must reference at least one partial upload"
  | .invalidUrl url | .cutInsideCharacter url =>
      "Header Upload-Concat: " ++ url ++ " is not a valid upload url"

/-- The id at the end of a path, given the base path. -/
def idBelow (url base path : List Char) : Except ParseError String :=
  let invalid : ParseError := .invalidUrl (String.ofList url)
  if Split.byteLength path ≤ Split.byteLength base then .error invalid
  else
    match Split.atByte? (Split.byteLength base) path with
    | none => .error (.cutInsideCharacter (String.ofList url))
    | some (start, rest) =>
        let id := Split.trimBoth '/' rest
        if Ascii.same start base && rest.head? = some '/'
            && !id.isEmpty && !id.contains '/' then
          .ok (String.ofList id)
        else .error invalid

def idOfReference (urlPath : String) (url : List Char) :
    Except ParseError String :=
  match Uri.path? url with
  | none => .error (.invalidUrl (String.ofList url))
  | some path => idBelow url (baseChars urlPath) path

/-- The part that a value of `Upload-Concat` says an upload plays. -/
def parse (urlPath text : String) : Except ParseError Part :=
  let chars := Blank.trimmed text.toList
  if Ascii.same chars "partial".toList then .ok .piece
  else
    match Split.atFirst? ';' chars with
    | none => .error .invalidValue
    | some (kind, references) =>
        if !Ascii.same (Blank.trimmed kind) "final".toList then
          .error .invalidValue
        else do
          let ids ← (Blank.words references).mapM (idOfReference urlPath)
          if ids.isEmpty then .error .emptyFinal else .ok (.joined ids)

end Part

end ResumableUpload
