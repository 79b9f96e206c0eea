import ResumableUpload.Bytes
import ResumableUpload.Text.Ascii
/-!
# Header fields

A request or response carries a list of fields.  One name may occur several
times, and then its first value is the one that counts.  A value is a list of
bytes; code that needs text reads only values made of visible ASCII
characters, blanks and tabs.  The names that the protocol gives a meaning are
listed at the end.
-/

namespace ResumableUpload

/-- A header field with a name in lower case. -/
structure Field where
  /-- The name, in lower case. -/
  name : String
  /-- The value as it was sent. -/
  value : Bytes
  deriving DecidableEq, Repr

/-- Header fields in the order in which they were added. -/
abbrev Headers := List Field

namespace Field

/-- Whether a byte may stand in a value that is read as text. -/
def isVisible (byte : UInt8) : Bool :=
  (0x20 ≤ byte && byte ≤ 0x7E) || byte == 0x09

/-- The text of a value, if all its bytes are visible. -/
def textOf? (value : Bytes) : Option String :=
  if value.all isVisible then
    some (String.ofList (value.map fun byte => Char.ofNat byte.toNat))
  else none

/-- Whether a byte may stand in a value that is written. -/
def isWritable (byte : UInt8) : Bool :=
  (0x20 ≤ byte && byte != 0x7F) || byte == 0x09

end Field

namespace Headers

/-- One field more, under the lower-case form of its name. -/
def append (headers : Headers) (name : String) (value : Bytes) : Headers :=
  headers ++ [⟨Ascii.toLower name, value⟩]

/-- The values of a name in their order. -/
def values (headers : Headers) (name : String) : List Bytes :=
  (headers.filter (·.name == name)).map Field.value

def first? (headers : Headers) (name : String) : Option Bytes :=
  (headers.find? (·.name == name)).map Field.value

def has (headers : Headers) (name : String) : Bool :=
  headers.any (·.name == name)

/-- The first value of a name as text; an unreadable value counts as none. -/
def text? (headers : Headers) (name : String) : Option String :=
  (headers.first? name).bind Field.textOf?

/-- The fields without those of a name. -/
def remove (headers : Headers) (name : String) : Headers :=
  headers.filter (·.name != name)

/-- The fields with one value for a name, in place of all values it had. -/
def put (headers : Headers) (name : String) (value : Bytes) : Headers :=
  headers.remove name ++ [⟨name, value⟩]

/--
The fields with a text for a name.  A text with control characters cannot be
written, and then the fields stay as they are.
-/
def putText (headers : Headers) (name text : String) : Headers :=
  let value := Bytes.ofString text
  if value.all Field.isWritable then headers.put name value else headers

/-- The fields sorted by name, the values of one name in their order. -/
def sorted (headers : Headers) : Headers :=
  headers.mergeSort fun left right => decide (left.name ≤ right.name)

/--
The fields with all values of a name together, the names in the order of
their first occurrence.
-/
def grouped (headers : Headers) : Headers :=
  (headers.map Field.name).eraseDups.flatMap fun name =>
    headers.filter (·.name == name)

end Headers

namespace HeaderName

/-- The version of the protocol that a message follows. -/
def tusResumable : String := "tus-resumable"

def tusVersion : String := "tus-version"

def tusExtension : String := "tus-extension"

/-- The largest length that the server accepts. -/
def tusMaxSize : String := "tus-max-size"

/-- The digest algorithms that the server verifies. -/
def tusChecksumAlgorithm : String := "tus-checksum-algorithm"

def uploadLength : String := "upload-length"

/-- The number of bytes of an upload that have arrived. -/
def uploadOffset : String := "upload-offset"

/-- Says that the length follows later. -/
def uploadDeferLength : String := "upload-defer-length"

/-- What the client says about an upload. -/
def uploadMetadata : String := "upload-metadata"

def uploadChecksum : String := "upload-checksum"

/-- The part an upload plays in a concatenation. -/
def uploadConcat : String := "upload-concat"

/-- The end of the life of an unfinished upload. -/
def uploadExpires : String := "upload-expires"

/-- Replaces the method of the request. -/
def methodOverride : String := "x-http-method-override"

def contentType : String := "content-type"

/-- The names of the fields that follow the body. -/
def trailer : String := "trailer"

def location : String := "location"

def cacheControl : String := "cache-control"

end HeaderName

end ResumableUpload
