import ResumableUpload.Text.Ascii
import ResumableUpload.Text.Blank
import ResumableUpload.Text.Split
/-!
# Extensions

The protocol has a core and eight extensions.  A server offers the extensions
that its configuration allows and its store has the means for.  Means that
are no extension of the protocol, reading uploads back and taking a body as a
stream of chunks, are here too.
-/

namespace ResumableUpload

/-- The extensions of the protocol. -/
inductive Extension where
  | creation
  | creationWithUpload
  | termination
  | checksum
  | checksumTrailer
  | concatenation
  | creationDeferLength
  | expiration
  deriving DecidableEq, Repr

namespace Extension

/-- All extensions, in the order in which they are advertised. -/
def all : List Extension :=
  [.creation, .creationWithUpload, .termination, .checksum, .checksumTrailer,
    .concatenation, .creationDeferLength, .expiration]

def name : Extension → String
  | .creation => "creation"
  | .creationWithUpload => "creation-with-upload"
  | .termination => "termination"
  | .checksum => "checksum"
  | .checksumTrailer => "checksum-trailer"
  | .concatenation => "concatenation"
  | .creationDeferLength => "creation-defer-length"
  | .expiration => "expiration"

/-- The extension with a name, whatever the case of its letters. -/
def ofName? (text : String) : Option Extension :=
  all.find? fun extension => Ascii.equal extension.name text

end Extension

/-- A set of extensions. -/
structure Extensions where
  has : Extension → Bool

namespace Extensions

def all : Extensions := ⟨fun _ => true⟩

def none : Extensions := ⟨fun _ => false⟩

def insert (set : Extensions) (extension : Extension) : Extensions :=
  ⟨fun other => other == extension || set.has other⟩

def erase (set : Extensions) (extension : Extension) : Extensions :=
  ⟨fun other => other != extension && set.has other⟩

def inter (left right : Extensions) : Extensions :=
  ⟨fun extension => left.has extension && right.has extension⟩

/-- The members, in the order in which they are advertised. -/
def members (set : Extensions) : List Extension :=
  Extension.all.filter set.has

/-- The names of the members, in the order in which they are advertised. -/
def names (set : Extensions) : List String :=
  set.members.map Extension.name

def written (set : Extensions) : String :=
  Split.join "," set.names

/-- The members as bits, the first extension being the lowest. -/
def bits (set : Extensions) : Nat :=
  (Extension.all.zipIdx.filter fun entry => set.has entry.1).foldl
    (fun sum entry => sum + 1 <<< entry.2) 0

/-- Adds the extensions with the given names; gives back a name of none. -/
def insertNames (set : Extensions) : List String → Except String Extensions
  | [] => .ok set
  | text :: rest =>
      let name := Blank.trim text
      if name.isEmpty then set.insertNames rest
      else
        match Extension.ofName? name with
        | some extension => (set.insert extension).insertNames rest
        | .none => .error name

/--
The set of the extensions with the given names.  Blank names are passed over,
and a name of no extension is the error.
-/
def ofNames (names : List String) : Except String Extensions :=
  none.insertNames names

/-- What is said of a name that belongs to no extension. -/
def unknownMessage (name : String) : String :=
  "unknown tus extension: " ++ name

end Extensions

/-- What a store may have the means for, beyond the core. -/
inductive Means where
  | creation
  | termination
  | checksum
  | concatenation
  | creationDeferLength
  | expiration
  /-- Reading an upload back. -/
  | readable
  /-- Taking a body as a stream of chunks. -/
  | pipeline
  deriving DecidableEq, Repr

namespace Means

def all : List Means :=
  [.creation, .termination, .checksum, .concatenation, .creationDeferLength,
    .expiration, .readable, .pipeline]

/-- The name by which the means are known to people. -/
def name : Means → String
  | .creation => "creation"
  | .termination => "termination"
  | .checksum => "checksum"
  | .concatenation => "concatenation"
  | .creationDeferLength => "creation-defer-length"
  | .expiration => "expiration"
  | .readable => "readable"
  | .pipeline => "pipeline"

def ofName? (text : String) : Option Means :=
  all.find? fun means => means.name == text

/-- The extension that the means are for, if they are for one. -/
def extension? : Means → Option Extension
  | .creation => some .creation
  | .termination => some .termination
  | .checksum => some .checksum
  | .concatenation => some .concatenation
  | .creationDeferLength => some .creationDeferLength
  | .expiration => some .expiration
  | .readable | .pipeline => none

end Means

def Extension.means : Extension → Means
  | .creation | .creationWithUpload => .creation
  | .termination => .termination
  | .checksum | .checksumTrailer => .checksum
  | .concatenation => .concatenation
  | .creationDeferLength => .creationDeferLength
  | .expiration => .expiration

/-- What was agreed between a store and the configuration of a server. -/
structure Terms where
  offers : Means → Bool
  allowed : Extensions

namespace Terms

/-- The extensions that are allowed and that the store has the means for. -/
def extensions (terms : Terms) : Extensions :=
  Extensions.inter ⟨fun extension => terms.offers extension.means⟩ terms.allowed

def supports (terms : Terms) (extension : Extension) : Bool :=
  terms.extensions.has extension

/-- Whether the server may use the means of its store. -/
def grants (terms : Terms) (means : Means) : Bool :=
  match means.extension? with
  | some extension => terms.supports extension && terms.offers means
  | none => terms.offers means

/-- The means that are no extension, as bits. -/
def featureBits (terms : Terms) : Nat :=
  (if terms.offers .readable then 1 else 0)
    + (if terms.offers .pipeline then 2 else 0)

/-- The names of the means that are no extension, as they are shown. -/
def featureText (terms : Terms) : String :=
  let names :=
    (if terms.offers .readable then ["READABLE"] else [])
      ++ (if terms.offers .pipeline then ["STREAMING_PIPELINE"] else [])
  if names.isEmpty then "(empty)" else Split.join " | " names

end Terms

end ResumableUpload
