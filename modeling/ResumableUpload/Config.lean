import ResumableUpload.Copy.Buffer
import ResumableUpload.Document
import ResumableUpload.Expiration
import ResumableUpload.Extension
import ResumableUpload.Metadata
/-!
# Configuration

The configuration of a server, its defaults, and the two places it is read
from: a structured document, which must be complete and sound, and environment
variables, of which unusable ones are passed over.  The sizes that govern
copies are read from documents too.
-/

namespace ResumableUpload

/-- The configuration of a server. -/
structure Config where
  urlPath : String := "/files"
  maxSize : Option Nat := none
  expiration : Option Policy := none
  strictness : Metadata.Strictness := .valuesRequired
  allowed : Extensions := .all
  /-- Whether bodies are handed to the store as streams, if it takes them. -/
  preferPipelines : Bool := false

/-- The name of a strictness in documents. -/
def Metadata.Strictness.name : Metadata.Strictness → String
  | .valuesRequired => "original"
  | .valuesOptional => "allowEmptyValues"

/-- The strictness with a name in documents. -/
def Metadata.Strictness.ofName? : String → Option Metadata.Strictness
  | "original" => some .valuesRequired
  | "allowEmptyValues" => some .valuesOptional
  | _ => none

/-- The policy as a document: its kind, and its seconds below that. -/
def Policy.toDocument (policy : Policy) : Document :=
  let body := Document.object [("timeoutSecs", .integer policy.timeout)]
  match policy with
  | .absolute _ => .object [("absolute", body)]
  | .sliding _ => .object [("sliding", body)]

/-- The policy that a document stands for. -/
def Policy.ofDocument? (document : Document) : Option Policy :=
  let timeout? (body : Document) : Option Nat :=
    (body.field? "timeoutSecs").bind Document.unsigned?
  match document with
  | .object [("absolute", body)] => (timeout? body).map .absolute
  | .object [("sliding", body)] => (timeout? body).map .sliding
  | _ => none

namespace Config

def toDocument (config : Config) : Document :=
  .object [
    ("urlPath", .text config.urlPath),
    ("maxAllowedUploadSize",
      match config.maxSize with
      | some size => .integer size
      | none => .null),
    ("expiration",
      match config.expiration with
      | some policy => policy.toDocument
      | none => .null),
    ("metadataParsingStrategy", .text config.strictness.name),
    ("allowedExtensions", .list (config.allowed.names.map .text)),
    ("preferPipelines", .boolean config.preferPipelines)]

/-- The fields of a configuration, and which of them may be left out. -/
def fieldNames : List (String × Bool) :=
  [("urlPath", false), ("maxAllowedUploadSize", true), ("expiration", true),
    ("metadataParsingStrategy", false), ("allowedExtensions", false),
    ("preferPipelines", false)]

/-- The extensions that a list of names in a document stands for. -/
def extensionsOfDocument? (document : Document) : Option Extensions := do
  let names ← (← document.items?).mapM Document.text?
  (Extensions.ofNames names).toOption

/-- The configuration that a document stands for. -/
def ofDocument? (document : Document) : Option Config := do
  match ← document.record? fieldNames with
  | [urlPath, maxSize, expiration, strictness, allowed, preferPipelines] =>
      return {
        urlPath := ← urlPath.text?
        maxSize := ← maxSize.optional? Document.unsigned?
        expiration := ← expiration.optional? Policy.ofDocument?
        strictness := ← strictness.alternative?.bind
          Metadata.Strictness.ofName?
        allowed := ← extensionsOfDocument? allowed
        preferPipelines := ← preferPipelines.boolean? }
  | _ => none

/-- The strictness that a variable stands for. -/
def strictnessOfVariable? (text : String) : Option Metadata.Strictness :=
  match Ascii.toLower (Blank.trim text) with
  | "original" => some .valuesRequired
  | "allowemptyvalues" | "allow-empty-values" => some .valuesOptional
  | _ => none

/-- The truth value that a variable stands for. -/
def truthOfVariable (text : String) : Bool :=
  text == "1" || Ascii.equal text "true"

/-- The extensions that a variable stands for. -/
def extensionsOfVariable? (text : String) : Option Extensions :=
  (Extensions.ofNames
    ((Split.pieces ',' text.toList).map String.ofList)).toOption

/--
The configuration that environment variables describe.  A variable that is
not set, or whose text is unusable, leaves the default.
-/
def ofVariables (setting? : String → Option String) : Config :=
  let default : Config := {}
  { urlPath := (setting? "TUS_URL_PATH").getD default.urlPath
    maxSize :=
      (setting? "TUS_MAX_UPLOAD_SIZE").bind fun text =>
        Decimal.unsigned? (Blank.trimmed text.toList)
    expiration := (setting? "TUS_EXPIRATION").bind Policy.parse?
    strictness :=
      ((setting? "TUS_METADATA_STRATEGY").bind strictnessOfVariable?).getD
        default.strictness
    allowed :=
      ((setting? "TUS_EXTENSIONS").bind extensionsOfVariable?).getD
        default.allowed
    preferPipelines :=
      ((setting? "TUS_PREFER_PIPELINES").map truthOfVariable).getD
        default.preferPipelines }

end Config

/-- The name of a layout in documents. -/
def Layout.name : Layout → String
  | .contiguous => "original"
  | .bucketed => "nonConsecutiveBuckets"

/-- The layout with a name in documents. -/
def Layout.ofName? : String → Option Layout
  | "original" => some .contiguous
  | "nonConsecutiveBuckets" => some .bucketed
  | _ => none

namespace BufferSettings

def toDocument (settings : BufferSettings) : Document :=
  .object [
    ("readBufferSize", .integer settings.readSize),
    ("writeBufferSize", .integer settings.writeSize),
    ("strategy", .text settings.layout.name)]

/-- The sizes that a document stands for. -/
def ofDocument? (document : Document) : Option BufferSettings := do
  match ← document.record? [("readBufferSize", false),
    ("writeBufferSize", false), ("strategy", false)] with
  | [readSize, writeSize, layout] =>
      return {
        readSize := ← readSize.unsigned?
        writeSize := ← writeSize.unsigned?
        layout := ← layout.alternative?.bind Layout.ofName? }
  | _ => none

end BufferSettings

end ResumableUpload
