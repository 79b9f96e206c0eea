import ResumableUpload.Concatenation
import ResumableUpload.Config
import ResumableUpload.Http.Method
/-!
# Intents

What a request asks for follows from its method, its path and its header
fields, together with what is on offer.  A request that creates an upload and
carries a body asks for two things, the second being a write.
-/

namespace ResumableUpload

/-- What a request may ask for. -/
inductive Intent where
  | createFile
  | writeFile
  | deleteFile
  | fileInfo
  | options
  | concatenate
  | notApplicable
  deriving DecidableEq, Repr

/-- The type of a body that is to be appended to an upload. -/
def bodyType : String := "application/offset+octet-stream"

/-- Whether the fields announce a body that is to be appended to an upload. -/
def Headers.announceBody (headers : Headers) : Bool :=
  match headers.text? HeaderName.contentType with
  | some text =>
      match Split.pieces ';' text.toList with
      | kind :: _ => Ascii.same (Blank.trimmed kind) bodyType.toList
      | [] => false
  | none => false

namespace Intent

/-- The name by which an intent is known to people. -/
def name : Intent → String
  | .createFile => "create-file"
  | .writeFile => "write-file"
  | .deleteFile => "delete-file"
  | .fileInfo => "get-file-info"
  | .options => "get-options"
  | .concatenate => "concatenate-files"
  | .notApplicable => "not-applicable"

/-- Whether an intent needs a lease on its upload. -/
def needsLease : Intent → Bool
  | .writeFile | .deleteFile => true
  | _ => false

/-- What a request to an address asks for first. -/
def primary (terms : Terms) (method : Method) (address : Address)
    (headers : Headers) : Intent :=
  match method, address with
  | .post, .base =>
      if headers.has HeaderName.uploadConcat && terms.supports .concatenation then
        .concatenate
      else if terms.supports .creation then .createFile
      else .notApplicable
  | .patch, .upload _ => .writeFile
  | .delete, .upload _ =>
      if terms.supports .termination then .deleteFile else .notApplicable
  | .head, .upload _ => .fileInfo
  | .options, .base => .options
  | _, _ => .notApplicable

def creates : Intent → Bool
  | .createFile | .concatenate => true
  | _ => false

/--
What a request asks for, in order.  Without a version of the protocol only the
question for options is understood.
-/
def ofRequest (terms : Terms) (urlPath : String) (method : Method)
    (path : String) (headers : Headers) : List Intent :=
  if method != .options && !headers.has HeaderName.tusResumable then
    [.notApplicable]
  else
    let first := primary terms method (Address.ofPath urlPath path) headers
    if first.creates && terms.supports .creationWithUpload
        && headers.announceBody then
      [first, .writeFile]
    else [first]

end Intent

end ResumableUpload
