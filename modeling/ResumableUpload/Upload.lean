import ResumableUpload.Bytes
import ResumableUpload.Calendar
import ResumableUpload.Concatenation
/-!
# Uploads

What is kept of one upload.
-/

namespace ResumableUpload

/-- What is kept of one upload. -/
structure Upload where
  content : Bytes := []
  /-- The length it is to have, once that is known. -/
  length : Option Nat := none
  /-- What the client said about it, as it was sent. -/
  metadata : Option String := none
  part : Part := .whole
  expiry : Option Instant := none
  /-- Where the last append began, until that append has been verified. -/
  chunkStart : Option Nat := none
  deriving DecidableEq, Repr

namespace Upload

/-- What uploads are joined to, given the bytes of all of them. -/
def joining (ids : List String) (metadata : Option String) (content : Bytes) :
    Upload :=
  { content := content
    length := some content.length
    metadata := metadata
    part := .joined ids }

/-- The number of bytes that have arrived. -/
def offset (upload : Upload) : Nat :=
  upload.content.length

/-- Whether all bytes have arrived. -/
def isComplete (upload : Upload) : Bool :=
  upload.length == some upload.offset

/-- The upload with an append beginning at its end. -/
def beginChunk (upload : Upload) : Upload :=
  { upload with chunkStart := some upload.content.length }

/--
The upload once its last append, which began at `start`, has been verified.  If
it does not agree with what was said of it, its bytes are discarded.
-/
def endChunk (start : Nat) (agrees : Bool) (upload : Upload) : Upload :=
  { upload with
    chunkStart := none
    content :=
      if agrees then upload.content else upload.content.take start }

/-- Whether the life of the upload is over and it is not complete. -/
def isDead (upload : Upload) (now : Instant) : Bool :=
  upload.expiry.any (·.before now) && !upload.isComplete

end Upload

/-- An upload as it is read back. -/
structure StoredFile where
  id : String
  metadata : Option String
  content : Bytes
  deriving DecidableEq, Repr

end ResumableUpload
