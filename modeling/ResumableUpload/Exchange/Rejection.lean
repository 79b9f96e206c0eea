import ResumableUpload.Concatenation
import ResumableUpload.Failure
import ResumableUpload.Intent
import ResumableUpload.Metadata
/-!
# Rejections

What a request can do wrong, with the status and the words that answer it.
-/

namespace ResumableUpload

/-- The version of the protocol that is followed. -/
def protocolVersion : String := "1.0.0"

/-- What a request can do wrong. -/
inductive Rejection where
  /-- It follows another version of the protocol. -/
  | version (given : String)
  | leased (id : String)
  /-- There is no such upload, or its life is over. -/
  | notFound
  | contentType
  | lengthAndDeferral
  | lengthOrDeferralMissing
  | lengthMissing
  /-- It defers the length, or gives a deferred one, where that is not on offer. -/
  | deferralUnsupported
  /-- It defers the length in other words than a one. -/
  | deferralValue
  | lengthUnreadable
  | lengthNegative
  | lengthTooLarge
  | lengthKnown
  /-- It gives a length that the upload has outgrown. -/
  | lengthBelowOffset (length offset : Nat)
  /-- It gives a length where the length follows from the parts. -/
  | lengthOfJoined
  | offsetMissing
  | offsetUnreadable
  | offsetNegative
  | offsetMismatch (stored given : Nat)
  | complete
  | joined
  | metadata (reason : Metadata.ParseError)
  | part (reason : Part.ParseError)
  | pieceMissing
  /-- An upload to be joined was not meant to be. -/
  | pieceWhole
  | pieceUnfinished
  | joinedTooLarge
  /-- It gives a checksum and announces one. -/
  | checksumTwice
  /-- It announces a checksum that cannot arrive. -/
  | trailerUnsupported
  | checksumUnreadable
  /-- Its checksum is of an algorithm that is not on offer. -/
  | algorithmUnsupported (supported : List String)
  /-- The bytes that arrived do not have its checksum. -/
  | checksumMismatch
  deriving DecidableEq, Repr

namespace Rejection

def status : Rejection → Nat
  | .version _ => 412
  | .leased _ | .offsetMismatch _ _ => 409
  | .notFound => 404
  | .contentType => 415
  | .lengthTooLarge | .joinedTooLarge => 413
  | .joined => 403
  | .checksumMismatch => 460
  | _ => 400

/-- The words of the answer, if it has any. -/
def message? : Rejection → Option String
  | .version given =>
      some ("Tus-Resumable header must be " ++ protocolVersion ++ " but was "
        ++ given)
  | .leased id =>
      some ("File " ++ id
        ++ " is currently being updated. Please try again later")
  | .notFound => none
  | .contentType => some ("Content-Type " ++ bodyType ++ " is required")
  | .lengthAndDeferral =>
      some "Headers Upload-Length and Upload-Defer-Length are mutually exclusive and cannot be used in the same request"
  | .lengthOrDeferralMissing =>
      some "Either Headers Upload-Length or Upload-Defer-Length must be specified"
  | .lengthMissing => some "Missing Upload-Length header"
  | .deferralUnsupported => some "Header Upload-Defer-Length is not supported"
  | .deferralValue =>
      some "Header Upload-Defer-Length must have the value '1' or be omitted"
  | .lengthUnreadable => some "Could not parse Upload-Length"
  | .lengthNegative => some "Header Upload-Length must be a positive number"
  | .lengthTooLarge =>
      some "Header Upload-Length exceeds the server's max file size."
  | .lengthKnown => some Refusal.lengthKnown.message
  | .lengthBelowOffset length offset =>
      some ("Upload-Length must not be smaller than the current offset. Upload-Length: "
        ++ toString length ++ ", current offset: " ++ toString offset ++ ".")
  | .lengthOfJoined =>
      some "Header Upload-Length must not be included when Upload-Concat is final"
  | .offsetMissing => some "Missing Upload-Offset header"
  | .offsetUnreadable => some "Could not parse Upload-Offset header"
  | .offsetNegative => some "Header Upload-Offset must be a positive number"
  | .offsetMismatch stored given =>
      some ("Offset does not match file. File offset: " ++ toString stored
        ++ ". Request offset: " ++ toString given)
  | .complete => some "Upload is already complete."
  | .joined => some "File with \"Upload-Concat: final\" cannot be patched"
  | .metadata reason => some reason.message
  | .part reason => some reason.message
  | .pieceMissing =>
      some "Could not find some of the files supplied for concatenation"
  | .pieceWhole =>
      some "Some of the files supplied for concatenation are not marked as partial and can not be concatenated"
  | .pieceUnfinished =>
      some "Some of the files supplied for concatenation are not finished and can not be concatenated"
  | .joinedTooLarge =>
      some "The concatenated file exceeds the server's max file size."
  | .checksumTwice =>
      some "Headers Upload-Checksum and trailing header Upload-Checksum are mutually exclusive"
  | .trailerUnsupported =>
      some "Trailing header Upload-Checksum is not supported"
  | .checksumUnreadable => some "Could not parse Upload-Checksum header"
  | .algorithmUnsupported supported =>
      some ("Unsupported checksum algorithm. Supported algorithms are: "
        ++ Split.join "," supported)
  | .checksumMismatch =>
      some "Header Upload-Checksum does not match the checksum of the file"

end Rejection

end ResumableUpload
