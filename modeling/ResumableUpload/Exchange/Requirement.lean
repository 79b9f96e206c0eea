import ResumableUpload.Exchange.Basic
/-!
# Requirements

What a request has to satisfy before anything is done for it.  Each
requirement is a check of its own; some of them note in the exchange what the
header fields declare.  The requirements that concern header fields alone are
plain functions, the others ask the store.
-/

namespace ResumableUpload.Requirement

/-- The number that a text stands for, read as a length. -/
def lengthOf (text? : Option String) (max? : Option Nat) :
    Except Rejection Nat :=
  match text?.bind fun text => Decimal.signed? (Blank.trimmed text.toList) with
  | none => .error .lengthUnreadable
  | some value =>
      if value < 0 then .error .lengthNegative
      else if max?.any (· < value.toNat) then .error .lengthTooLarge
      else .ok value.toNat

/--
A new upload has a length, or its length is deferred, but not both.  An upload
joined from others has the length of its parts.
-/
def newLength (service : Service) (exchange : Exchange) :
    Except Rejection Exchange :=
  if exchange.part.isJoined then .ok exchange
  else
    let canDefer := service.terms.supports .creationDeferLength
    match exchange.headers.has HeaderName.uploadLength,
      exchange.headers.has HeaderName.uploadDeferLength with
    | true, true => .error .lengthAndDeferral
    | false, false =>
        .error (if canDefer then .lengthOrDeferralMissing else .lengthMissing)
    | false, true =>
        if !canDefer then .error .deferralUnsupported
        else if (exchange.headers.text? HeaderName.uploadDeferLength).map
            Blank.trim = some "1" then
          .ok { exchange with
            declared := { exchange.declared with deferred := true } }
        else .error .deferralValue
    | true, false => do
        let length ← lengthOf (exchange.headers.text? HeaderName.uploadLength)
          service.config.maxSize
        return { exchange with
          declared := { exchange.declared with length := some length } }

/-- The metadata of a new upload, if there is any, is understood. -/
def metadata (service : Service) (exchange : Exchange) :
    Except Rejection Exchange :=
  if !exchange.headers.has HeaderName.uploadMetadata then .ok exchange
  else
    let text := (exchange.headers.text? HeaderName.uploadMetadata).getD ""
    match Metadata.parse service.config.strictness text with
    | .ok metadata =>
        .ok { exchange with
          declared :=
            { exchange.declared with
              metadata := some metadata, metadataText := some text } }
    | .error reason => .error (.metadata reason)

/-- A body that is to be appended is of the type for that. -/
def contentType (exchange : Exchange) : Except Rejection Unit :=
  if exchange.headers.announceBody then .ok () else .error .contentType

/-- A write says where it is to begin. -/
def offset (exchange : Exchange) : Except Rejection Exchange :=
  if !exchange.headers.has HeaderName.uploadOffset then .error .offsetMissing
  else
    match (exchange.headers.text? HeaderName.uploadOffset).bind fun text =>
      Decimal.signed? (Blank.trimmed text.toList) with
    | none => .error .offsetUnreadable
    | some value =>
        if value < 0 then .error .offsetNegative
        else
          .ok { exchange with
            declared := { exchange.declared with offset := some value.toNat } }

/-- Whether a readable field announces that a checksum follows the body. -/
def announcesChecksum (headers : Headers) : Bool :=
  ((headers.values HeaderName.trailer).filterMap Field.textOf?).any fun text =>
    (Split.pieces ',' text.toList).any fun name =>
      Ascii.same (Blank.trimmed name) "Upload-Checksum".toList

/--
A checksum is given or announced, but not both; an announced one can arrive,
and a given one is understood and of an algorithm on offer.
-/
def checksum (service : Service) (exchange : Exchange) : Check Exchange := do
  if !service.terms.supports .checksum then return exchange
  let announced := announcesChecksum exchange.headers
  match exchange.headers.first? HeaderName.uploadChecksum, announced with
  | some _, true => Check.reject .checksumTwice
  | none, true =>
      if !exchange.hasTrailers || !service.terms.supports .checksumTrailer then
        Check.reject .trailerUnsupported
      else return { exchange with pledge := .announced }
  | none, false => return exchange
  | some value, false =>
      match Checksum.parse? ((Field.textOf? value).getD "") with
      | none => Check.reject .checksumUnreadable
      | some checksum =>
          let supported ← Check.attempt (service.call .algorithms)
          if checksum.isAmong supported then
            return { exchange with pledge := .given checksum }
          else Check.reject (.algorithmUnsupported supported)

def present (exchange : Exchange) : Check Unit := do
  unless ← Check.call (.has exchange.fileId) do
    Check.reject .notFound

/-- The life of the upload is not over. -/
def alive (service : Service) (exchange : Exchange) : Check Unit := do
  if service.terms.supports .expiration then
    let expiry ← Check.attempt (service.call (.expiry exchange.fileId))
    match expiry with
    | some expiry =>
        let now ← Check.attempt Attempt.now
        if expiry.before now then Check.reject .notFound
    | none => return

/-- The part an upload plays; none, if uploads cannot be joined here. -/
def partOf (service : Service) (id : String) : Attempt Part :=
  if service.terms.supports .concatenation then service.call (.part id)
  else pure .whole

/-- The upload was not joined from others. -/
def notJoined (service : Service) (exchange : Exchange) : Check Unit := do
  let part ← Check.attempt (partOf service exchange.fileId)
  if part.isJoined then Check.reject .joined

/--
A length that comes with a write is the length of an upload whose length was
deferred, and is not less than what has arrived.
-/
def deferredLength (service : Service) (exchange : Exchange) :
    Check Exchange := do
  if !exchange.headers.has HeaderName.uploadLength then return exchange
  let length ← Check.ofExcept
    (lengthOf (exchange.headers.text? HeaderName.uploadLength)
      service.config.maxSize)
  if !service.terms.supports .creationDeferLength then
    Check.reject .deferralUnsupported
  else if (← Check.call (.length exchange.fileId)).isSome then
    Check.reject .lengthKnown
  else
    let offset ← Check.call (.offset exchange.fileId)
    if length < offset then Check.reject (.lengthBelowOffset length offset)
    else
      return { exchange with
        declared := { exchange.declared with length := some length } }

/-- The write begins where the upload ends. -/
def offsetMatches (exchange : Exchange) : Check Unit := do
  let stored ← Check.call (.offset exchange.fileId)
  let given := exchange.declared.offset.getD 0
  if stored != given then Check.reject (.offsetMismatch stored given)

def incomplete (exchange : Exchange) : Check Unit := do
  match ← Check.call (.length exchange.fileId) with
  | none => return
  | some length =>
      let offset ← Check.call (.offset exchange.fileId)
      if offset == length then Check.reject .complete

/-- All uploads to be joined are there. -/
def piecesExist : List String → Check Unit
  | [] => return
  | id :: rest => do
      if ← Check.call (.has id) then piecesExist rest
      else Check.reject .pieceMissing

/-- All uploads to be joined were meant to be. -/
def piecesArePieces (service : Service) : List String → Check Unit
  | [] => return
  | id :: rest => do
      let part ← Check.attempt (partOf service id)
      if part.isPiece then piecesArePieces service rest
      else Check.reject .pieceWhole

/--
All uploads to be joined have all their bytes; the answer is the sum of their
lengths and of `total`, counted up to the largest size only.
-/
def piecesComplete (total : Nat) : List String → Check Nat
  | [] => return total
  | id :: rest => do
      let length ← Check.call (.length id)
      let offset ← Check.call (.offset id)
      if length = some offset then
        piecesComplete (min (total + offset) Budget.ceiling) rest
      else Check.reject .pieceUnfinished

def joinable (service : Service) (ids : List String) : Check Unit := do
  piecesExist ids
  piecesArePieces service ids
  let total ← piecesComplete 0 ids
  if service.config.maxSize.any (· < total) then
    Check.reject .joinedTooLarge

/--
A new upload that joins others can be joined from them, and no length is given
for it.
-/
def partIsPossible (service : Service) (exchange : Exchange) :
    Part → Check Unit
  | .joined ids => do
      joinable service ids
      if exchange.headers.has HeaderName.uploadLength then
        Check.reject .lengthOfJoined
  | .piece | .whole => pure ()

/-- The part of a new upload is understood, and it is possible. -/
def part (service : Service) (exchange : Exchange) : Check Exchange := do
  let text := (exchange.headers.text? HeaderName.uploadConcat).getD ""
  match Part.parse service.config.urlPath text with
  | .error reason => Check.reject (.part reason)
  | .ok part =>
      partIsPossible service exchange part
      return { exchange with
        declared := { exchange.declared with part := some part } }

end ResumableUpload.Requirement
