import ResumableUpload.Exchange.Lifetime
import ResumableUpload.Exchange.Requirement
/-!
# Handlings

For each intent there is a handling: what is required, what the host is told
before anything is done, and what is done.  What was done has an outcome,
which says what the host is told afterwards.
-/

namespace ResumableUpload

/-- What was done for a request. -/
inductive Outcome where
  | created (id : String) (length : Option Nat) (complete : Bool)
  | written (id : String) (complete : Bool)
  | deleted (id : String)
  /-- Nothing of which the host is told. -/
  | settled
  deriving DecidableEq, Repr

/-- How an intent is handled. -/
structure Handling where
  check : Exchange → Check Exchange
  /-- What the host is told before anything is done. -/
  before : Exchange → Option Event
  carryOut : Exchange → Attempt (Exchange × Outcome)

namespace Handling

/-- What the host is told before an upload is created. -/
def beforeCreate (exchange : Exchange) : Option Event :=
  some (.beforeCreate exchange.newLength exchange.declared.deferred
    exchange.metadata exchange.part exchange.headers)

/-- The answer to a request that has created an upload. -/
def answerCreated (service : Service) (exchange : Exchange) (id : String)
    (expiry : Option Instant) : Exchange :=
  let answered :=
    ((exchange.answerStatus 201).answerField HeaderName.location
      (addressOf service.config.urlPath id)).answerFieldIf
        HeaderName.uploadExpires (expiry.map Instant.headerText)
  { answered with id := some id }

def create (service : Service) : Handling where
  check exchange := Check.ofExcept do
    let exchange ← Requirement.newLength service exchange
    Requirement.metadata service exchange
  before := beforeCreate
  carryOut exchange := do
    let length := exchange.newLength
    let id ← service.call (.create length exchange.declared.metadataText)
    let expiry ← Lifetime.renew service id
    return (answerCreated service exchange id expiry,
      .created id length (length == some 0))

/-- The creation of an upload that is joined from others. -/
def createJoined (service : Service) (exchange : Exchange)
    (ids : List String) : Attempt (Exchange × Outcome) := do
  let id ← service.call
    (.createJoined ids exchange.declared.metadataText)
  let length ← Attempt.call (.length id)
  return (answerCreated service exchange id none, .created id length true)

/-- The creation of an upload that is to be joined with others. -/
def createPiece (service : Service) (exchange : Exchange) :
    Attempt (Exchange × Outcome) := do
  let length := exchange.newLength
  let id ← service.call (.createPiece length exchange.declared.metadataText)
  let expiry ← Lifetime.renew service id
  return (answerCreated service exchange id expiry, .created id length false)

/-- The creation of an upload that takes part in a concatenation. -/
def concatenate (service : Service) : Handling where
  check exchange := do
    let exchange ← Requirement.part service exchange
    Check.ofExcept do
      let exchange ← Requirement.newLength service exchange
      Requirement.metadata service exchange
  before := beforeCreate
  carryOut exchange :=
    match exchange.part with
    | .joined ids => createJoined service exchange ids
    | .piece | .whole => createPiece service exchange

/-- The size of the reads of a body that is taken as a stream. -/
def streamReadSize : Nat := 51200

/-- The way a body takes to the store. -/
def route (service : Service) : Route :=
  if service.config.preferPipelines && service.offers .pipeline then
    .streamed (some streamReadSize)
  else .buffered

/-- The checksum in the fields that follow the body, if it is usable. -/
def trailingChecksum (service : Service) : Attempt Checksum := do
  let trailers? ← Attempt.trailers
  let checksum? := do
    let trailers ← trailers?
    let text ← trailers.text? HeaderName.uploadChecksum
    Checksum.parse? text
  match checksum? with
  | none => return .sentinel
  | some checksum =>
      let supported ← service.call .algorithms
      return if checksum.isAmong supported then checksum else .sentinel

/-- The checksum that the body has to have, if there is one. -/
def pledged (service : Service) : Pledge → Attempt (Option Checksum)
  | .none => return none
  | .given checksum => return some checksum
  | .announced => some <$> trailingChecksum service

/-- Whether the body that has been appended is as it was pledged to be. -/
def keepsPledge (service : Service) (exchange : Exchange) : Attempt Bool := do
  match ← pledged service exchange.pledge with
  | none => return true
  | some checksum =>
      service.call (.verify exchange.fileId checksum.algorithm checksum.hash)

/-- Fixes the length of the upload, if the request gives it. -/
def fixLength (service : Service) (exchange : Exchange) : Attempt Unit :=
  match exchange.declared.length with
  | some length => service.call (.setLength exchange.fileId length)
  | none => pure ()

/-- The answer to a write that was accepted. -/
def answerWritten (service : Service) (exchange : Exchange) :
    Attempt (Exchange × Outcome) := do
  let id := exchange.fileId
  let expiry ← Lifetime.afterWrite service id
  let offset ← Attempt.call (.offset id)
  let length ← Attempt.call (.length id)
  return (((exchange.answerStatus 204).answerField HeaderName.uploadOffset
      (toString offset)).answerFieldIf HeaderName.uploadExpires
        (expiry.map Instant.headerText),
    .written id (length == some offset))

/-- A write of the body to an upload. -/
def write (service : Service) : Handling where
  check exchange := do
    Check.ofExcept (Requirement.contentType exchange)
    let exchange ← Check.ofExcept (Requirement.offset exchange)
    let exchange ← Requirement.checksum service exchange
    Requirement.present exchange
    Requirement.alive service exchange
    Requirement.notJoined service exchange
    let exchange ← Requirement.deferredLength service exchange
    Requirement.offsetMatches exchange
    Requirement.incomplete exchange
    return exchange
  before exchange :=
    some (.beforeWrite exchange.fileId (exchange.declared.offset.getD 0)
      exchange.declared.length exchange.headers)
  carryOut exchange := do
    fixLength service exchange
    let _ ← Attempt.append exchange.fileId (route service)
    if ← keepsPledge service exchange then answerWritten service exchange
    else return (exchange.reject .checksumMismatch, .settled)

def delete (service : Service) : Handling where
  check exchange := do
    Requirement.present exchange
    Requirement.alive service exchange
    return exchange
  before exchange := some (.beforeDelete exchange.fileId exchange.headers)
  carryOut exchange := do
    service.call (.delete exchange.fileId)
    return (exchange.answerStatus 204, .deleted exchange.fileId)

/-- The answer about an upload, given what the store knows of it. -/
def answerInfo (service : Service) (exchange : Exchange)
    (length : Option Nat) (offset : Nat) (metadata : Option String)
    (part : Part) (expiry : Option Instant) : Exchange :=
  let answered :=
    (exchange.answerStatus 200).answerField HeaderName.cacheControl "no-store"
  let answered :=
    match length with
    | some length =>
        answered.answerField HeaderName.uploadLength (toString length)
    | none => answered.answerField HeaderName.uploadDeferLength "1"
  let assembling := part.isJoined && length != some offset
  let answered :=
    if assembling then answered
    else answered.answerField HeaderName.uploadOffset (toString offset)
  ((answered.answerFieldIf HeaderName.uploadMetadata
      (metadata.filter (· != ""))).answerFieldIf HeaderName.uploadConcat
        (part.written? service.config.urlPath)).answerFieldIf
          HeaderName.uploadExpires (expiry.map Instant.headerText)

/-- The question how far an upload is. -/
def info (service : Service) : Handling where
  check exchange := do
    Requirement.present exchange
    Requirement.alive service exchange
    return exchange
  before _ := none
  carryOut exchange := do
    let id := exchange.fileId
    let length ← Attempt.call (.length id)
    let offset ← Attempt.call (.offset id)
    let metadata ← Attempt.call (.metadata id)
    let part ← Requirement.partOf service id
    let expiry ← Lifetime.current service id
    return (answerInfo service exchange length offset metadata part expiry,
      .settled)

/-- The extensions that are advertised to a client. -/
def advertised (service : Service) (exchange : Exchange) : Extensions :=
  if exchange.hasTrailers then service.terms.extensions
  else service.terms.extensions.erase .checksumTrailer

/-- The algorithms that are advertised to a client, if any are. -/
def advertisedAlgorithms (service : Service) (exchange : Exchange) :
    Attempt (Option String) := do
  if (advertised service exchange).has .checksum then
    let algorithms ← service.call .algorithms
    return some (Split.join "," algorithms)
  else return none

/-- The question what is on offer. -/
def options (service : Service) : Handling where
  check exchange := pure exchange
  before _ := none
  carryOut exchange := do
    let algorithms ← advertisedAlgorithms service exchange
    let extensions := (advertised service exchange).written
    let answered :=
      (exchange.answerStatus 204).answerField HeaderName.tusVersion
        protocolVersion
    return (((answered.answerFieldIf HeaderName.tusExtension
        (if extensions = "" then none else some extensions)).answerFieldIf
          HeaderName.tusMaxSize
            (service.config.maxSize.map toString)).answerFieldIf
              HeaderName.tusChecksumAlgorithm (algorithms.filter (· != "")),
      .settled)

/-- How an intent is handled, if it is. -/
def ofIntent? (service : Service) : Intent → Option Handling
  | .createFile => some (create service)
  | .concatenate => some (concatenate service)
  | .writeFile => some (write service)
  | .deleteFile => some (delete service)
  | .fileInfo => some (info service)
  | .options => some (options service)
  | .notApplicable => none

end Handling

end ResumableUpload
