import ResumableUpload.Store.Call
/-!
# Appending to an upload

Bytes of a request body are appended to an upload in one of two ways: copied
through a write buffer, or taken chunk by chunk as a stream.  Both refuse to
let the upload outgrow its length, both keep what arrived before the client
vanished or the request was cancelled, and both may have to wait for the body.
-/

namespace ResumableUpload

/-- The way a body takes to an upload. -/
inductive Route where
  /-- Copied through a write buffer. -/
  | buffered
  /-- Taken as a stream, in reads of a size or, without one, as it arrives. -/
  | streamed (readSize : Option Nat)
  deriving DecidableEq, Repr

/-- The means of the store that a route makes use of, beyond the core. -/
def Route.means? : Route → Option Means
  | .buffered => none
  | .streamed _ => some .pipeline

/-- An upload that takes a stream. -/
structure StreamTarget where
  start : Nat
  /-- The content with the chunks taken so far. -/
  content : Pile
  length : Option Nat
  /-- The size of the reads, if the stream is read in pieces of a size. -/
  readSize : Option Nat

namespace StreamTarget

/-- Takes one chunk, unless the upload has no room for it. -/
def consume (target : StreamTarget) (chunk : Bytes) :
    StreamTarget × Option Excess :=
  let size := target.content.size + chunk.length
  match target.length.filter (· < size) with
  | some length => (target, some ⟨size, length⟩)
  | none => ({ target with content := target.content.push chunk }, none)

end StreamTarget

/-- An append under way. -/
inductive Appending where
  | buffered (transfer : Transfer)
  | streamed (target : StreamTarget)

/-- How far an append has come. -/
structure AppendProgress where
  appending : Appending
  /-- What has not been read of the body. -/
  rest : Body
  cancelled : Bool
  /-- The number of bytes appended or a failure, unless the append has to wait. -/
  result : Option (Except Failure Nat)

namespace Appending

/--
The beginning of an append to an upload, unless there is no memory for its
buffers.
-/
def begin? (settings : BufferSettings) (route : Route) (upload : Upload) :
    Option Appending :=
  match route with
  | .buffered =>
      (Transfer.begin? settings ⟨upload.offset, upload.length⟩
        (.holding upload.content)).map .buffered
  | .streamed readSize =>
      some <| .streamed
        { start := upload.offset
          content := .ofBytes upload.content
          length := upload.length
          readSize := readSize }

/-- The content of the upload with what has been appended to it so far. -/
def content : Appending → Bytes
  | .buffered transfer => transfer.sink.received
  | .streamed target => target.content.bytes

/-- Goes on with an append until it ends or has to wait. -/
def advance (appending : Appending) (body : Body) (cancelled : Bool) :
    AppendProgress :=
  match appending with
  | .buffered transfer =>
      let progress := transfer.run body cancelled
      { appending := .buffered progress.transfer
        rest := progress.rest
        cancelled := progress.cancelled
        result := progress.result.map fun
          | .ok copied => .ok copied.written
          | .error reason => .error (.ofCopyError reason) }
  | .streamed target =>
      let body :=
        match target.readSize with
        | some size => body.inReads size
        | none => body
      let fed := Body.feed StreamTarget.consume target cancelled false body
      { appending := .streamed fed.state
        rest := fed.rest
        cancelled := fed.cancelled
        result :=
          match fed.stop with
          | .ended | .cancelled | .disconnected =>
              some (.ok (fed.state.content.size - fed.state.start))
          | .refused found => some (.error (.refused (.excess found)))
          | .paused => none }

end Appending

end ResumableUpload
