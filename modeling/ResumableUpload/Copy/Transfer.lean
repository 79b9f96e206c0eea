import ResumableUpload.Body
import ResumableUpload.Copy.Buffer
import ResumableUpload.Copy.Sink
/-!
# Copying a body

A copy reads a body in bounded reads, sees to it that the upload does not
outgrow its length, passes what was read through a write buffer and writes the
buffer to a sink.  A failing connection and a cancelled request end the copy
without an error, and what the buffer holds is still written.

`Transfer.run` is the copy with a buffer.  `referenceCopy` beside it says what
the copy amounts to when the sink takes everything: a fold over the reads,
without any buffer.
-/

namespace ResumableUpload

/-- Where an append starts and how far it may go. -/
structure Budget where
  /-- The number of bytes already there. -/
  offset : Nat
  /-- The number of bytes there may be in the end, if that is known. -/
  length : Option Nat
  deriving DecidableEq, Repr

/-- A body that is too long for the upload it is sent to. -/
structure Excess where
  /-- The size the upload would have had. -/
  size : Nat
  length : Nat
  deriving DecidableEq, Repr

def Excess.message (excess : Excess) : String :=
  "Stream contains more data than the file's upload length. Stream data: "
    ++ toString excess.size ++ ", upload length: " ++ toString excess.length
    ++ "."

namespace Budget

/-- The largest number that sizes are counted up to. -/
def ceiling : Nat := 18446744073709551615

/--
Whether `total` bytes more than at the start are too many.  The size they lead
to is counted up to the ceiling only.
-/
def excess? (budget : Budget) (total : Nat) : Option Excess :=
  match budget.length with
  | none => none
  | some length =>
      let size := min (budget.offset + total) ceiling
      if length < size then some ⟨size, length⟩ else none

end Budget

/-- Why a copy failed. -/
inductive CopyError where
  | excess (excess : Excess)
  | sink (reason : SinkError)
  deriving DecidableEq, Repr

/-- What a copy that did not fail has done. -/
structure Copied where
  written : Nat
  disconnected : Bool
  deriving DecidableEq, Repr

/--
What a copy comes to that has written everything and has then flushed its sink:
it fails if the flush failed.
-/
def Copied.flushed (copied : Copied) : Option SinkError →
    Except CopyError Copied
  | none => .ok copied
  | some reason => .error (.sink reason)

/-- A copy under way. -/
structure Transfer where
  settings : BufferSettings
  budget : Budget
  /-- The number of bytes read. -/
  total : Nat := 0
  /-- What has been read and not been written. -/
  held : Pile := .empty
  written : Nat := 0
  sink : Sink

namespace Transfer

/-- The beginning of a copy to a sink, unless there is no memory for it. -/
def begin? (settings : BufferSettings) (budget : Budget) (sink : Sink) :
    Option Transfer :=
  if settings.isAllocatable then
    some { settings := settings, budget := budget, sink := sink }
  else none

def writeBlocks (transfer : Transfer) (blocks : List Bytes) :
    Transfer × Option CopyError :=
  match transfer.sink.writeAll blocks with
  | (sink, none) =>
      ({ transfer with
          sink := sink
          written := blocks.foldl (fun count block => count + block.length)
            transfer.written }, none)
  | (sink, some reason) => ({ transfer with sink := sink }, some (.sink reason))

/--
Takes one delivery: it is counted against the budget before anything is done
with it, and then goes through the buffer.
-/
def consume (transfer : Transfer) (delivery : Bytes) :
    Transfer × Option CopyError :=
  let transfer := { transfer with total := transfer.total + delivery.length }
  match transfer.budget.excess? transfer.total with
  | some excess => (transfer, some (.excess excess))
  | none =>
      let (blocks, held) := transfer.settings.absorb transfer.held delivery
      { transfer with held := held }.writeBlocks blocks

/-- Writes what the buffer holds and flushes the sink. -/
def finish (transfer : Transfer) (disconnected : Bool) :
    Transfer × Except CopyError Copied :=
  match transfer.writeBlocks (transfer.settings.drain transfer.held) with
  | (transfer, some reason) => (transfer, .error reason)
  | (transfer, none) =>
      let (sink, failed) := transfer.sink.flush
      ({ transfer with held := .empty, sink := sink },
        Copied.flushed ⟨transfer.written, disconnected⟩ failed)

/-- How far a copy has come, and what it has left of the body. -/
structure Progress where
  transfer : Transfer
  /-- What has not been read, cut into reads. -/
  rest : Body
  cancelled : Bool
  /-- The result, unless the body keeps the copy waiting. -/
  result : Option (Except CopyError Copied)

/-- Goes on with a copy until it ends or has to wait. -/
def run (transfer : Transfer) (body : Body) (cancelled : Bool) : Progress :=
  let fed :=
    Body.feed consume transfer cancelled false
      (body.inReads transfer.settings.readSize)
  let close (disconnected : Bool) : Progress :=
    let (transfer, result) := fed.state.finish disconnected
    ⟨transfer, fed.rest, fed.cancelled, some result⟩
  match fed.stop with
  | .ended | .cancelled => close false
  | .disconnected => close true
  | .paused => ⟨fed.state, fed.rest, fed.cancelled, none⟩
  | .refused reason =>
      ⟨fed.state, fed.rest, fed.cancelled, some (.error reason)⟩

end Transfer

/-- What the deliveries of a body amount to when nothing is held back. -/
structure Tally where
  /-- The bytes that the budget has room for, in order. -/
  bytes : Bytes := []
  total : Nat := 0

/-- Counts one delivery against a budget and keeps it. -/
def Tally.consume (budget : Budget) (tally : Tally) (delivery : Bytes) :
    Tally × Option Excess :=
  let total := tally.total + delivery.length
  match budget.excess? total with
  | some excess => ({ tally with total := total }, some excess)
  | none => ({ bytes := tally.bytes ++ delivery, total := total }, none)

/--
What a copy amounts to: the deliveries in order up to the end of the body, a
failure, a cancellation, or the first delivery that exceeds the budget.
-/
def referenceCopy (settings : BufferSettings) (budget : Budget) (body : Body)
    (cancelled : Bool) : Body.Fed Tally Excess :=
  Body.feed (Tally.consume budget) {} cancelled false
    (body.inReads settings.readSize)

end ResumableUpload
