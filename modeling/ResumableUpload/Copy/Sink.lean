import ResumableUpload.Bytes.Pile
/-!
# Sinks

A sink takes bytes, but it may take fewer than it is offered, or fail.  Its
behaviour is a function of how much it holds and of how much it is offered, so
every sink that decides deterministically is covered; and since a sink that has
taken nothing is not offered anything again, one that counts its calls is, too.
Writing a block offers the rest of it again until all of it has been taken.  A
flush offers nothing and may fail as well; whether it does is a function of how
much the sink holds.
-/

namespace ResumableUpload

/-- Why a sink did not take a block, or could not be flushed. -/
inductive SinkError where
  /-- The sink took nothing of what it was offered. -/
  | writeZero
  | failed (message : String)
  deriving DecidableEq, Repr

def SinkError.message : SinkError → String
  | .writeZero => "write zero"
  | .failed message => message

/-- A sink and what it has taken. -/
structure Sink where
  /--
  How much the sink takes, given the number of bytes it holds and the number it
  is offered.  It never takes more than it is offered.
  -/
  accept : Nat → Nat → Except SinkError Nat
  /-- Why a flush fails, if it does, given the number of bytes it holds. -/
  settle : Nat → Option SinkError := fun _ => none
  pile : Pile := .empty
  /-- The number of bytes taken in each call, the last call first. -/
  calls : List Nat := []
  /-- The number of flushes, those that failed included. -/
  flushes : Nat := 0

namespace Sink

/-- A sink that takes everything and holds some bytes already. -/
def holding (bytes : Bytes) : Sink :=
  { accept := fun _ offered => .ok offered, pile := .ofBytes bytes }

/--
A sink that takes at most `maxWrite` bytes in one call and fails once it has
taken `failAfter` bytes or more.
-/
def limited (maxWrite failAfter : Option Nat) : Sink :=
  { accept := fun taken offered =>
      if failAfter.any (· ≤ taken) then .error (.failed "sink failed")
      else .ok (min offered (maxWrite.getD offered)) }

def received (sink : Sink) : Bytes :=
  sink.pile.bytes

/-- The sizes of the calls in order. -/
def writes (sink : Sink) : List Nat :=
  sink.calls.reverse

/--
Offers a block of a number of bytes once; the sink may take a part of it or
fail.
-/
def offer (sink : Sink) (block : Bytes) (size : Nat) :
    Sink × Except SinkError Nat :=
  match sink.accept sink.pile.size size with
  | .error reason => (sink, .error reason)
  | .ok count =>
      let taken := min count size
      ({ sink with
          pile := sink.pile.push (block.take taken)
          calls := taken :: sink.calls }, .ok taken)

/-- Offers a block of a number of bytes until all of it has been taken. -/
def writeSized (sink : Sink) (block : Bytes) : Nat → Sink × Option SinkError
  | 0 => (sink, none)
  | size + 1 =>
      match sink.offer block (size + 1) with
      | (sink, .error reason) => (sink, some reason)
      | (sink, .ok 0) => (sink, some .writeZero)
      | (sink, .ok (count + 1)) =>
          sink.writeSized (block.drop (count + 1)) (size - count)
termination_by size => size

/-- Offers a block until all of it has been taken. -/
def write (sink : Sink) (block : Bytes) : Sink × Option SinkError :=
  sink.writeSized block block.length

/-- Offers blocks one after another, up to the first that is not taken. -/
def writeAll (sink : Sink) : List Bytes → Sink × Option SinkError
  | [] => (sink, none)
  | block :: rest =>
      match sink.write block with
      | (sink, none) => sink.writeAll rest
      | refused => refused

/-- A flush, which takes nothing, and why it failed, if it did. -/
def flush (sink : Sink) : Sink × Option SinkError :=
  ({ sink with flushes := sink.flushes + 1 }, sink.settle sink.pile.size)

end Sink

end ResumableUpload
