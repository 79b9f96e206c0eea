import ResumableUpload.Intent
import ResumableUpload.Metadata
/-!
# Hooks

The host may watch a request at seven points and, at each, stop it with a
status and a message.  What the host is told at a point is an event; what it
answers is a verdict.
-/

namespace ResumableUpload

/-- The points at which the host may watch. -/
inductive Hook where
  | authorize
  | beforeCreate
  | createComplete
  | beforeWrite
  | beforeDelete
  | deleteComplete
  | fileComplete
  deriving DecidableEq, Repr

/-- All points, in the order in which they are listed. -/
def Hook.all : List Hook :=
  [.authorize, .beforeCreate, .createComplete, .beforeWrite, .beforeDelete,
    .deleteComplete, .fileComplete]

/-- What the host is told. -/
inductive Event where
  | authorize (intent : Intent) (method : Method) (id : Option String)
      (headers : Headers)
  | beforeCreate (length : Option Nat) (deferred : Bool) (metadata : Metadata)
      (part : Part) (headers : Headers)
  | createComplete (id : String) (length : Option Nat) (metadata : Metadata)
      (part : Part) (headers : Headers)
  | beforeWrite (id : String) (offset : Nat) (length : Option Nat)
      (headers : Headers)
  | beforeDelete (id : String) (headers : Headers)
  | deleteComplete (id : String)
  /-- The last byte of an upload has been stored. -/
  | fileComplete (id : String)
  deriving DecidableEq, Repr

/-- The point at which an event is told. -/
def Event.hook : Event → Hook
  | .authorize _ _ _ _ => .authorize
  | .beforeCreate _ _ _ _ _ => .beforeCreate
  | .createComplete _ _ _ _ _ => .createComplete
  | .beforeWrite _ _ _ _ => .beforeWrite
  | .beforeDelete _ _ => .beforeDelete
  | .deleteComplete _ => .deleteComplete
  | .fileComplete _ => .fileComplete

/-- The header fields that an event tells of. -/
def Event.headers? : Event → Option Headers
  | .authorize _ _ _ headers => some headers
  | .beforeCreate _ _ _ _ headers => some headers
  | .createComplete _ _ _ _ headers => some headers
  | .beforeWrite _ _ _ headers => some headers
  | .beforeDelete _ headers => some headers
  | .deleteComplete _ | .fileComplete _ => none

/-- What the host answers to an event. -/
structure Verdict where
  /-- The status to stop the request with, if it is to be stopped. -/
  status : Option Nat := none
  messages : List String := []
  deriving DecidableEq, Repr

namespace Verdict

def proceed : Verdict := {}

/-- Whether the request is to be stopped. -/
def failed (verdict : Verdict) : Bool :=
  verdict.status.isSome

/--
One reason more to stop the request.  Without a status of its own it keeps the
status there is, or is a bad request.
-/
def fail (verdict : Verdict) (status : Option Nat) (message : String) :
    Verdict :=
  { status := some (status.getD (verdict.status.getD 400))
    messages := verdict.messages ++ [message] }

def message (verdict : Verdict) : String :=
  Split.join "\n" verdict.messages

end Verdict

/-- What happens when the host is told of an event. -/
inductive Reaction where
  | verdict (verdict : Verdict)
  /-- The host breaks off, and the request with it. -/
  | collapse
  deriving DecidableEq, Repr

end ResumableUpload
