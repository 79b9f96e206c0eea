import ResumableUpload.Hook
import ResumableUpload.Lock
import ResumableUpload.Store.Append
import ResumableUpload.Store.Line
/-!
# Programs

Handling a request is a program: a tree whose nodes are actions on the
surroundings, with one branch for each answer.  The tree says everything a
request may do and nothing about how its surroundings do it.  So one and the
same program is run from beginning to end, is run action by action among
others, is looked through for the means it uses, or is run with surroundings
that fail.
-/

namespace ResumableUpload

/-- What has been begun, and waits for its turn at a record or for the body. -/
inductive Unfinished where
  | calling (turn : Turn) (asked : Call)
  /--
  Uploads are being joined: the content of the first of them has been taken,
  the record of the next is waited for, and the rest will follow.
  -/
  | joining (turn : Turn) (content : Bytes) (rest ids : List String)
      (metadata : Option String)
  /-- An append waits for a record. -/
  | beginning (turn : Turn) (route : Route)
  /-- An append has a record and waits for the body. -/
  | appending (turn : Turn) (appending : Appending)
  /-- The host has heard that an upload is complete, and waits to read it. -/
  | reading (turn : Turn)

namespace Unfinished

def turn : Unfinished → Turn
  | .calling turn _ | .joining turn _ _ _ _ | .beginning turn _
  | .appending turn _ | .reading turn => turn

/-- The type of the answer in the end. -/
abbrev Reply : Unfinished → Type
  | .calling _ asked => Except Failure asked.Reply
  | .joining _ _ _ _ _ => Except Failure String
  | .beginning _ _ => Except Failure Nat
  | .appending _ _ => Except Failure Nat
  | .reading _ => Verdict

end Unfinished

/-- What a request may do. -/
inductive Action where
  | acquire (id : String)
  | release (lease : Lease)
  | call (asked : Call)
  | append (id : String) (route : Route)
  /-- Wait for the fields that follow the body. -/
  | trailers
  | clock
  | tell (event : Event)
  /-- Go on with what has been begun. -/
  | goOn (begun : Unfinished)

/-- The type of the answer to an action. -/
abbrev Action.Reply : Action → Type
  | .acquire _ => Except Failure (Option Lease)
  | .release _ => Unit
  | .call asked => Except Failure asked.Reply
  | .append _ _ => Except Failure Nat
  | .trailers => Option Headers
  | .clock => Instant
  | .tell _ => Verdict
  | .goOn begun => begun.Reply

/-- A tree of actions that ends in values of a type. -/
inductive Program (α : Type) where
  | done (value : α)
  /-- An action, and what is done after each answer to it. -/
  | act (action : Action) (next : action.Reply → Program α)

namespace Program

variable {α β : Type}

/-- First one program, then another that depends on what the first gave. -/
def bind (program : Program α) (rest : α → Program β) : Program β :=
  match program with
  | .done value => rest value
  | .act action next => .act action fun reply => (next reply).bind rest

instance : Monad Program where
  pure := .done
  bind := bind

def perform (action : Action) : Program action.Reply :=
  .act action .done

@[simp]
theorem done_bind (value : α) (rest : α → Program β) :
    (Program.done value).bind rest = rest value :=
  rfl

@[simp]
theorem act_bind (action : Action) (next : action.Reply → Program α)
    (rest : α → Program β) :
    (Program.act action next).bind rest
      = .act action fun reply => (next reply).bind rest :=
  rfl

theorem bind_done (program : Program α) : program.bind .done = program := by
  induction program with
  | done value => rfl
  | act action next hypothesis =>
      exact congrArg (Program.act action) (funext hypothesis)

theorem bind_assoc {γ : Type} (program : Program α) (first : α → Program β)
    (second : β → Program γ) :
    (program.bind first).bind second
      = program.bind fun value => (first value).bind second := by
  induction program with
  | done value => rfl
  | act action next hypothesis =>
      exact congrArg (Program.act action) (funext hypothesis)

instance : LawfulMonad Program :=
  LawfulMonad.mk' Program bind_done (fun _ _ => rfl)
    (fun program first second => bind_assoc program first second)

/-- A property of all actions that a program may do, whatever is answered. -/
inductive Uses (allowed : Action → Prop) : Program α → Prop where
  | done (value : α) : Uses allowed (.done value)
  | act {action : Action} {next : action.Reply → Program α}
      (here : allowed action) (later : ∀ reply, Uses allowed (next reply)) :
      Uses allowed (.act action next)

/-- A program does what its parts do. -/
theorem Uses.bind {allowed : Action → Prop} {program : Program α}
    {rest : α → Program β} (first : Uses allowed program)
    (second : ∀ value, Uses allowed (rest value)) :
    Uses allowed (program.bind rest) := by
  induction first with
  | done value => exact second value
  | act here _ hypothesis => exact .act here hypothesis

end Program

/-- A program that may end in a failure of its surroundings. -/
abbrev Attempt := ExceptT Failure Program

namespace Attempt

def call (asked : Call) : Attempt asked.Reply :=
  ExceptT.mk (Program.perform (.call asked))

/-- Appending the body of the request to an upload. -/
def append (id : String) (route : Route) : Attempt Nat :=
  ExceptT.mk (Program.perform (.append id route))

/-- A lease on an upload, if it is free. -/
def acquire (id : String) : Attempt (Option Lease) :=
  ExceptT.mk (Program.perform (.acquire id))

def now : Attempt Instant :=
  ExceptT.lift (Program.perform .clock)

/-- The fields that follow the body, if they arrive. -/
def trailers : Attempt (Option Headers) :=
  ExceptT.lift (Program.perform .trailers)

def tell (event : Event) : Attempt Verdict :=
  ExceptT.lift (Program.perform (.tell event))

def fail {α : Type} (failure : Failure) : Attempt α :=
  throw failure

/-- What the program ends in, with a failure as a value. -/
def caught {α : Type} (attempt : Attempt α) : Program (Except Failure α) :=
  attempt.run

end Attempt

end ResumableUpload
