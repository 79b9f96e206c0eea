import ResumableUpload.Bytes
/-!
# Bodies

A request body arrives piece by piece, and what becomes of it is not only data:
the client may vanish, the request may be cancelled while data is still on its
way, and the next piece may keep the reader waiting.  A body is therefore a
list of arrivals, and reading is one function, `Body.feed`, that hands the
deliveries to a consumer one after another until something ends it.
-/

namespace ResumableUpload

/-- What the reader of a body meets next. -/
inductive Arrival where
  | data (bytes : Bytes)
  | failure
  /--
  The request is cancelled while a read is under way; that read still delivers
  what comes next.
  -/
  | cancellation
  /-- Nothing more arrives until the reader is told to go on. -/
  | pause
  deriving DecidableEq, Repr

/-- A request body: everything that arrives before its end. -/
abbrev Body := List Arrival

namespace Body

/--
The data of a body up to its end, a failure or a pause: what a reader gets who
does not wait.
-/
def data : Body → Bytes
  | [] => []
  | .data bytes :: rest => bytes ++ data rest
  | .cancellation :: rest => data rest
  | .failure :: _ | .pause :: _ => []

/-- Whether a reader who does not wait misses the end of a body. -/
def fails (body : Body) : Bool :=
  body.contains .failure || body.contains .pause

/-- The number of bytes of all data of a body. -/
def size : Body → Nat
  | [] => 0
  | .data bytes :: rest => bytes.length + size rest
  | _ :: rest => size rest

/--
The body as it is delivered by reads of at most `limit` bytes.  A read never
joins two arrivals, and no read delivers nothing.
-/
def inReads (limit : Nat) : Body → Body
  | [] => []
  | .data bytes :: rest =>
      (Bytes.pieces limit bytes).map .data ++ inReads limit rest
  | other :: rest => other :: inReads limit rest

/-- The body for a reader who may pass the next pause, if there is one. -/
def passing (body : Body) : Body :=
  body.erase .pause

/-- Why reading came to a stop. -/
inductive Stop (ε : Type) where
  | ended
  | disconnected
  | cancelled
  | paused
  /-- The consumer has refused a delivery. -/
  | refused (reason : ε)

/-- What reading leaves behind. -/
structure Fed (σ ε : Type) where
  state : σ
  /-- What has not been read. -/
  rest : Body
  cancelled : Bool
  stop : Stop ε

/--
Hands the deliveries of a body to a consumer, which answers with its new state
and perhaps with a reason to stop.  A cancelled request is noticed before a
read begins, and while a read waits, but not once data has arrived; `inRead`
says whether a read has begun.
-/
def feed {σ ε : Type} (consume : σ → Bytes → σ × Option ε) (state : σ)
    (cancelled inRead : Bool) : Body → Fed σ ε
  | [] =>
      if cancelled && !inRead then ⟨state, [], cancelled, .cancelled⟩
      else ⟨state, [], cancelled, .ended⟩
  | arrival :: rest =>
      if cancelled && !inRead then
        ⟨state, arrival :: rest, cancelled, .cancelled⟩
      else
        match arrival with
        | .data bytes =>
            match consume state bytes with
            | (state, none) => feed consume state cancelled false rest
            | (state, some reason) =>
                ⟨state, rest, cancelled, .refused reason⟩
        | .failure => ⟨state, rest, cancelled, .disconnected⟩
        | .cancellation => feed consume state true true rest
        | .pause =>
            if cancelled then ⟨state, .pause :: rest, cancelled, .cancelled⟩
            else ⟨state, .pause :: rest, cancelled, .paused⟩

end Body

end ResumableUpload
