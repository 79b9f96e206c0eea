import ResumableUpload.Server.Basic
/-!
# Running programs

A program is run by a server for a client.  Each action is performed by one
function, `Server.perform`, whether the program runs to its end at once or
takes turns with others action by action.  An action may have to wait: for the
body, for the fields after the body, or for a record that somebody else uses.
A program that waits is a program again.

What an action tells the log, and whether it fails, is settled when it begins,
and so is whether there is an upload for it.  Whoever then waits for the record
gets it, even if the upload has been deleted meanwhile.
-/

namespace ResumableUpload

/-- The fields that follow a body, as they stand. -/
inductive Trailers where
  /-- None can follow. -/
  | absent
  | awaited
  | arrived (headers : Headers)
  /-- They will not arrive any more. -/
  | lost
  deriving DecidableEq, Repr

namespace Trailers

/--
The fields that follow a body after news of them: they arrive, or it turns out
that they will not.  News counts once, and only where they are awaited.
-/
def settle (trailers : Trailers) (headers? : Option Headers) : Trailers :=
  match trailers with
  | .awaited => (headers?.map .arrived).getD .lost
  | .absent | .arrived _ | .lost => trailers

end Trailers

/-- What a client has sent, and what it holds. -/
structure Client where
  /-- What has not been read of the body. -/
  body : Body := []
  trailers : Trailers := .absent
  /-- Whether the reader of the body may pass the next pause. -/
  mayPass : Bool := false
  cancelled : Bool := false
  lease : Option Lease := none
  deriving DecidableEq, Repr

/--
The body for the next reading.  A permit to pass a pause is kept until there is
a reader, who uses it up.
-/
def Client.readable (client : Client) : Body :=
  if client.mayPass then client.body.passing else client.body

/-- What comes of an action whose answer is of a type. -/
inductive Performed (reply : Type) where
  | answered (answer : reply) (client : Client) (server : Server)
  /--
  It has to wait; when there is a chance, another action is performed in its
  place, whose answer is its own.
  -/
  | waiting (instead : Action) (same : instead.Reply → reply)
      (client : Client) (server : Server)
  | collapsed (client : Client) (server : Server)

namespace Server

def waitFor (server : Server) (client : Client) (begun : Unfinished) :
    Performed begun.Reply :=
  .waiting (.goOn begun) (fun answer => answer) client server

/--
Joins the remaining uploads to the content of those before them, up to the
first whose record is in use.
-/
def joinRest (server : Server) (client : Client) (ids : List String)
    (metadata : Option String) (content : Bytes) (rest : List String) :
    Performed (Except Failure String) :=
  match server.store.joined? (rest.takeWhile fun id => !server.isUsed id) with
  | .error id => .answered (.error (.missing id)) client server
  | .ok more =>
      match rest.dropWhile fun id => !server.isUsed id with
      | [] =>
          let (reply, store) :=
            server.store.create (.joining ids metadata (content ++ more))
          .answered reply client { server with store := store }
      | id :: later =>
          let (turn, server) := server.join id
          server.waitFor client
            (.joining turn (content ++ more) later ids metadata)

/--
Attends to a call that does not fail, as soon as the records that it needs are
free.
-/
def attend (server : Server) (client : Client) (asked : Call) :
    Performed (Except Failure asked.Reply) :=
  if asked.looksAtClock && !server.clock.isReadable then
    .collapsed client server
  else
    match (asked.records server.store).find? server.isUsed with
    | none =>
        let (reply, server) := server.answer asked
        .answered reply client server
    | some id =>
        match asked with
        | .createJoined ids metadata =>
            server.joinRest client ids metadata [] ids
        | asked =>
            let (turn, server) := server.join id
            server.waitFor client (.calling turn asked)

/-- Calls the store, unless that fails this time. -/
def callStore (server : Server) (client : Client) (asked : Call) :
    Performed (Except Failure asked.Reply) :=
  match (server.note (.called asked)).nextFault asked.operation with
  | (some failure, server) => .answered (.error failure) client server
  | (none, server) => server.attend client asked

/--
Goes on with an append to a record.  An append that has to wait for the body
keeps the record, and takes a turn for it if it has none.
-/
def advanceAppend (server : Server) (client : Client) (id : String)
    (turn? : Option Turn) (appending : Appending) :
    Performed (Except Failure Nat) :=
  let progress := appending.advance client.readable client.cancelled
  let client :=
    { client with
      body := progress.rest
      mayPass := false
      cancelled := progress.cancelled }
  let server := server.changeRecord id fun upload =>
    { upload with content := progress.appending.content }
  match progress.result with
  | some result => .answered result client (server.leave turn?)
  | none =>
      let (turn, server) :=
        match turn? with
        | some turn => (turn, server)
        | none => server.join id
      server.waitFor client (.appending turn progress.appending)

def beginAppend (server : Server) (client : Client) (id : String)
    (turn? : Option Turn) (route : Route) (upload : Upload) :
    Performed (Except Failure Nat) :=
  let server := server.changeRecord id Upload.beginChunk
  match Appending.begin? server.settings route upload with
  | some appending => server.advanceAppend client id turn? appending
  | none => .collapsed client (server.leave turn?)

/-- Appends to an upload, unless that fails this time. -/
def append (server : Server) (client : Client) (id : String) (route : Route) :
    Performed (Except Failure Nat) :=
  match (server.note (.appended id route)).nextFault route.operation with
  | (some failure, server) => .answered (.error failure) client server
  | (none, server) =>
      match server.store.find? id with
      | none => .answered (.error (.missing id)) client server
      | some upload =>
          if server.line.isUsed id then
            let (turn, server) := server.join id
            server.waitFor client (.beginning turn route)
          else server.beginAppend client id none route upload

/-- Looks for the fields that follow the body; a cancelled request has none. -/
def lookForTrailers (server : Server) (client : Client) :
    Performed (Option Headers) :=
  if client.cancelled then .answered none client server
  else
    match client.trailers with
    | .awaited => .waiting .trailers (fun answer => answer) client server
    | .arrived headers => .answered (some headers) client server
    | .absent | .lost => .answered none client server

def react (server : Server) (client : Client) (event : Event)
    (file : Except Failure (Option StoredFile)) : Performed Verdict :=
  match (server.note (.told event file)).nextReaction event.hook with
  | (none, server) => .answered .proceed client server
  | (some (.verdict verdict), server) => .answered verdict client server
  | (some .collapse, server) => .collapsed client server

/-- The host reads a complete upload, and then reacts. -/
def readBack (server : Server) (client : Client) (id : String) :
    Performed Verdict :=
  if server.service.terms.grants .readable then
    match (server.note (.called (.read id))).nextFault .read with
    | (some failure, server) =>
        server.react client (.fileComplete id) (.error failure)
    | (none, server) =>
        if server.isUsed id then
          let (turn, server) := server.join id
          server.waitFor client (.reading turn)
        else
          let (file, server) := server.answer (.read id)
          server.react client (.fileComplete id) file
  else server.react client (.fileComplete id) (.error (.unsupported .readable))

def tellHost (server : Server) (client : Client) (event : Event) :
    Performed Verdict :=
  if (server.hooks event.hook).isNone then .answered .proceed client server
  else
    match event with
    | .fileComplete id => server.readBack client id
    | event => server.react client event (.ok none)

/-- Goes on with what has been begun, if its turn has come. -/
def goOn (server : Server) (client : Client) (begun : Unfinished) :
    Performed begun.Reply :=
  if !server.line.hasCome begun.turn then server.waitFor client begun
  else
    match begun with
    | .calling turn asked =>
        match asked.record? with
        | some _ =>
            let (reply, server) := server.answerInTurn turn asked
            .answered reply client (server.leave turn)
        | none => (server.leave turn).attend client asked
    | .joining turn content rest ids metadata =>
        let next := ((server.record? turn.id).map Upload.content).getD []
        (server.leave turn).joinRest client ids metadata (content ++ next) rest
    | .beginning turn route =>
        match server.record? turn.id with
        | some upload => server.beginAppend client turn.id turn route upload
        | none =>
            .answered (.error (.missing turn.id)) client (server.leave turn)
    | .appending turn appending =>
        server.advanceAppend client turn.id turn appending
    | .reading turn =>
        let (file, server) := server.answerInTurn turn (.read turn.id)
        (server.leave turn).react client (.fileComplete turn.id) file

/-- Performs an action of a request for its client. -/
def perform (server : Server) (client : Client) :
    (action : Action) → Performed action.Reply
  | .acquire id =>
      match server.askLease id with
      | (.ok lease, server) =>
          .answered (.ok lease) { client with lease := lease } server
      | (.error failure, server) => .answered (.error failure) client server
  | .release lease =>
      .answered () { client with lease := none } (server.giveBack lease)
  | .call asked => server.callStore client asked
  | .append id route => server.append client id route
  | .trailers => server.lookForTrailers client
  | .clock =>
      if server.clock.isReadable then .answered server.clock client server
      else .collapsed client server
  | .tell event => server.tellHost client event
  | .goOn begun => server.goOn client begun

end Server

/-- Where a program stands. -/
inductive Halt (α : Type) where
  | finished (value : α)
  /-- It has not ended, and this remains to be done. -/
  | waiting (program : Program α)
  | collapsed

/-- A program that has been run, with what it leaves behind. -/
structure Ran (α : Type) where
  halt : Halt α
  client : Client
  server : Server

namespace Program

variable {α : Type}

/-- Runs a program until it ends, has to wait, or collapses. -/
def run (program : Program α) (client : Client) (server : Server) : Ran α :=
  match program with
  | .done value => ⟨.finished value, client, server⟩
  | .act action next =>
      match server.perform client action with
      | .answered reply client server => (next reply).run client server
      | .waiting instead same client server =>
          ⟨.waiting (.act instead fun answer => next (same answer)), client,
            server⟩
      | .collapsed client server => ⟨.collapsed, client, server⟩

/--
A program that goes on with another is run by running the first and, where it
has ended, the second.
-/
theorem run_bind {β : Type} (program : Program α) (rest : α → Program β)
    (client : Client) (server : Server) :
    (program.bind rest).run client server
      = match program.run client server with
        | ⟨.finished value, client, server⟩ => (rest value).run client server
        | ⟨.waiting program, client, server⟩ =>
            ⟨.waiting (program.bind rest), client, server⟩
        | ⟨.collapsed, client, server⟩ => ⟨.collapsed, client, server⟩ := by
  induction program generalizing client server with
  | done value => rfl
  | act action next hypothesis =>
      rw [act_bind, run, run]
      cases server.perform client action with
      | answered reply client server => exact hypothesis reply client server
      | waiting instead same client server => rfl
      | collapsed client server => rfl

/-- Performs one action of a program, if it has not ended. -/
def step (program : Program α) (client : Client) (server : Server) : Ran α :=
  match program with
  | .done value => ⟨.finished value, client, server⟩
  | .act action next =>
      match server.perform client action with
      | .answered reply client server => ⟨.waiting (next reply), client, server⟩
      | .waiting instead same client server =>
          ⟨.waiting (.act instead fun answer => next (same answer)), client,
            server⟩
      | .collapsed client server => ⟨.collapsed, client, server⟩

/-- The turn that a program keeps while it waits. -/
def turn? : Program α → Option Turn
  | .act (.goOn begun) _ => some begun.turn
  | _ => none

end Program

namespace Server

/-- What becomes of a request that is handled. -/
inductive Handled where
  /-- It is answered, or goes on as it came. -/
  | answered (answer : Answer)
  | failed (failure : Failure)
  | collapsed
  | waiting (program : Program (Except Failure Answer))

/-- Reads off where a program for a request stands. -/
def settleRun (ran : Ran (Except Failure Answer)) :
    Handled × Client × Server :=
  match ran.halt with
  | .finished (.ok answer) => (.answered answer, ran.client, ran.server)
  | .finished (.error failure) => (.failed failure, ran.client, ran.server)
  | .collapsed => (.collapsed, ran.client, ran.server.dropLease ran.client.lease)
  | .waiting program => (.waiting program, ran.client, ran.server)

/-- Handles a request of a client as far as it goes. -/
def handle (server : Server) (request : Request) (client : Client) :
    Handled × Client × Server :=
  settleRun ((Protocol.program server.service request).run client server)

def abandon {α : Type} (server : Server) (client : Client)
    (program : Program α) : Server :=
  (server.leave program.turn?).dropLease client.lease

end Server

end ResumableUpload
