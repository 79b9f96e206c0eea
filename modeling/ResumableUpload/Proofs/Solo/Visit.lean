import ResumableUpload.Session
/-!
# Requests one after another

A request may have to wait on its way: for its body, or for the fields that
follow it.  What ends its waiting reaches it as news, exactly as the steps of a
session bring them to a waiting request.  A visit is a request together with
all the news that reach it; it is handled to its end, and a request that still
waits when there are no more news is given up.

A server that handles one visit after another, while time passes and dead
uploads are removed, lives through a list of occurrences.  What is said here of
every list of occurrences is said of every state that such a server reaches.
-/

namespace ResumableUpload

/-- What may reach a request while it waits. -/
inductive News where
  /-- The reader of the body may pass one pause. -/
  | pass
  /-- The request is cancelled. -/
  | cancel
  /-- The fields after the body arrive, or will not. -/
  | trailers (headers? : Option Headers)
  deriving DecidableEq, Repr

/-- The client of a request that news have reached. -/
def News.reach : News → Client → Client
  | .pass, client => { client with mayPass := true }
  | .cancel, client => { client with cancelled := true }
  | .trailers headers?, client =>
      { client with trailers := client.trailers.settle headers? }

@[simp]
theorem News.reach_lease (news : News) (client : Client) :
    (news.reach client).lease = client.lease := by
  cases news <;> rfl

namespace Program

variable {α : Type}

/-- Runs a program; whenever it has to wait, the next news reach its client. -/
def conduct (program : Program α) (client : Client) (server : Server) :
    List News → Ran α
  | [] => program.run client server
  | first :: later =>
      match program.run client server with
      | ⟨.waiting rest, client, server⟩ =>
          rest.conduct (first.reach client) server later
      | ended => ended

end Program

/-- A request, its client, and the news that will reach it. -/
structure Visit where
  /-- The request. -/
  request : Request
  /-- Its client. -/
  client : Client := {}
  /-- The news that reach it, one for each time that it waits. -/
  news : List News := []

namespace Server

/-- Handles a visit to its end, and gives it up if it waits for ever. -/
def visit (server : Server) (visit : Visit) : Handled × Client × Server :=
  match settleRun ((Protocol.program server.service visit.request).conduct
      visit.client server visit.news) with
  | (.waiting program, client, server) =>
      (.waiting program, client, server.abandon client program)
  | settled => settled

/-- The response to a request, if there is one. -/
def Handled.response? : Handled → Option Response
  | .answered (.respond response) => some response
  | _ => none

theorem Handled.eq_of_response? {handled : Handled} {response : Response}
    (answered : handled.response? = some response) :
    handled = .answered (.respond response) := by
  cases handled with
  | answered answer =>
      cases answer <;> cases answered
      rfl
  | _ => cases answered

end Server

/-- What may happen to a server that handles one request at a time. -/
inductive Occurrence where
  /-- A request is handled. -/
  | visit (visit : Visit)
  /-- Time passes, or the clock is set back. -/
  | elapse (milliseconds : Int)
  /-- The uploads whose life is over and which are not complete are removed. -/
  | sweep

namespace Server

/-- The server after an occurrence. -/
def undergo (server : Server) : Occurrence → Server
  | .visit visit => (server.visit visit).2.2
  | .elapse milliseconds =>
      { server with clock := server.clock.addMilliseconds milliseconds }
  | .sweep => ((Protocol.sweep server.service).caught.run {} server).server

/-- The server after some occurrences, the first of them first. -/
def live (server : Server) (occurrences : List Occurrence) : Server :=
  occurrences.foldl undergo server

@[simp]
theorem live_nil (server : Server) : server.live [] = server :=
  rfl

@[simp]
theorem live_cons (server : Server) (first : Occurrence)
    (later : List Occurrence) :
    server.live (first :: later) = (server.undergo first).live later :=
  rfl

@[simp]
theorem live_append (server : Server) (earlier later : List Occurrence) :
    server.live (earlier ++ later) = (server.live earlier).live later :=
  List.foldl_append

/--
What every occurrence preserves holds after any occurrences, if it holds
before.
-/
theorem live_induction {holds : Server → Prop} {server : Server}
    (occurrences : List Occurrence) (before : holds server)
    (step : ∀ server occurrence, holds server →
      holds (server.undergo occurrence)) :
    holds (server.live occurrences) := by
  induction occurrences generalizing server with
  | nil => exact before
  | cons first later hypothesis =>
      exact hypothesis (step server first before)

end Server

/-- A visit that no news reach is a request that a session does not let wait. -/
theorem Session.step_request_server (session : Session) (request : Request)
    (client : Client) :
    (session.step (.request request client)).map (·.2.server)
      = some (session.server.visit ⟨request, client, []⟩).2.2 := by
  simp only [Session.step, Option.map_some, Server.handle, Server.visit,
    Program.conduct]
  rcases Server.settleRun ((Protocol.program session.server.service request).run
      client session.server) with ⟨handled, client, server⟩
  cases handled with
  | answered answer => cases answer <;> rfl
  | failed failure => rfl
  | collapsed => rfl
  | waiting program => rfl

/-! ## Visits in texts -/

/-- Header fields that have texts for values. -/
def Headers.ofTexts (fields : List (String × String)) : Headers :=
  fields.map fun (name, text) => ⟨name, Bytes.ofString text⟩

namespace Visit

/-- A visit that creates an upload, with some fields. -/
def creating (fields : List (String × String)) : Visit where
  request :=
    { method := .post
      path := "/files"
      headers := .ofTexts
        ((HeaderName.tusResumable, protocolVersion) :: fields) }

/-- A visit that writes a text to the first upload of a store. -/
def writing (offset text : String) (fields : List (String × String)) :
    Visit where
  request :=
    { method := .patch
      path := "/files/~0~"
      headers := .ofTexts
        ((HeaderName.tusResumable, protocolVersion)
          :: (HeaderName.contentType, bodyType)
          :: (HeaderName.uploadOffset, offset) :: fields) }
  client := { body := [.data (Bytes.ofString text)] }

/-- A visit that writes texts, each of which arrives by itself. -/
def writingParts (texts : List String) : Visit :=
  { writing "0" "" [] with
    client := { body := texts.map fun text => .data (Bytes.ofString text) } }

end Visit

end ResumableUpload
