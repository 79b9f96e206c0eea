import ResumableUpload.Server.Run
/-!
# Sessions

A session is a server together with the requests that wait on it.  It is
driven step by step: a request arrives, a waiting request gets what it waits
for or is given up, time passes, the store or the lock table is used directly.

If the host breaks off while it handles a request, that is the end of the
request.  If it breaks off elsewhere, that is the end of the session.
-/

namespace ResumableUpload

/-- A request that waits. -/
structure Task where
  request : Request
  /-- What remains to be done for it. -/
  program : Program (Except Failure Answer)
  client : Client

/-- A server and the requests that wait on it, by name. -/
structure Session where
  server : Server := {}
  /-- The waiting requests. -/
  tasks : List (String × Task) := []

/-- What is done in a session. -/
inductive SessionStep where
  /-- A request arrives that is not expected to wait. -/
  | request (request : Request) (client : Client)
  /-- A request arrives that may wait under a name. -/
  | start (name : String) (request : Request) (client : Client)
  /-- A waiting request may pass one pause. -/
  | resume (name : String)
  | cancel (name : String)
  /-- The fields after the body of a waiting request arrive, or will not. -/
  | trailers (name : String) (headers : Option Headers)
  | abandon (name : String)
  | advance (milliseconds : Int)
  /-- The uploads whose life is over and which are not complete are removed. -/
  | sweep
  | acquire (id : String)
  | release (lease : Lease)
  /-- Whether there is a lease on an upload. -/
  | isLocked (id : String)
  /-- What the server offers, and where. -/
  | engine
  /-- All uploads. -/
  | dump
  /-- The store is called directly. -/
  | call (asked : Call)
  /-- A body is appended to an upload directly. -/
  | append (id : String) (route : Route) (body : Body) (cancelled : Bool)
  | count

/-- One upload in a dump: its record, unless somebody uses it. -/
structure Dumped where
  id : String
  upload? : Option Upload
  deriving DecidableEq, Repr

/-- What is said of a step of a session. -/
inductive StepAnswer where
  | response (response : Response)
  /-- A request goes on as it came. -/
  | passedOn (request : Request) (client : Client)
  | failure (failure : Failure)
  | collapsed
  | pending
  /-- A step would have to wait where it cannot. -/
  | blocked
  | abandoned
  | unknownTask
  | time (now : Instant)
  /-- The number of uploads that were removed. -/
  | removed (count : Nat)
  /-- A lease, or none because there is one already. -/
  | lease (lease : Option Lease)
  | released
  | locked (answer : Bool)
  | engine (urlPath : String) (extensions : String)
  | dump (uploads : List Dumped)
  | reply (asked : Call) (reply : asked.Reply)
  | written (count : Nat)
  | count (count : Nat)

namespace Session

def task? (session : Session) (name : String) : Option Task :=
  (session.tasks.find? (·.1 == name)).map Prod.snd

/-- The session without the waiting request of a name. -/
def dropTask (session : Session) (name : String) : Session :=
  { session with tasks := session.tasks.filter (·.1 != name) }

/--
What is said of a request, and the session after it.  A request that waits is
kept under its name; without a name it is given up.
-/
def settle (session : Session) (name? : Option String) (request : Request) :
    Server.Handled × Client × Server → StepAnswer × Session
  | (.answered (.respond response), _, server) =>
      (.response response, { session with server := server })
  | (.answered .passOn, client, server) =>
      (.passedOn request client, { session with server := server })
  | (.failed failure, _, server) =>
      (.failure failure, { session with server := server })
  | (.collapsed, _, server) => (.collapsed, { session with server := server })
  | (.waiting program, client, server) =>
      match name? with
      | some name =>
          (.pending,
            { server := server
              tasks := session.tasks ++ [(name, ⟨request, program, client⟩)] })
      | none =>
          (.blocked,
            { session with server := server.abandon client program })

/-- Lets a waiting request go on after its client has changed. -/
def goOn (session : Session) (name : String) (change : Client → Client) :
    StepAnswer × Session :=
  match session.task? name with
  | none => (.unknownTask, session)
  | some task =>
      (session.dropTask name).settle (some name) task.request
        (Server.settleRun
          (task.program.run (change task.client) session.server))

def abandon (session : Session) (name : String) : StepAnswer × Session :=
  match session.task? name with
  | none => (.unknownTask, session)
  | some task =>
      (.abandoned,
        { session.dropTask name with
          server := session.server.abandon task.client task.program })

/--
Runs an attempt that is no request, and says what it ended in, unless the host
breaks off.
-/
def attempt {α : Type} (session : Session) (client : Client)
    (attempt : Attempt α) (answer : α → StepAnswer) :
    Option (StepAnswer × Session) :=
  let ran := attempt.caught.run client session.server
  let session := { session with server := ran.server }
  match ran.halt with
  | .finished (.ok value) => some (answer value, session)
  | .finished (.error failure) => some (.failure failure, session)
  | .waiting program =>
      some (.blocked,
        { session with server := ran.server.abandon ran.client program })
  | .collapsed => none

/-- One step of a session, unless the host breaks off. -/
def step (session : Session) : SessionStep → Option (StepAnswer × Session)
  | .request request client =>
      some (session.settle none request (session.server.handle request client))
  | .start name request client =>
      some (session.settle (some name) request
        (session.server.handle request client))
  | .resume name =>
      some (session.goOn name fun client => { client with mayPass := true })
  | .cancel name =>
      some (session.goOn name fun client => { client with cancelled := true })
  | .trailers name headers? =>
      some (session.goOn name fun client =>
        { client with trailers := client.trailers.settle headers? })
  | .abandon name => some (session.abandon name)
  | .advance milliseconds =>
      let clock := session.server.clock.addMilliseconds milliseconds
      some (.time clock,
        { session with server := { session.server with clock := clock } })
  | .sweep =>
      session.attempt {} (Protocol.sweep session.server.service) .removed
  | .acquire id =>
      match session.server.askLease id with
      | (.ok lease, server) =>
          some (.lease lease, { session with server := server })
      | (.error failure, server) =>
          some (.failure failure, { session with server := server })
  | .release lease =>
      match session.server.nextFault .release with
      | (some failure, server) =>
          some (.failure failure, { session with server := server })
      | (none, server) =>
          some (.released,
            { session with
              server := { server with locks := server.locks.release lease } })
  | .isLocked id =>
      some (.locked (session.server.locks.isLocked id), session)
  | .engine =>
      some (.engine session.server.service.config.urlPath
        session.server.service.terms.extensions.written, session)
  | .dump =>
      some (.dump (session.server.store.uploads.map fun entry =>
        ⟨entry.1,
          if session.server.line.isUsed entry.1 then none
          else some entry.2⟩), session)
  | .call asked => session.attempt {} (Attempt.call asked) (.reply asked)
  | .append id route body cancelled =>
      session.attempt { body := body, cancelled := cancelled }
        (Attempt.append id route) .written
  | .count => some (.count session.server.store.uploads.length, session)

/--
Steps in order, unless the host breaks off; with each answer goes what the log
tells of its step.
-/
def run (session : Session) :
    List SessionStep → Option (List (StepAnswer × List LogEntry))
  | [] => some []
  | step :: rest => do
      let noted := session.server.log.length
      let (answer, session) ← session.step step
      return (answer, session.server.notedAfter noted) :: (← session.run rest)

end Session

end ResumableUpload
