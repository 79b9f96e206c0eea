import ResumableUpload.Proofs.Solo.Visit
import ResumableUpload.Proofs.Traffic.Discipline
/-!
# Traffic

Many requests are under way on one server, and take turns action by action.  In
between new requests arrive, news reach the clients, clients go away and time
passes.  A list of such moves is an interleaving; whatever the requests and
whatever the order, it is the life of a server that does not handle its requests
one after another.

To handle one request at once, as `Server.handle` does, is one such
interleaving: `Traffic.exists_run_handle`.
-/

namespace ResumableUpload

/-- What the first action of a program comes to, if it is answered at once. -/
def Program.upshot? {α : Type} (program : Program α) (client : Client)
    (server : Server) : Option Upshot :=
  match program with
  | .done _ => none
  | .act action _ =>
      match server.perform client action with
      | .answered reply _ _ => some (action.upshot reply)
      | .waiting _ _ _ _ | .collapsed _ _ => none

/-- The lease that a request has after an upshot, if it had a lease before. -/
def Upshot.lease? (lease? : Option Lease) : Upshot → Option Lease
  | .acquired _ (.ok (some lease)) => some lease
  | .released lease => lease?.filter (· != lease)
  | _ => lease?

/-- A request under way. -/
structure Passage where
  request : Request
  client : Client
  /-- Where its program stands; if the client has gone, it has collapsed. -/
  halt : Halt (Except Failure Answer)
  /-- What its actions have come to, in order. -/
  past : List Upshot := []

namespace Passage

/-- The beginning of a request whose client holds no lease. -/
def begin (service : Service) (request : Request) (client : Client) : Passage :=
  { request := request
    client := { client with lease := none }
    halt := .waiting (Protocol.program service request) }

/--
The lease that a request has been granted and has not given back.  Who has gone
has none.
-/
def lease? (passage : Passage) : Option Lease :=
  match passage.halt with
  | .finished _ | .waiting _ => passage.past.foldl Upshot.lease? none
  | .collapsed => none

/-- What is performed next, if the request has not ended. -/
def next? (passage : Passage) : Option Action :=
  match passage.halt with
  | .waiting (.act action _) => some action
  | _ => none

/-- The request has come to its end without an answer. -/
def lost (passage : Passage) : Passage :=
  { passage with
    client := { passage.client with lease := none }
    halt := .collapsed }

/-- Performs one action.  Who collapses loses his lease. -/
def act (passage : Passage) (server : Server) : Passage × Server :=
  match passage.halt with
  | .waiting program =>
      let ran := program.step passage.client server
      let after : Passage :=
        { passage with
          client := ran.client
          halt := ran.halt
          past := passage.past
            ++ (program.upshot? passage.client server).toList }
      match ran.halt with
      | .collapsed => (after.lost, ran.server.dropLease ran.client.lease)
      | .finished _ | .waiting _ => (after, ran.server)
  | .finished _ | .collapsed => (passage, server)

section Act

variable {passage : Passage} {server after : Server} {client : Client}
  {action : Action} {next : action.Reply → Program (Except Failure Answer)}

theorem act_done {value : Except Failure Answer}
    (halt : passage.halt = .waiting (.done value)) :
    passage.act server
      = ({ passage with halt := .finished value }, server) := by
  simp only [act, halt, Program.step, Program.upshot?, Option.toList_none,
    List.append_nil]

theorem act_answered (halt : passage.halt = .waiting (.act action next))
    {reply : action.Reply}
    (performed : server.perform passage.client action
      = .answered reply client after) :
    passage.act server
      = ({ passage with
            client := client
            halt := .waiting (next reply)
            past := passage.past ++ [action.upshot reply] }, after) := by
  simp only [act, halt, Program.step, Program.upshot?, performed,
    Option.toList_some]

theorem act_waiting (halt : passage.halt = .waiting (.act action next))
    {instead : Action} {same : instead.Reply → action.Reply}
    (performed : server.perform passage.client action
      = .waiting instead same client after) :
    passage.act server
      = ({ passage with
            client := client
            halt := .waiting (.act instead fun reply => next (same reply)) },
          after) := by
  simp only [act, halt, Program.step, Program.upshot?, performed,
    Option.toList_none, List.append_nil]

theorem act_collapsed (halt : passage.halt = .waiting (.act action next))
    (performed : server.perform passage.client action
      = .collapsed client after) :
    passage.act server
      = ({ passage with
            client := { client with lease := none }
            halt := .collapsed }, after.dropLease client.lease) := by
  simp only [act, halt, Program.step, Program.upshot?, performed, lost,
    Option.toList_none, List.append_nil]

/-- What an act of a request may be. -/
inductive Acts (passage : Passage) (server : Server) :
    Passage → Server → Prop where
  /-- The request has ended before. -/
  | still (ended : ∀ program, passage.halt ≠ .waiting program) :
      Acts passage server passage server
  | finished {value : Except Failure Answer}
      (halt : passage.halt = .waiting (.done value)) :
      Acts passage server { passage with halt := .finished value } server
  | answered {action : Action}
      {next : action.Reply → Program (Except Failure Answer)}
      {reply : action.Reply} {client : Client} {after : Server}
      (halt : passage.halt = .waiting (.act action next))
      (performed : server.perform passage.client action
        = .answered reply client after) :
      Acts passage server
        { passage with
          client := client
          halt := .waiting (next reply)
          past := passage.past ++ [action.upshot reply] } after
  | waiting {action instead : Action}
      {next : action.Reply → Program (Except Failure Answer)}
      {same : instead.Reply → action.Reply} {client : Client} {after : Server}
      (halt : passage.halt = .waiting (.act action next))
      (performed : server.perform passage.client action
        = .waiting instead same client after) :
      Acts passage server
        { passage with
          client := client
          halt := .waiting (.act instead fun reply => next (same reply)) }
        after
  | collapsed {action : Action}
      {next : action.Reply → Program (Except Failure Answer)}
      {client : Client} {after : Server}
      (halt : passage.halt = .waiting (.act action next))
      (performed : server.perform passage.client action
        = .collapsed client after) :
      Acts passage server
        { passage with
          client := { client with lease := none }
          halt := .collapsed } (after.dropLease client.lease)

theorem acts (passage : Passage) (server : Server) :
    passage.Acts server (passage.act server).1 (passage.act server).2 := by
  cases halt : passage.halt with
  | finished value | collapsed =>
      simp only [act, halt]
      exact .still fun program contrary => by
        rw [halt] at contrary
        cases contrary
  | waiting program =>
      cases program with
      | done value =>
          rw [act_done halt]
          exact .finished halt
      | act action next =>
          cases performed : server.perform passage.client action with
          | answered reply client after =>
              rw [act_answered halt performed]
              exact .answered halt performed
          | waiting instead same client after =>
              rw [act_waiting halt performed]
              exact .waiting halt performed
          | collapsed client after =>
              rw [act_collapsed halt performed]
              exact .collapsed halt performed

end Act

/-- The client goes away, unless the request has ended. -/
def leave (passage : Passage) (server : Server) : Passage × Server :=
  match passage.halt with
  | .waiting program => (passage.lost, server.abandon passage.client program)
  | .finished _ | .collapsed => (passage, server)

/-- News reach the client. -/
def hear (news : News) (passage : Passage) (server : Server) :
    Passage × Server :=
  ({ passage with client := news.reach passage.client }, server)

end Passage

/-- A server and the requests that are or have been under way on it. -/
structure Traffic where
  server : Server := {}
  /-- The requests in the order of their arrival. -/
  passages : List Passage := []

/--
What may happen next; a request is known by the number of its predecessors.
-/
inductive Move where
  | arrive (request : Request) (client : Client)
  /-- A request performs one action. -/
  | act (key : Nat)
  | hear (key : Nat) (news : News)
  /-- The client of a request goes away. -/
  | leave (key : Nat)
  | elapse (milliseconds : Int)
  deriving DecidableEq, Repr

/-- The request that is moved by a move, if it has arrived before. -/
def Move.key? : Move → Option Nat
  | .act key | .hear key _ | .leave key => some key
  | .arrive _ _ | .elapse _ => none

/-- What a move changes of the request that it moves, and of the server. -/
def Move.change : Move → Passage → Server → Passage × Server
  | .act _ => Passage.act
  | .hear _ news => Passage.hear news
  | .leave _ => Passage.leave
  | .arrive _ _ | .elapse _ => Prod.mk

namespace Traffic

/-- A server on which no request has arrived. -/
def begin (server : Server) : Traffic :=
  { server := server }

/-- Moves one request, if it has arrived. -/
def update (traffic : Traffic) (key : Nat)
    (change : Passage → Server → Passage × Server) : Traffic :=
  match traffic.passages[key]? with
  | none => traffic
  | some passage =>
      let (after, server) := change passage traffic.server
      { server := server, passages := traffic.passages.set key after }

def move (traffic : Traffic) : Move → Traffic
  | .arrive request client =>
      { traffic with
        passages := traffic.passages
          ++ [.begin traffic.server.service request client] }
  | .act key => traffic.update key Passage.act
  | .hear key news => traffic.update key (Passage.hear news)
  | .leave key => traffic.update key Passage.leave
  | .elapse milliseconds =>
      { traffic with
        server :=
          { traffic.server with
            clock := traffic.server.clock.addMilliseconds milliseconds } }

theorem update_of_none {traffic : Traffic} {key : Nat}
    (absent : traffic.passages[key]? = none)
    (change : Passage → Server → Passage × Server) :
    traffic.update key change = traffic := by
  rw [update, absent]

theorem update_of_some {traffic : Traffic} {key : Nat} {passage : Passage}
    (present : traffic.passages[key]? = some passage)
    (change : Passage → Server → Passage × Server) :
    traffic.update key change
      = { server := (change passage traffic.server).2
          passages := traffic.passages.set key
            (change passage traffic.server).1 } := by
  rw [update, present]

theorem move_of_key {move : Move} {key : Nat} (own : move.key? = some key)
    (traffic : Traffic) :
    traffic.move move = traffic.update key move.change := by
  cases move <;> cases own <;> rfl

/-- Who is there after an arrival was there before, or has just come. -/
theorem getElem?_arrive {traffic : Traffic} {request : Request}
    {client : Client} {key : Nat} {passage : Passage}
    (present : (traffic.move (.arrive request client)).passages[key]?
      = some passage) :
    traffic.passages[key]? = some passage ∨ key = traffic.passages.length ∧
      passage = .begin traffic.server.service request client := by
  rw [move, List.getElem?_append] at present
  split at present
  · exact .inl present
  · rw [List.getElem?_singleton] at present
    split at present
    · cases present
      exact .inr ⟨by omega, rfl⟩
    · cases present

/-- Moves in order. -/
def run (traffic : Traffic) (moves : List Move) : Traffic :=
  moves.foldl move traffic

theorem run_append (traffic : Traffic) (earlier later : List Move) :
    traffic.run (earlier ++ later) = (traffic.run earlier).run later :=
  List.foldl_append

theorem run_concat (traffic : Traffic) (moves : List Move) (last : Move) :
    traffic.run (moves ++ [last]) = (traffic.run moves).move last :=
  traffic.run_append moves [last]

/-! ## One request at once -/

theorem move_act_single {passage after : Passage} {server later : Server}
    (acts : passage.act server = (after, later)) :
    ({ server := server, passages := [passage] } : Traffic).move (.act 0)
      = { server := later, passages := [after] } := by
  simp only [move, update, List.getElem?_cons_zero, acts, List.set_cons_zero]

/--
Acting again and again is running the program: the request comes to where the
program ends, waits or collapses.
-/
theorem exists_run_acts (program : Program (Except Failure Answer))
    (passage : Passage) (server : Server)
    (halt : passage.halt = .waiting program) :
    ∃ count after,
      ({ server := server, passages := [passage] } : Traffic).run
          (List.replicate count (.act 0))
        = { server := (Server.settleRun
              (program.run passage.client server)).2.2
            passages := [after] } ∧
        after.halt = (program.run passage.client server).halt := by
  induction program generalizing passage server with
  | done value =>
      refine ⟨1, { passage with halt := .finished value },
        (move_act_single (Passage.act_done halt)).trans ?_, rfl⟩
      cases value <;> rfl
  | act action next hypothesis =>
      rw [Program.run]
      cases performed : server.perform passage.client action with
      | answered reply client later =>
          rcases hypothesis reply
            { passage with
              client := client
              halt := .waiting (next reply)
              past := passage.past ++ [action.upshot reply] } later rfl with
            ⟨count, after, runs, halts⟩
          refine ⟨count + 1, after, ?_, halts⟩
          rw [List.replicate_succ, run, List.foldl_cons,
            move_act_single (Passage.act_answered halt performed)]
          exact runs
      | waiting instead same client later =>
          exact ⟨1, { passage with
              client := client
              halt := .waiting (.act instead fun reply => next (same reply)) },
            move_act_single (Passage.act_waiting halt performed), rfl⟩
      | collapsed client later =>
          exact ⟨1, { passage with
              client := { client with lease := none }
              halt := .collapsed },
            move_act_single (Passage.act_collapsed halt performed), rfl⟩

/-- To handle a request at once is to let it act until it stands still. -/
theorem exists_run_handle (server : Server) (request : Request)
    (client : Client) (empty : client.lease = none) :
    ∃ count after,
      (begin server).run
          (.arrive request client :: List.replicate count (.act 0))
        = { server := (server.handle request client).2.2
            passages := [after] } ∧
        after.halt = ((Protocol.program server.service request).run client
          server).halt := by
  have same :
      (Passage.begin server.service request client).client = client := by
    cases client
    cases empty
    rfl
  have runs := exists_run_acts (Protocol.program server.service request)
    (.begin server.service request client) server rfl
  rw [same] at runs
  exact runs

end Traffic

end ResumableUpload
