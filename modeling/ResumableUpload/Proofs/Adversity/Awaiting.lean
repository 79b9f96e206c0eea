import ResumableUpload.Proofs.Adversity.Drift
/-!
# Awaiting programs

Where a program is conducted and others follow it, the news that are left
matter to what follows.  `Program.await` conducts a program and says which news
are left.  Unlike `Program.conduct` it can be taken apart along `bind`, on every
server and whatever fails: `Program.await_bind`.  How a server drifts in one
action, `Program.Uses.await_drifts` carries through a whole program.
-/

namespace ResumableUpload

/-- What a program has come to, when news may end its waiting. -/
inductive Conducted (α : Type) where
  /-- It has ended, and some news are left. -/
  | finished (value : α) (client : Client) (server : Server)
      (news : List News)
  /-- It waits, and no news are left. -/
  | waiting (program : Program α) (client : Client) (server : Server)
  | collapsed (client : Client) (server : Server)

namespace Conducted

variable {α β : Type}

def client : Conducted α → Client
  | .finished _ client _ _ | .waiting _ client _ | .collapsed client _ => client

def server : Conducted α → Server
  | .finished _ _ server _ | .waiting _ _ server | .collapsed _ server => server

/-- The same without the news that are left. -/
def ran : Conducted α → Ran α
  | .finished value client server _ => ⟨.finished value, client, server⟩
  | .waiting program client server => ⟨.waiting program, client, server⟩
  | .collapsed client server => ⟨.collapsed, client, server⟩

@[simp]
theorem ran_server (conducted : Conducted α) :
    conducted.ran.server = conducted.server := by
  cases conducted <;> rfl

end Conducted

/-! ## Actions -/

namespace Awaited

variable {reply other : Type}

def client : Awaited reply → Client
  | .answered _ client _ _ | .waiting _ _ client _ | .collapsed client _ _ =>
      client

def server : Awaited reply → Server
  | .answered _ _ server _ | .waiting _ _ _ server | .collapsed _ server _ =>
      server

@[simp]
theorem map_client (change : reply → other) (awaited : Awaited reply) :
    (awaited.map change).client = awaited.client := by
  cases awaited <;> rfl

@[simp]
theorem map_server (change : reply → other) (awaited : Awaited reply) :
    (awaited.map change).server = awaited.server := by
  cases awaited <;> rfl

end Awaited

/-- What is kept by what comes of an action, and by what takes its place. -/
def Performed.Keeps {reply : Type} (allowed : Action → Prop)
    (keeps : Client → Server → Prop) : Performed reply → Prop
  | .answered _ client server | .collapsed client server =>
      keeps client server
  | .waiting instead _ client server =>
      allowed instead ∧ keeps client server

/-- What news and every allowed action keep. -/
structure Action.Keeps (allowed : Action → Prop)
    (keeps : Client → Server → Prop) : Prop where
  perform : ∀ client server action, allowed action → keeps client server →
    (server.perform client action).Keeps allowed keeps
  reach : ∀ (news : News) client server, keeps client server →
    keeps (news.reach client) server

/-- What news and actions keep is kept while an action is awaited. -/
theorem Action.Keeps.await {allowed : Action → Prop}
    {keeps : Client → Server → Prop} (all : Action.Keeps allowed keeps)
    {reply : Type} {performed : Performed reply}
    (kept : performed.Keeps allowed keeps) (news : List News) :
    keeps (performed.await news).client (performed.await news).server := by
  induction news generalizing reply with
  | nil =>
      cases performed with
      | answered answer client server => exact kept
      | collapsed client server => exact kept
      | waiting instead same client server => exact kept.2
  | cons first later hypothesis =>
      cases performed with
      | answered answer client server => exact kept
      | collapsed client server => exact kept
      | waiting instead same client server =>
          rw [Performed.await, Awaited.map_client, Awaited.map_server]
          exact hypothesis (all.perform _ _ _ kept.1
            (all.reach first client server kept.2))

/-! ## Programs -/

namespace Program

variable {α β : Type}

/-- Conducts a program, and says which news are left. -/
def await (program : Program α) (client : Client) (server : Server)
    (news : List News) : Conducted α :=
  match program with
  | .done value => .finished value client server news
  | .act action next =>
      match (server.perform client action).await news with
      | .answered answer client server later =>
          (next answer).await client server later
      | .waiting instead same client server =>
          .waiting (.act instead fun answer => next (same answer)) client server
      | .collapsed client server _ => .collapsed client server

/-- An action that is answered at once needs no news. -/
theorem await_act_of_answered {action : Action}
    {next : action.Reply → Program α} {reply : action.Reply}
    {client after : Client} {server left : Server}
    (answered : server.perform client action = .answered reply after left)
    (news : List News) :
    (Program.act action next).await client server news
      = (next reply).await after left news := by
  rw [await, answered, Performed.answered_await]

/-- To conduct a program is to await it and to forget the news. -/
theorem conduct_eq (program : Program α) (client : Client) (server : Server)
    (news : List News) :
    program.conduct client server news
      = (program.await client server news).ran := by
  induction program generalizing client server news with
  | done value => exact conduct_done value client server news
  | act action next hypothesis =>
      rw [conduct_act, await]
      cases (server.perform client action).await news with
      | answered answer client server later => exact hypothesis _ _ _ _
      | waiting instead same client server => rfl
      | collapsed client server later => rfl

/-- One program and then another are awaited one after the other. -/
theorem await_bind (program : Program α) (rest : α → Program β)
    (client : Client) (server : Server) (news : List News) :
    (program.bind rest).await client server news
      = match program.await client server news with
        | .finished value client server later =>
            (rest value).await client server later
        | .waiting program client server =>
            .waiting (program.bind rest) client server
        | .collapsed client server => .collapsed client server := by
  induction program generalizing client server news with
  | done value => rfl
  | act action next hypothesis =>
      rw [act_bind, await, await]
      cases (server.perform client action).await news with
      | answered answer client server later => exact hypothesis _ _ _ _
      | waiting instead same client server => rfl
      | collapsed client server later => rfl

/-- What news and allowed actions keep, a program keeps that does no other. -/
theorem Uses.await_keeps {allowed : Action → Prop}
    {keeps : Client → Server → Prop} (all : Action.Keeps allowed keeps)
    {program : Program α} (uses : program.Uses allowed) {client : Client}
    {server : Server} (before : keeps client server) (news : List News) :
    keeps (program.await client server news).client
      (program.await client server news).server := by
  induction uses generalizing client server news with
  | done value => exact before
  | @act action next here _ hypothesis =>
      have awaited := all.await (all.perform client server action here before)
        news
      rw [Program.await]
      generalize (server.perform client action).await news = result
        at awaited ⊢
      cases result with
      | answered answer client server later => exact hypothesis _ awaited later
      | waiting instead same client server => exact awaited
      | collapsed client server later => exact awaited

end Program

/-! ## Leases and the store -/

/--
A program that does nothing about leases leaves them alone, and leaves the store
alone if it writes nothing.
-/
theorem Program.Uses.await_drifts {α : Type} {writes : Bool}
    {program : Program α} (uses : program.Uses (Action.Stays writes))
    (client : Client) (server : Server) (news : List News) :
    server.Drifts writes (program.await client server news).server ∧
      (program.await client server news).client.lease = client.lease := by
  have all : Action.Keeps (Action.Stays writes) fun after left =>
      server.Drifts writes left ∧ after.lease = client.lease := by
    refine ⟨?_, fun first after left kept =>
      ⟨kept.1, (first.reach_lease after).trans kept.2⟩⟩
    intro after left action stays kept
    have performed := left.perform_drifts after stays
    have drift := kept.1.trans performed.server
    have lease := performed.lease.trans kept.2
    generalize left.perform after action = result at performed drift lease ⊢
    cases result with
    | answered answer => exact ⟨drift, lease⟩
    | collapsed => exact ⟨drift, lease⟩
    | waiting instead => exact ⟨performed.stays, drift, lease⟩
  exact uses.await_keeps all ⟨.refl server, rfl⟩ news

namespace Server

theorem askLease_store (server : Server) (id : String) :
    (server.askLease id).2.store = server.store := by
  have asked := (Drifts.nextFault server .acquire).store rfl
  rw [askLease]
  generalize server.nextFault .acquire = next at asked ⊢
  rcases next with ⟨_ | failure, after⟩ <;> exact asked

theorem giveBack_store (server : Server) (lease : Lease) :
    (server.giveBack lease).store = server.store := by
  have given := (Drifts.nextFault server .release).store rfl
  rw [giveBack]
  generalize server.nextFault .release = next at given ⊢
  rcases next with ⟨_ | failure, after⟩ <;> exact given

/-- An action that does not write leaves the store alone. -/
theorem perform_store (server : Server) (client : Client) {action : Action}
    (reads : action.writes = false) :
    (server.perform client action).Keeps (fun action => action.writes = false)
      fun _ after => after.store = server.store := by
  cases other : action.isLeasing with
  | false =>
      have stays : action.Stays false := .of_reads other reads
      have performed := server.perform_drifts client stays
      have same := performed.server.store rfl
      generalize server.perform client action = result at performed same ⊢
      cases result with
      | answered answer => exact same
      | collapsed => exact same
      | waiting instead =>
          have stays : instead.Stays false := performed.stays
          exact ⟨stays.reads, same⟩
  | true =>
      cases action with
      | acquire id =>
          have same := server.askLease_store id
          rw [perform]
          generalize server.askLease id = asked at same ⊢
          rcases asked with ⟨_ | lease?, after⟩ <;> exact same
      | release lease => exact server.giveBack_store lease
      | _ => cases other

end Server

/-- A program that writes nothing leaves the store, whatever its leases. -/
theorem Program.Uses.await_store {α : Type} {program : Program α}
    (uses : program.Uses fun action => action.writes = false)
    (client : Client) (server : Server) (news : List News) :
    (program.await client server news).server.store = server.store := by
  have all : Action.Keeps (fun action => action.writes = false)
      fun _ left => left.store = server.store := by
    refine ⟨?_, fun _ _ _ same => same⟩
    intro client left action reads same
    have performed := left.perform_store client reads
    rw [same] at performed
    exact performed
  exact uses.await_keeps all rfl news

end ResumableUpload
