import ResumableUpload.Proofs.Adversity.Awaiting
import ResumableUpload.Proofs.Solo.Leases
import ResumableUpload.Proofs.Solo.Life
/-!
# Leases are given back

Between the moment at which a lease is granted and the moment at which it is
given back lies all the work of a request: calls that may fail, a body that may
stall, a host that may break off.  Whatever happens there, after the request
the same leases are in force as before it, in the same order:
`Server.visit_gives_back`.  So the lease of the request is gone, and the leases
of others are where they were.

Nothing is assumed of the server but that giving a lease back does not fail.
-/

namespace ResumableUpload

variable {service : Service} {exchange : Exchange} {handling : Handling}

/-- A lease that was granted and given back leaves the others in force. -/
theorem LockTable.held_release_acquire {table : LockTable} {id : String}
    {lease : Lease} (granted : (table.acquire id).1 = some lease) :
    ((table.acquire id).2.release lease).held = table.held := by
  rw [acquire] at granted ⊢
  split at granted
  · cases granted
  · rename_i free
    cases granted
    have apart : ∀ other ∈ table.held, other != ⟨id, table.next⟩ := by
      intro other present
      refine bne_iff_ne.2 fun same => free ?_
      rw [isLocked, holder?, List.find?_isSome]
      exact ⟨other, present, by simp [same]⟩
    rw [if_neg free]
    change (_ :: table.held).filter (· != ⟨id, table.next⟩) = table.held
    rw [List.filter_cons_of_neg (by simp), List.filter_eq_self.2 apart]

namespace Server

variable {server : Server}

/-- Giving a lease back does not fail. -/
def GivesBackSafely (server : Server) : Prop :=
  server.faults .release = []

theorem GivesBackSafely.giveBack (safe : server.GivesBackSafely)
    (lease : Lease) :
    server.giveBack lease
      = { server with locks := server.locks.release lease } := by
  rw [Server.giveBack, nextFault_of_faultless safe]

/-- A lease that was granted and is dropped leaves the others in force. -/
theorem GivesBackSafely.held_dropLease (safe : server.GivesBackSafely)
    {table : LockTable} {id : String} {lease : Lease}
    (granted : (table.acquire id).1 = some lease)
    (locks : server.locks = (table.acquire id).2) :
    (server.dropLease (some lease)).locks.held = table.held := by
  rw [dropLease, safe.giveBack, ite_self, locks]
  exact LockTable.held_release_acquire granted

/-- However a server drifts, giving leases back does not begin to fail. -/
theorem GivesBackSafely.drifts {after : Server} {writes : Bool}
    (safe : server.GivesBackSafely) (drifts : server.Drifts writes after) :
    after.GivesBackSafely := by
  have shorter := drifts.faults .release
  rw [safe] at shorter
  exact List.suffix_nil.1 shorter

end Server

/-! ## Programs that return what they have taken -/

/--
What a program has come to that had no lease: the leases in force are what they
were, once that of a client who waits or has gone away is dropped.
-/
inductive Conducted.Returns {α : Type} (held : List Lease) :
    Conducted α → Prop where
  | finished {value : α} {client : Client} {server : Server}
      {news : List News} (same : server.locks.held = held)
      (empty : client.lease = none) (safe : server.GivesBackSafely) :
      Returns held (.finished value client server news)
  | waiting {program : Program α} {client : Client} {server : Server}
      (same : ∀ turn?,
        ((server.leave turn?).dropLease client.lease).locks.held = held) :
      Returns held (.waiting program client server)
  | collapsed {client : Client} {server : Server}
      (same : (server.dropLease client.lease).locks.held = held) :
      Returns held (.collapsed client server)

/-- A program that returns every lease that it has taken. -/
def Program.Returns {α : Type} (program : Program α) : Prop :=
  ∀ (client : Client) (server : Server) (news : List News),
    client.lease = none → server.GivesBackSafely →
      (program.await client server news).Returns server.locks.held

/-- An attempt that returns every lease that it has taken. -/
def Attempt.Returns {α : Type} (attempt : Attempt α) : Prop :=
  attempt.run.Returns

namespace Program.Returns

variable {α β : Type}

/-- What is not about leases returns what it has not taken. -/
theorem of_stays {program : Program α}
    (uses : program.Uses (Action.Stays true)) : program.Returns := by
  intro client server news empty safe
  obtain ⟨drifts, lease⟩ := uses.await_drifts client server news
  have held := congrArg LockTable.held drifts.locks
  have safe := safe.drifts drifts
  generalize program.await client server news = conducted
    at lease held safe ⊢
  cases conducted with
  | finished value after left later =>
      exact .finished held (lease.trans empty) safe
  | waiting program after left =>
      have lease : after.lease = none := lease.trans empty
      refine .waiting fun turn? => ?_
      rw [lease, ← held]
      cases turn? <;> rfl
  | collapsed after left =>
      have lease : after.lease = none := lease.trans empty
      refine .collapsed ?_
      rw [lease]
      exact held

theorem bind {program : Program α} {rest : α → Program β}
    (first : program.Returns) (second : ∀ value, (rest value).Returns) :
    (program.bind rest).Returns := by
  intro client server news empty safe
  have returned := first client server news empty safe
  rw [await_bind]
  generalize program.await client server news = conducted at returned ⊢
  cases returned with
  | @finished value after left later same empty safe =>
      rw [← same]
      exact second value after left later empty safe
  | waiting same => exact .waiting same
  | collapsed same => exact .collapsed same

end Program.Returns

namespace Attempt.Returns

variable {α β : Type}

theorem of_stays {attempt : Attempt α}
    (uses : attempt.Uses (Action.Stays true)) : attempt.Returns :=
  Program.Returns.of_stays uses

theorem pure (value : α) : (pure value : Attempt α).Returns :=
  of_stays (.pure value)

theorem bind {attempt : Attempt α} {rest : α → Attempt β}
    (first : attempt.Returns) (second : ∀ value, (rest value).Returns) :
    (attempt >>= rest).Returns := by
  unfold Returns
  rw [ExceptT.run_bind]
  refine Program.Returns.bind first ?_
  intro result
  cases result with
  | ok value => exact second value
  | error failure => exact .of_stays (.done _)

theorem lift {program : Program α} (returns : program.Returns) :
    Attempt.Returns (ExceptT.lift program) := by
  unfold Returns
  rw [ExceptT.run_lift, map_eq_pure_bind]
  exact returns.bind fun _ => .of_stays (.done _)

end Attempt.Returns

/-! ## Work under a lease -/

namespace Protocol

variable {intent : Intent}

/-- Executing a handling is not about leases. -/
theorem execute_stays
    (handled : Handling.ofIntent? service intent = some handling)
    (exchange : Exchange) :
    (execute handling exchange).Uses (Action.Stays true) := by
  refine .bind ((Handling.check_inquires handled exchange).mono
    fun _ => Action.stays_of_isInquiry) ?_
  intro result
  cases result with
  | error rejection => exact .pure _
  | ok checked =>
      refine .bind (tellBefore_stays _) ?_
      intro verdict
      split
      · exact .pure _
      · exact .bind ((Handling.carryOut_works handled checked).mono
          fun _ => Action.stays_of_isWork) fun done =>
            .bind (tellOutcome_stays _ _) fun _ => .pure _

theorem executeSettled_stays
    (handled : Handling.ofIntent? service intent = some handling)
    (exchange : Exchange) :
    (executeSettled handling exchange).Uses (Action.Stays true) := by
  change Program.Uses _ (settle exchange <$> (execute handling exchange).caught)
  rw [map_eq_pure_bind]
  exact Program.Uses.bind (execute_stays handled exchange) fun _ => .done _

/-- A lease is asked for first, and given back last. -/
theorem run_executeLeased (handling : Handling) (exchange : Exchange) :
    (executeLeased handling exchange).run
      = .act (.acquire exchange.fileId) fun
        | .ok (some lease) =>
            (executeSettled handling exchange).caught.bind fun result =>
              .act (.release lease) fun _ => .done result
        | .ok none => .done (.ok (exchange.reject (.leased exchange.fileId)))
        | .error failure => .done (.error failure) := by
  refine congrArg (Program.act (.acquire exchange.fileId)) (funext ?_)
  rintro (_ | _ | _) <;> rfl

/-- Work under a lease that was just granted returns the lease. -/
theorem await_leased {α : Type} {program : Program α}
    (uses : program.Uses (Action.Stays true)) {table : LockTable} {id : String}
    {lease : Lease} (granted : (table.acquire id).1 = some lease)
    {client : Client} (holds : client.lease = some lease) {server : Server}
    (locks : server.locks = (table.acquire id).2)
    (safe : server.GivesBackSafely) (news : List News) :
    ((program.bind fun value => .act (.release lease) fun _ =>
      .done value).await client server news).Returns table.held := by
  obtain ⟨drifts, kept⟩ := uses.await_drifts client server news
  have safe := safe.drifts drifts
  have locks := drifts.locks.trans locks
  have holds := kept.trans holds
  rw [Program.await_bind]
  generalize program.await client server news = conducted
    at locks holds safe ⊢
  cases conducted with
  | finished value after left later =>
      have given : left.perform after (.release lease)
          = .answered () { after with lease := none }
              { left with locks := left.locks.release lease } :=
        congrArg (Performed.answered () _) (safe.giveBack lease)
      simp only
      rw [Program.await_act_of_answered given]
      have locks : left.locks = (table.acquire id).2 := locks
      refine .finished ?_ rfl safe
      rw [locks]
      exact LockTable.held_release_acquire granted
  | waiting rest after left =>
      have holds : after.lease = some lease := holds
      refine .waiting fun turn? => ?_
      have gone : left.Drifts true (left.leave turn?) := .leave left turn?
      rw [holds]
      exact (safe.drifts gone).held_dropLease granted (gone.locks.trans locks)
  | collapsed after left =>
      have holds : after.lease = some lease := holds
      refine .collapsed ?_
      rw [holds]
      exact safe.held_dropLease granted locks

/-- A lease that is taken is given back, however the work ends. -/
theorem executeLeased_returns
    (handled : Handling.ofIntent? service intent = some handling)
    (exchange : Exchange) : (executeLeased handling exchange).Returns := by
  intro client server news empty safe
  have drifts : server.Drifts true (server.nextFault .acquire).2 :=
    .nextFault server .acquire
  rw [run_executeLeased]
  cases asked : server.nextFault .acquire with
  | mk fault? left =>
      rw [asked] at drifts
      have safe : left.GivesBackSafely := safe.drifts drifts
      have locks : left.locks = server.locks := drifts.locks
      cases fault? with
      | some failure =>
          have answered : server.perform client (.acquire exchange.fileId)
              = .answered (.error failure) client left := by
            rw [Server.perform, Server.askLease, asked]
          rw [Program.await_act_of_answered answered]
          exact .finished (congrArg LockTable.held locks) empty safe
      | none =>
          have answered : server.perform client (.acquire exchange.fileId)
              = .answered (.ok (server.locks.acquire exchange.fileId).1)
                  { client with
                    lease := (server.locks.acquire exchange.fileId).1 }
                  { left with
                    locks := (server.locks.acquire exchange.fileId).2 } := by
            rw [Server.perform, Server.askLease, asked, ← locks]
          rw [Program.await_act_of_answered answered]
          cases granted : (server.locks.acquire exchange.fileId).1 with
          | none =>
              refine .finished ?_ rfl safe
              exact congrArg LockTable.held
                (LockTable.acquire_of_refused granted)
          | some lease =>
              refine await_leased (executeSettled_stays handled exchange)
                granted rfl ?_ ?_ news
              · rfl
              · exact safe

theorem handleIntent_returns
    (handled : Handling.ofIntent? service intent = some handling)
    (exchange : Exchange) :
    (handleIntent intent handling exchange).Returns := by
  refine .bind (.of_stays (.tell (Action.tell_stays _))) ?_
  intro verdict
  split
  · exact .pure _
  · rw [executeVersioned]
    split
    · exact .pure _
    · split
      · exact executeLeased_returns handled _
      · exact .of_stays (executeSettled_stays handled _)

theorem handleSecond_returns (service : Service) (exchange : Exchange)
    (second? : Option Intent) :
    (handleSecond service exchange second?).Returns := by
  rw [handleSecond.eq_def]
  split
  · rename_i intent handling id _ handled
    split
    · exact .bind (.lift (handleIntent_returns handled _)) fun _ => .pure _
    · exact .pure _
  · exact .pure _

theorem handle_returns (service : Service) (request : Request) :
    (handle service request).Returns := by
  rw [handle]
  split
  · exact .pure _
  · rename_i first rest _
    split
    · exact .pure _
    · rename_i handling handled
      exact .bind (handleIntent_returns handled _) fun exchange =>
        .bind (handleSecond_returns service exchange rest.head?) fun _ =>
          .pure _

end Protocol

/-! ## Visits -/

namespace Server

/--
After a visit the same leases are in force as before it, on whatever server:
whoever else holds leases or is in line, whatever fails but the giving back of
leases, however the host reacts, and whether the visit is answered, fails, is
given up or collapses.
-/
theorem visit_gives_back {server : Server} (safe : server.GivesBackSafely)
    (visit : Visit) (fresh : visit.client.lease = none) :
    (server.visit visit).2.2.locks.held = server.locks.held := by
  have returned := Protocol.handle_returns server.service visit.request
    visit.client server visit.news fresh safe
  rw [Server.visit, Program.conduct_eq]
  change Conducted.Returns server.locks.held
    ((Protocol.program server.service visit.request).await visit.client server
      visit.news) at returned
  generalize (Protocol.program server.service visit.request).await
    visit.client server visit.news = conducted at returned ⊢
  cases returned with
  | @finished result client left news same empty safe =>
      cases result with
      | ok answer => exact same
      | error failure => exact same
  | @waiting rest client left same => exact same rest.turn?
  | collapsed same => exact same

/--
A server on which somebody holds a lease, an upload may be written to, and the
next append fails.
-/
def aboutToFail : Server :=
  { awaitingSomething with
    locks := { held := [⟨"~7~", 3⟩], next := 4 }
    faults := fun operation =>
      if operation = .appendBuffered then [some (.storage "disk full")]
      else [] }

/-- So a write that takes a lease and fails leaves the other lease in force. -/
theorem visit_gives_back_of_failure :
    (aboutToFail.visit (.writing "0" "hello" [])).1.response? = none ∧
      (aboutToFail.visit (.writing "0" "hello" [])).2.2.locks.next = 5 ∧
      (aboutToFail.visit (.writing "0" "hello" [])).2.2.locks.held
        = aboutToFail.locks.held := by
  have safe : aboutToFail.GivesBackSafely := rfl
  exact ⟨by decide +kernel, by decide +kernel,
    visit_gives_back safe (.writing "0" "hello" []) rfl⟩

end Server

end ResumableUpload
