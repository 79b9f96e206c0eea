import ResumableUpload.Proofs.Solo.Deeds
/-!
# Leases do not outlive their requests

The work of a handling neither takes nor gives back a lease.  So the lease that
is taken around it is in force, and in the hands of the client, until it is
given back; and a request that is given up loses it.
`Protocol.handle_givesBack` says that after a request no lease is in force that
was not in force before.
-/

namespace ResumableUpload

variable {service : Service} {exchange : Exchange}

/-- The leases in force are the same, and so is the lease of the client. -/
structure Scene.SameLeases (before after : Scene) : Prop where
  locks : after.locks = before.locks
  lease : after.client.lease = before.client.lease

namespace Scene.SameLeases

variable {before middle after : Scene}

theorem refl (scene : Scene) : SameLeases scene scene :=
  ⟨rfl, rfl⟩

theorem trans (first : SameLeases before middle)
    (second : SameLeases middle after) : SameLeases before after :=
  ⟨second.locks.trans first.locks, second.lease.trans first.lease⟩

theorem of_host (same : SameHost before after) : SameLeases before after :=
  ⟨same.locks, same.lease⟩

theorem of_told (told : OnlyTold before after) : SameLeases before after :=
  ⟨told.locks, congrArg Client.lease told.client⟩

end Scene.SameLeases

/-- An attempt that has nothing to do with leases. -/
def Attempt.LeavesLeases {α : Type} (attempt : Attempt α) : Prop :=
  ∀ scene : Scene, scene.SameLeases (attempt.play scene).scene

namespace Attempt.LeavesLeases

variable {α β : Type}

theorem of_asks {attempt : Attempt α} (asks : attempt.Asks) :
    attempt.LeavesLeases := by
  intro scene
  rw [asks scene]
  exact .refl scene

theorem of_tells {attempt : Attempt α} (tells : attempt.OnlyTells) :
    attempt.LeavesLeases :=
  fun scene => .of_told (tells scene)

theorem pure (value : α) : (pure value : Attempt α).LeavesLeases :=
  of_asks (.pure value)

theorem bind {attempt : Attempt α} {rest : α → Attempt β}
    (first : attempt.LeavesLeases)
    (second : ∀ value, (rest value).LeavesLeases) :
    (attempt >>= rest).LeavesLeases := by
  intro scene
  have same := first scene
  rw [play_bind]
  generalize attempt.play scene = played at same ⊢
  cases played with
  | finished result after =>
      cases result with
      | ok value => exact same.trans (second value after)
      | error failure => exact same
  | waiting after => exact same
  | collapsed after => exact same

/-- Work has nothing to do with leases. -/
theorem of_works {attempt : Attempt α} (works : attempt.OnlyWorks) :
    attempt.LeavesLeases := by
  intro scene
  refine Program.Uses.keeps scene.SameLeases works ?_ (.refl scene)
  intro after action works same
  apply same.trans
  cases action with
  | call asked => exact .of_host (after.call_host asked)
  | append id route => exact .of_host (after.append_host id route)
  | trailers => exact .of_host (after.hearTrailers_host after.news)
  | clock =>
      rw [Scene.perform]
      split <;> exact .refl after
  | _ => cases works

end Attempt.LeavesLeases

/-! ## Requests -/

namespace LockTable

variable {table : LockTable} {id : String}

/-- What is in force after a lease was given back was in force before. -/
theorem mem_of_mem_release {lease other : Lease}
    (present : other ∈ (table.release lease).held) : other ∈ table.held :=
  (List.mem_filter.1 present).1

/-- A lease that was granted and given back leaves no trace in force. -/
theorem mem_of_mem_release_acquire {lease other : Lease}
    (granted : (table.acquire id).1 = some lease)
    (present : other ∈ ((table.acquire id).2.release lease).held) :
    other ∈ table.held := by
  rw [acquire] at granted present
  split at granted
  · cases granted
  · rename_i free
    cases granted
    rw [if_neg free] at present
    rcases List.mem_filter.1 present with ⟨here, apart⟩
    rcases List.mem_cons.1 here with rfl | here
    · simp at apart
    · exact here

theorem acquire_of_refused (refused : (table.acquire id).1 = none) :
    (table.acquire id).2 = table := by
  rw [acquire] at refused ⊢
  split at refused
  · rw [if_pos ‹_›]
  · cases refused

end LockTable

/-- Who goes away puts no lease in force. -/
theorem Scene.mem_of_mem_part {scene : Scene} {lease : Lease}
    (present : lease ∈ scene.part.locks.held) : lease ∈ scene.locks.held := by
  rw [part] at present
  split at present
  · exact LockTable.mem_of_mem_release present
  · exact present

/-- An attempt after which no lease is in force that was not in force before. -/
def Attempt.GivesBack {α : Type} (attempt : Attempt α) : Prop :=
  ∀ scene : Scene, ∀ lease ∈ (attempt.play scene).left.locks.held,
    lease ∈ scene.locks.held

namespace Attempt.GivesBack

variable {α β : Type}

theorem of_leavesLeases {attempt : Attempt α} (leaves : attempt.LeavesLeases) :
    attempt.GivesBack := by
  intro scene lease present
  have same := leaves scene
  generalize attempt.play scene = played at same present
  cases played with
  | finished value after =>
      rw [← same.locks]
      exact present
  | waiting after | collapsed after =>
      rw [← same.locks]
      exact Scene.mem_of_mem_part present

theorem bind {attempt : Attempt α} {rest : α → Attempt β}
    (first : attempt.GivesBack) (second : ∀ value, (rest value).GivesBack) :
    (attempt >>= rest).GivesBack := by
  intro scene lease present
  have before := first scene
  rw [play_bind] at present
  generalize attempt.play scene = played at before present
  cases played with
  | finished result after =>
      cases result with
      | ok value => exact before lease (second value after lease present)
      | error failure => exact before lease present
  | waiting after => exact before lease present
  | collapsed after => exact before lease present

end Attempt.GivesBack

namespace Protocol

variable {handling : Handling}

theorem execute_leavesLeases (asks : (handling.check exchange).Asks)
    (works : ∀ checked, (handling.carryOut checked).LeavesLeases) :
    (execute handling exchange).LeavesLeases := by
  refine .bind (.of_asks asks) ?_
  intro result
  cases result with
  | error rejection => exact .pure _
  | ok checked =>
      refine .bind (.of_tells (tellBefore_onlyTells _)) ?_
      intro verdict
      split
      · exact .pure _
      · refine .bind (works checked) ?_
        intro answer
        rcases answer with ⟨done, outcome⟩
        exact .bind (.of_tells (tellOutcome_onlyTells done outcome)) fun _ =>
          .pure _

theorem executeSettled_leavesLeases (asks : (handling.check exchange).Asks)
    (works : ∀ checked, (handling.carryOut checked).LeavesLeases) :
    (executeSettled handling exchange).LeavesLeases := by
  intro scene
  have same := execute_leavesLeases asks works scene
  rw [play_executeSettled]
  generalize (execute handling exchange).play scene = played at same ⊢
  cases played <;> exact same

/-- A lease that is taken is given back, however the work ends. -/
theorem executeLeased_givesBack (asks : (handling.check exchange).Asks)
    (works : ∀ checked, (handling.carryOut checked).LeavesLeases) :
    (executeLeased handling exchange).GivesBack := by
  intro scene other present
  cases free : (scene.locks.acquire exchange.fileId).1 with
  | none =>
      rw [play_executeLeased_of_held free] at present
      change other ∈ (scene.locks.acquire exchange.fileId).2.held at present
      rw [LockTable.acquire_of_refused free] at present
      exact present
  | some lease =>
      have same := executeSettled_leavesLeases asks works
        (scene.leased exchange.fileId)
      rw [play_executeLeased free] at present
      generalize (executeSettled handling exchange).play
        (scene.leased exchange.fileId) = played at same present
      apply LockTable.mem_of_mem_release_acquire free
      cases played with
      | finished result after =>
          have locks : after.locks = (scene.locks.acquire exchange.fileId).2 :=
            same.locks
          rw [← locks]
          exact present
      | waiting after | collapsed after =>
          have locks : after.locks = (scene.locks.acquire exchange.fileId).2 :=
            same.locks
          have holds : after.client.lease = some lease := same.lease.trans free
          change other ∈ after.part.locks.held at present
          rw [Scene.part, holds] at present
          rw [← locks]
          exact present

theorem handleIntent_givesBack {intent : Intent}
    (handled : Handling.ofIntent? service intent = some handling)
    (exchange : Exchange) :
    (handleIntent intent handling exchange).GivesBack := by
  have asks := Handling.asks_check handled (versioned exchange)
  have works (checked : Exchange) : (handling.carryOut checked).LeavesLeases :=
    .of_works (Handling.carryOut_works handled checked)
  refine .bind (.of_leavesLeases (.of_tells (.tell _))) ?_
  intro verdict
  split
  · exact .of_leavesLeases (.pure _)
  · rw [executeVersioned]
    split
    · exact .of_leavesLeases (.pure _)
    · split
      · exact executeLeased_givesBack asks works
      · exact .of_leavesLeases (executeSettled_leavesLeases asks works)

theorem handleBody_givesBack {intent : Intent}
    (handled : Handling.ofIntent? service intent = some handling)
    (exchange : Exchange) (id : String) :
    (handleBody intent handling exchange id).GivesBack := by
  refine .bind ?_ fun result => .of_leavesLeases (.pure _)
  intro scene lease present
  have before := handleIntent_givesBack handled (exchange.continueWith id) scene
  rw [Attempt.play_lift] at present
  change lease ∈ (((handleIntent intent handling
    (exchange.continueWith id)).play scene).andThen _).left.locks.held
    at present
  generalize (handleIntent intent handling
    (exchange.continueWith id)).play scene = played at before present
  cases played <;> exact before lease present

theorem handleSecond_givesBack (service : Service) (exchange : Exchange)
    (second? : Option Intent) :
    (handleSecond service exchange second?).GivesBack := by
  rw [handleSecond.eq_def]
  split
  · rename_i intent handling id identified handled
    split
    · exact handleBody_givesBack handled exchange id
    · exact .of_leavesLeases (.pure _)
  · exact .of_leavesLeases (.pure _)

/-- After a request no lease is in force that was not in force before. -/
theorem handle_givesBack (service : Service) (request : Request) :
    (handle service request).GivesBack := by
  rw [handle]
  split
  · exact .of_leavesLeases (.pure _)
  · rename_i first rest _
    split
    · exact .of_leavesLeases (.pure _)
    · rename_i handling handled
      exact .bind (handleIntent_givesBack handled _) fun exchange =>
        .bind (handleSecond_givesBack service exchange rest.head?) fun _ =>
          .of_leavesLeases (.pure _)

end Protocol

end ResumableUpload
