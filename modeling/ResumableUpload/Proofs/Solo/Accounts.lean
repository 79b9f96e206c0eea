import ResumableUpload.Proofs.Solo.Announcing
/-!
# What is accounted for

`Store.Accounts` says of a stretch of the life of a store that every upload that
has become complete by it was announced, or that bytes of it have been refused.
It holds of every request that a server answers whose host agrees:
`Protocol.handle_accounts`.

A request that is not answered may complete an upload in silence, because no end
can be found for the life of the upload.  A creation that is followed by a write
is answered even if the write fails; but then an end has been found at the same
time for the creation.
-/

namespace ResumableUpload

open Act (completions)

variable {service : Service} {exchange checked : Exchange}
  {scene after : Scene} {id : String}

/-- An act by which the host is told that an upload is complete. -/
def Act.Announces (id : String) (act : Act) : Prop :=
  act.action = .tell (.fileComplete id)

theorem Act.mem_completions {acts : List Act} :
    id ∈ (completions acts).map Prod.fst ↔ ∃ act ∈ acts, act.Announces id := by
  constructor
  · intro told
    rcases List.mem_map.1 told with ⟨⟨_, store⟩, present, rfl⟩
    rcases List.mem_filterMap.1 present with ⟨⟨action, _, _⟩, present, told⟩
    refine ⟨_, present, ?_⟩
    cases action with
    | tell event =>
        cases event with
        | fileComplete id =>
            cases told
            rfl
        | _ => cases told
    | _ => cases told
  · rintro ⟨⟨action, reply?, store⟩, present, announces⟩
    cases announces
    exact List.mem_map.2 ⟨(id, store), List.mem_filterMap.2
      ⟨_, present, rfl⟩, rfl⟩

/--
Every upload that has become complete, and is not to be joined, was announced or
had bytes refused.
-/
def Store.Accounts (acts : List Act) (before after : Store) : Prop :=
  ∀ id, after.HasWhole id → before.HasWhole id ∨
    ∃ act ∈ acts, act.Announces id ∨ act.Refuses id

namespace Store.Accounts

variable {before middle after : Store} {acts : List Act}

theorem of_eq (acts : List Act) (same : after = before) :
    Accounts acts before after := by
  intro id whole
  rw [same] at whole
  exact .inl whole

/-- What is done besides accounts for no less. -/
theorem mono {others : List Act} (accounts : Accounts acts before after)
    (more : ∀ act ∈ acts, act ∈ others) : Accounts others before after := by
  intro id whole
  rcases accounts id whole with earlier | ⟨act, present, accounts⟩
  · exact .inl earlier
  · exact .inr ⟨act, more act present, accounts⟩

theorem trans {others : List Act} (first : Accounts acts before middle)
    (second : Accounts others middle after) :
    Accounts (acts ++ others) before after := by
  intro id whole
  rcases second id whole with earlier | ⟨act, present, accounts⟩
  · exact first.mono (fun _ => List.mem_append_left _) id earlier
  · exact .inr ⟨act, List.mem_append_right _ present, accounts⟩

/-- An upload whose bytes have been refused is accounted for. -/
theorem of_refuses (refuses : ∃ act ∈ acts, act.Refuses id)
    (alters : before.AltersAt id after) : Accounts acts before after := by
  rintro other ⟨upload, found, whole⟩
  by_cases same : other = id
  · subst same
    rcases refuses with ⟨act, present, refuses⟩
    exact .inr ⟨act, present, .inr refuses⟩
  · rw [alters.others other same] at found
    exact .inl ⟨upload, found, whole⟩

end Store.Accounts

/-- What a handling creates it says to have created. -/
theorem Handling.carryOut_creates {intent : Intent} {handling : Handling}
    (creates : intent.creates = true)
    (handled : ofIntent? service intent = some handling)
    (checked : Exchange) :
    (handling.carryOut checked).Gives fun given =>
      ∃ id length complete, given.2 = .created id length complete := by
  cases intent with
  | createFile =>
      cases handled
      exact .bind fun _ => .bind fun _ => .pure ⟨_, _, _, rfl⟩
  | concatenate =>
      cases handled
      rw [concatenate]
      simp only
      split
      · exact .bind fun _ => .bind fun _ => .pure ⟨_, _, _, rfl⟩
      · exact .bind fun _ => .bind fun _ => .pure ⟨_, _, _, rfl⟩
      · exact .bind fun _ => .bind fun _ => .pure ⟨_, _, _, rfl⟩
  | _ => cases creates

namespace Protocol

variable {intent : Intent} {handling : Handling}

/-- A host that agrees is told of what the outcome calls complete. -/
theorem completions_carryOut_of_agrees
    (handled : Handling.ofIntent? service intent = some handling)
    {done : Exchange} {outcome : Outcome} {last : Scene}
    (works : (handling.carryOut checked).play scene
      = .finished (.ok (done, outcome)) last)
    (agrees : last.HostAgrees) :
    Act.completions ((carryOut handling checked).actsOn scene)
      = (outcome.completed?.map fun id => (id, last.store)).toList := by
  rcases completions_carryOut handled checked scene with
      ⟨-, fails⟩ | ⟨_, _, _, same, acts⟩
  · rcases play_carryOut_of_agrees works agrees with ⟨after, -, ends⟩
    exact absurd ends (fails done after)
  · rw [works] at same
    cases same
    rw [acts]
    exact (completions_tellOutcome done outcome last).resolve_right
      fun silent => silent.1 agrees

/-- A host that agrees is told that an upload is complete. -/
theorem carryOut_announces
    (handled : Handling.ofIntent? service intent = some handling)
    {done : Exchange} {outcome : Outcome} {last : Scene}
    (works : (handling.carryOut checked).play scene
      = .finished (.ok (done, outcome)) last)
    (agrees : last.HostAgrees) (called : outcome.completed? = some id) :
    ∃ act ∈ (carryOut handling checked).actsOn scene, act.Announces id := by
  apply Act.mem_completions.1
  rw [completions_carryOut_of_agrees handled works agrees, called]
  exact List.mem_singleton_self id

/-- The host is told of what is done, or there is no end of a life. -/
theorem carryOut_accounts
    (handled : Handling.ofIntent? service intent = some handling)
    (unchecked : Handling.IsUnchecked exchange) {asked : Scene}
    (checks : (handling.check exchange).play asked
      = .finished (.ok (.ok checked)) asked)
    (same : scene.store = asked.store) (numbered : scene.store.IsNumbered)
    (agrees : scene.HostAgrees) {result : Except Failure Exchange}
    (ends : (carryOut handling checked).play scene = .finished result after) :
    Store.Accounts ((carryOut handling checked).actsOn scene) scene.store
        after.store ∨
      (∃ cause, result = .error (.overflow cause)) ∧
        ¬Lifetime.CanRenew service scene.clock := by
  have told := carryOut_told handling checked scene
  have worked : ∀ act ∈ (handling.carryOut checked).actsOn scene,
      act ∈ (carryOut handling checked).actsOn scene := by
    intro act present
    rw [carryOut, Attempt.actsOn_bind]
    exact List.mem_append_left _ present
  rcases Attempt.bind_ends ends with
      ⟨failure, rfl, failed⟩ | ⟨⟨done, outcome⟩, last, works, -, -⟩
  · cases Handling.carryOut_ends handled unchecked checks same numbered
        failed with
    | refused refuses alters silent =>
        exact .inl ((Store.Accounts.of_refuses refuses alters).mono worked)
    | failed same => exact .inl (.of_eq _ same)
    | endless cause endless => exact .inr ⟨⟨cause, rfl⟩, endless⟩
  · left
    rw [ends, works] at told
    have left : after.store = last.store := told.store
    rw [left]
    cases Handling.carryOut_ends handled unchecked checks same numbered
        works with
    | refused refuses alters silent =>
        exact (Store.Accounts.of_refuses refuses alters).mono worked
    | done completes lasts =>
        intro id whole
        rcases completes.noted id whole with earlier | called
        · exact .inl earlier
        · have still := Attempt.play_ends_agrees agrees works
          rcases carryOut_announces handled works still called with
              ⟨act, present, announces⟩
          exact .inr ⟨act, present, .inl announces⟩

/-- What an intent does is accounted for, or there is no end of a life. -/
theorem handleIntent_accounts
    (handled : Handling.ofIntent? service intent = some handling)
    (unchecked : Handling.IsUnchecked exchange)
    (numbered : scene.store.IsNumbered) (agrees : scene.HostAgrees)
    {result : Except Failure Exchange}
    (ends : (handleIntent intent handling exchange).play scene
      = .finished result after) :
    Store.Accounts ((handleIntent intent handling exchange).actsOn scene)
        scene.store after.store ∨
      (∃ cause, result = .error (.overflow cause)) ∧
        ¬Lifetime.CanRenew service scene.clock := by
  have course := handleIntent_course handled exchange scene
  rw [ends] at course
  cases course.ended with
  | stopped same refused => exact .inl (.of_eq _ same)
  | carried checks same sight agreeing carries does closes left =>
      rw [left, ← sight.store, ← sight.ground.clock]
      rcases carryOut_accounts handled unchecked.versioned checks same
          (sight.store ▸ numbered) (agreeing agrees) carries with
          accounts | ⟨⟨cause, rfl⟩, endless⟩
      · exact .inl (accounts.mono does)
      · exact .inr ⟨⟨cause, closes⟩, endless⟩

/-- The life of what has been created can be renewed, or it is complete. -/
theorem handleIntent_created
    (handled : Handling.ofIntent? service intent = some handling)
    (creates : intent.creates = true)
    (unchecked : Handling.IsUnchecked exchange)
    (numbered : scene.store.IsNumbered) (agrees : scene.HostAgrees)
    {done : Exchange}
    (ends : (handleIntent intent handling exchange).play scene
      = .finished (.ok done) after)
    (status : done.response.status = 201) :
    Lifetime.CanRenew service scene.clock ∨
      ∃ id, done.id = some id ∧ after.store.HasComplete id := by
  have course := handleIntent_course handled exchange scene
  rw [ends] at course
  cases course.ended with
  | stopped same refused =>
      have := refused agrees done rfl
      omega
  | @carried checked asked told last first checks same sight agreeing carries
      does closes left =>
      rw [left, ← sight.ground.clock]
      rcases Attempt.bind_ends carries with
          ⟨failure, rfl, -⟩ | ⟨⟨worked, outcome⟩, middle, works, -, -⟩
      · have := status_of_settle_error closes.symm
        omega
      · have still := Attempt.play_ends_agrees (agreeing agrees) works
        rcases play_carryOut_of_agrees works still with ⟨_, rest, same'⟩
        rw [carries] at same'
        cases same'
        cases closes
        rw [rest.told.store]
        rcases Handling.carryOut_creates creates handled checked told _ middle
            works with ⟨id, length, complete, rfl⟩
        cases Handling.carryOut_ends handled unchecked.versioned checks same
            (sight.store ▸ numbered) works with
        | refused refuses alters silent => cases silent _ _ rfl
        | done completes lasts =>
            rcases lasts id length complete rfl with ⟨identified, lasting⟩
            refine lasting.imp_right ?_
            rintro rfl
            exact ⟨id, identified, completes.complete id rfl⟩

/-- What is complete is not written. -/
theorem handleIntent_write_of_complete
    (complete : scene.store.HasComplete exchange.fileId) :
    ((handleIntent .writeFile (.write service) exchange).play
      scene).scene.store = scene.store := by
  have handled : Handling.ofIntent? service .writeFile
      = some (.write service) := rfl
  rcases handleIntent_store (Handling.asks_check handled (versioned exchange))
      .writeFile scene with
      same | ⟨checked, asked, _, first, -, checks, -⟩
  · exact same
  · rcases Handling.write_check_ends_well checks with ⟨upload, found, may⟩
    rcases complete with ⟨other, there, complete⟩
    rw [← first.store] at there
    have there : asked.store.find? (versioned exchange).fileId
        = some other := there
    rw [found] at there
    cases there
    rw [may.incomplete] at complete
    cases complete

/-- The write that follows a creation is accounted for, however it ends. -/
theorem handleBody_accounts (numbered : scene.store.IsNumbered)
    (agrees : scene.HostAgrees) (id : String)
    (lasting : Lifetime.CanRenew service scene.clock ∨
      scene.store.HasComplete id)
    {result : Except Failure Response}
    (ends : (handleBody .writeFile (.write service) exchange id).play scene
      = .finished result after) :
    Store.Accounts
      ((handleBody .writeFile (.write service) exchange id).actsOn scene)
      scene.store after.store := by
  rw [handleBody, Attempt.play_bind, Attempt.play_lift] at ends
  rw [handleBody, Attempt.actsOn_bind_pure, Attempt.actsOn_lift]
  rcases Played.andThen_ends ends with ⟨lifted, last, plays, left⟩
  rcases Played.andThen_ends plays with ⟨first, middle, handles, same⟩
  cases same
  cases left
  have handles : (handleIntent .writeFile (.write service)
      (exchange.continueWith id)).play scene = .finished first after := handles
  rcases lasting with renews | complete
  · rcases handleIntent_accounts rfl (.continueWith exchange id) numbered
        agrees handles with accounts | ⟨-, endless⟩
    · exact accounts
    · exact absurd renews endless
  · have complete : scene.store.HasComplete (exchange.continueWith id).fileId :=
      complete
    have same : ((handleIntent .writeFile (.write service)
        (exchange.continueWith id)).play scene).scene.store = scene.store :=
      handleIntent_write_of_complete complete
    rw [handles] at same
    exact .of_eq _ same

/-- A request that asks for two things creates an upload and writes to it. -/
theorem intentsOf_cons {request : Request} {first : Intent}
    {rest : List Intent} (asked : intentsOf service request = first :: rest) :
    rest = [] ∨ first.creates = true ∧ rest = [.writeFile] := by
  rw [intentsOf, Intent.ofRequest] at asked
  split at asked
  · cases asked
    exact .inl rfl
  · simp only at asked
    split at asked
    · rename_i both
      cases asked
      simp only [Bool.and_eq_true] at both
      exact .inr ⟨both.1.1, rfl⟩
    · cases asked
      exact .inl rfl

theorem handleSecond_accounts (numbered : scene.store.IsNumbered)
    (agrees : scene.HostAgrees) {second? : Option Intent}
    (writes : second? = none ∨ second? = some .writeFile ∧
      (exchange.response.status = 201 →
        Lifetime.CanRenew service scene.clock ∨
          ∃ id, exchange.id = some id ∧ scene.store.HasComplete id))
    {result : Except Failure Response}
    (ends : (handleSecond service exchange second?).play scene
      = .finished result after) :
    Store.Accounts ((handleSecond service exchange second?).actsOn scene)
      scene.store after.store := by
  rw [handleSecond.eq_def] at ends ⊢
  split at ends
  · rename_i intent handling id identified handled
    rcases writes with contrary | ⟨same, lasting⟩
    · cases contrary
    · cases same
      cases handled
      split at ends
      · rename_i created
        rw [if_pos created]
        refine handleBody_accounts numbered agrees id ?_ ends
        refine (lasting created).imp_right ?_
        rintro ⟨other, same, complete⟩
        rw [identified] at same
        cases same
        exact complete
      · cases ends
        exact .of_eq _ rfl
  · cases ends
    exact .of_eq _ rfl

/-- What is done for a request that is answered is accounted for. -/
theorem handle_accounts (request : Request)
    (numbered : scene.store.IsNumbered) (agrees : scene.HostAgrees)
    {answer : Answer}
    (ends : (handle service request).play scene
      = .finished (.ok answer) after) :
    Store.Accounts ((handle service request).actsOn scene) scene.store
      after.store := by
  rw [handle] at ends ⊢
  split at ends
  · cases ends
    exact .of_eq _ rfl
  · rename_i intent rest asked
    split at ends
    · cases ends
      exact .of_eq _ rfl
    · rename_i handling handled
      rcases Attempt.bind_ends ends with
          ⟨_, contrary, -⟩ | ⟨exchange, middle, handles, ends, acts⟩
      · cases contrary
      have deeds := (handleIntent_chronicles handled (.ofRequest service
        request) numbered).deeds
      have first : Store.Accounts ((handleIntent intent handling
          (.ofRequest service request)).actsOn scene) scene.store
          middle.store := by
        rcases handleIntent_accounts handled (.ofRequest service request)
            numbered agrees handles with accounts | ⟨⟨_, contrary⟩, -⟩
        · exact accounts
        · cases contrary
      have ground := Program.play_ground (handleIntent intent handling
        (.ofRequest service request)).run scene
      change scene.SameGround ((handleIntent intent handling
        (.ofRequest service request)).play scene).scene at ground
      rw [handles] at deeds ground
      have clock : middle.clock = scene.clock := ground.clock
      have still : middle.store.IsNumbered :=
        (Store.Deeds.created_le numbered deeds).1
      rw [acts]
      apply first.trans
      rcases Attempt.bind_ends ends with
          ⟨_, contrary, -⟩ | ⟨response, last, second, done, acts⟩
      · cases contrary
      cases done
      rw [acts]
      refine (handleSecond_accounts still (Attempt.play_ends_agrees agrees
        handles) ?_ second).mono fun _ => List.mem_append_left _
      rcases intentsOf_cons asked with rfl | ⟨creates, rfl⟩
      · exact .inl rfl
      · refine .inr ⟨rfl, fun status => ?_⟩
        rw [clock]
        exact handleIntent_created handled creates (.ofRequest service request)
          numbered agrees handles status

end Protocol

end ResumableUpload
