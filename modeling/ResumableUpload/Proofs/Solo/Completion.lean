import ResumableUpload.Proofs.Solo.Course
import ResumableUpload.Proofs.Solo.Deeds
import ResumableUpload.Proofs.Solo.Refusal
/-!
# Completion

An upload can become complete when it is created, when uploads are joined to it,
or when it is written; and the host is to be told of it then.

`Handling.carryOut_ends` says how the work of any handling ends.  If the outcome
of the work calls an upload complete, that upload was not complete before and is
now; and if an upload has become complete that the outcome does not call so,
then bytes of it have been refused, or its life could not be given an end.
-/

namespace ResumableUpload

/-- There is a complete upload under an id. -/
def Store.HasComplete (store : Store) (id : String) : Prop :=
  ∃ upload, store.find? id = some upload ∧ upload.isComplete = true

/-- There is a complete upload under an id that is not to be joined. -/
def Store.HasWhole (store : Store) (id : String) : Prop :=
  ∃ upload, store.find? id = some upload ∧ upload.isComplete = true ∧
    upload.part ≠ .piece

instance (store : Store) (id : String) : Decidable (store.HasWhole id) :=
  inferInstanceAs (Decidable (∃ upload, upload ∈ store.find? id ∧
    upload.isComplete = true ∧ upload.part ≠ .piece))

/-- The upload that an outcome calls complete. -/
def Outcome.completed? : Outcome → Option String
  | .created id _ complete | .written id complete =>
      if complete then some id else none
  | .deleted _ | .settled => none

/--
Between two stores an upload that is called complete has become so, and no
other has, unless it is to be joined.
-/
structure Store.Completes (completed? : Option String)
    (before after : Store) : Prop where
  lacking : ∀ id, completed? = some id → ¬before.HasComplete id
  complete : ∀ id, completed? = some id → after.HasComplete id
  noted : ∀ id, after.HasWhole id → before.HasWhole id ∨ completed? = some id

namespace Store.Completes

variable {before after : Store} {id : String}

/-- Where at most uploads have gone, none has become complete. -/
theorem of_fewer (fewer : ∀ id upload, after.find? id = some upload →
    before.find? id = some upload) : Completes none before after where
  lacking _ called := by cases called
  complete _ called := by cases called
  noted id := by
    rintro ⟨upload, found, whole⟩
    exact .inl ⟨upload, fewer id upload found, whole⟩

/-- An upload that was not complete is called complete if it is so now. -/
theorem of_alters {written : Upload} {completed? : Option String}
    (lacking : ¬before.HasComplete id)
    (others : ∀ other, other ≠ id → after.find? other = before.find? other)
    (left : after.find? id = some written)
    (called : completed? = (if written.isComplete then some id else none) ∨
      completed? = none ∧ written.part = .piece) :
    Completes completed? before after := by
  have ends : ∀ other, completed? = some other →
      other = id ∧ written.isComplete = true := by
    intro other called'
    rcases called with same | ⟨nothing, -⟩
    · rw [same] at called'
      split at called'
      · cases called'
        exact ⟨rfl, ‹_›⟩
      · cases called'
    · rw [nothing] at called'
      cases called'
  constructor
  · intro other called
    rw [(ends other called).1]
    exact lacking
  · intro other called
    rcases ends other called with ⟨rfl, complete⟩
    exact ⟨written, left, complete⟩
  · rintro other ⟨upload, found, complete, apart⟩
    by_cases same : other = id
    · subst same
      rw [left] at found
      cases found
      rcases called with called | ⟨-, piece⟩
      · rw [complete, if_pos rfl] at called
        exact .inr called
      · exact absurd piece apart
    · rw [others other same] at found
      exact .inl ⟨upload, found, complete, apart⟩

end Store.Completes

/-! ## Calls and results -/

namespace Attempt

variable {α β : Type} {service : Service} {scene after : Scene}

/-- A call that has ended has been refused its means, or has been made. -/
theorem serviceCall_ends {asked : Call} {means : Means}
    {result : Except Failure asked.Reply}
    (needs : asked.means? = some means)
    (ends : (service.call asked).play scene = .finished result after) :
    (result = .error (.unsupported means) ∧ after = scene) ∨
      scene.call asked = .finished result after := by
  cases granted : service.terms.grants means with
  | true =>
      rw [play_serviceCall needs granted] at ends
      exact .inr ends
  | false =>
      rw [play_serviceCall_of_not_granted needs granted] at ends
      cases ends
      exact .inl ⟨rfl, rfl⟩

/-- Whatever an attempt gives has a property. -/
def Gives (holds : α → Prop) (attempt : Attempt α) : Prop :=
  ∀ scene value after, attempt.play scene = .finished (.ok value) after →
    holds value

theorem Gives.pure {holds : α → Prop} {value : α} (given : holds value) :
    (pure value : Attempt α).Gives holds := by
  intro scene other after ends
  cases ends
  exact given

/-- What an attempt gives is what its last part gives. -/
theorem Gives.bind {holds : β → Prop} {attempt : Attempt α}
    {rest : α → Attempt β} (gives : ∀ value, (rest value).Gives holds) :
    (attempt >>= rest).Gives holds := by
  intro scene value after ends
  rcases bind_ends ends with
      ⟨failure, contrary, -⟩ | ⟨first, middle, -, ends, -⟩
  · cases contrary
  · exact gives first middle value after ends

/-- An attempt fails and leaves everything, or puts an upload into the store. -/
def Inserts (upload : Upload) (attempt : Attempt String) (scene : Scene) :
    Prop :=
  ∀ result after, attempt.play scene = .finished result after →
    (∃ failure, result = .error failure ∧ after = scene) ∨
    result = .ok (Store.idOf scene.store.created) ∧
      after = { scene with store := (scene.store.insert upload).2 }

namespace Inserts

theorem create (service : Service) (length : Option Nat)
    (metadata : Option String) (scene : Scene) :
    Inserts { length := length, metadata := metadata }
      (service.call (.create length metadata)) scene := by
  intro result after ends
  rcases serviceCall_ends rfl ends with ⟨rfl, rfl⟩ | called
  · exact .inl ⟨_, rfl, rfl⟩
  · cases called
    exact .inr ⟨rfl, rfl⟩

theorem createPiece (service : Service) (length : Option Nat)
    (metadata : Option String) (scene : Scene) :
    Inserts { length := length, metadata := metadata, part := .piece }
      (service.call (.createPiece length metadata)) scene := by
  intro result after ends
  rcases serviceCall_ends rfl ends with ⟨rfl, rfl⟩ | called
  · exact .inl ⟨_, rfl, rfl⟩
  · cases called
    exact .inr ⟨rfl, rfl⟩

theorem createJoined (service : Service) (ids : List String)
    (metadata : Option String) (scene : Scene) :
    ∃ content, Inserts (.joining ids metadata content)
      (service.call (.createJoined ids metadata)) scene := by
  have called : scene.call (.createJoined ids metadata)
      = .finished (scene.store.createJoined ids metadata).1
          { scene with
            store := (scene.store.createJoined ids metadata).2 } := rfl
  rw [Store.createJoined] at called
  cases joined : scene.store.joined? ids with
  | error id =>
      refine ⟨[], ?_⟩
      intro result after ends
      rcases serviceCall_ends rfl ends with ⟨rfl, rfl⟩ | ends
      · exact .inl ⟨_, rfl, rfl⟩
      · rw [called, joined] at ends
        cases ends
        exact .inl ⟨_, rfl, rfl⟩
  | ok content =>
      refine ⟨content, ?_⟩
      intro result after ends
      rcases serviceCall_ends rfl ends with ⟨rfl, rfl⟩ | ends
      · exact .inl ⟨_, rfl, rfl⟩
      · rw [called, joined] at ends
        cases ends
        exact .inr ⟨rfl, rfl⟩

end Inserts

end Attempt

/-! ## The work of a handling -/

namespace Handling

variable {service : Service} {exchange checked : Exchange}
  {scene after : Scene} {id : String} {upload : Upload}

/--
How the work of a handling ends, and what its acts show.  An upload that it has
created is complete, or its life can be renewed.
-/
inductive WorkEnds (service : Service) (scene : Scene) (acts : List Act) :
    Except Failure (Exchange × Outcome) → Scene → Prop where
  | done {done : Exchange} {outcome : Outcome} {after : Scene}
      (completes : scene.store.Completes outcome.completed? after.store)
      (lasts : ∀ id length complete, outcome = .created id length complete →
        done.id = some id ∧
          (Lifetime.CanRenew service scene.clock ∨ complete = true)) :
      WorkEnds service scene acts (.ok (done, outcome)) after
  /-- Bytes of an upload have been refused. -/
  | refused {id : String} {result : Except Failure (Exchange × Outcome)}
      {after : Scene} (refuses : ∃ act ∈ acts, act.Refuses id)
      (alters : scene.store.AltersAt id after.store)
      (silent : ∀ done outcome, result = .ok (done, outcome) →
        outcome = .settled) :
      WorkEnds service scene acts result after
  /-- Nothing has been done. -/
  | failed {failure : Failure} {after : Scene}
      (same : after.store = scene.store) :
      WorkEnds service scene acts (.error failure) after
  /-- There is no end of life to be given. -/
  | endless {after : Scene} (cause : Policy.Overflow)
      (endless : ¬Lifetime.CanRenew service scene.clock) :
      WorkEnds service scene acts (.error (.overflow cause)) after

/-- What is found where an upload has been created under a new id. -/
theorem find?_inserted (numbered : scene.store.IsNumbered) (upload : Upload) :
    (scene.store.insert upload).2.find? (Store.idOf scene.store.created)
        = some upload ∧
      ∀ other, other ≠ Store.idOf scene.store.created →
        (scene.store.insert upload).2.find? other
          = scene.store.find? other := by
  constructor
  · rw [Store.find?_insert, numbered.find?_next (Nat.le_refl _), Option.none_or,
      if_pos rfl]
  · intro other apart
    rw [Store.find?_insert, if_neg (Ne.symm apart), Option.or_none]

theorem not_hasComplete_next (numbered : scene.store.IsNumbered) :
    ¬scene.store.HasComplete (Store.idOf scene.store.created) := by
  rintro ⟨upload, found, -⟩
  rw [numbered.find?_next (Nat.le_refl _)] at found
  cases found

/-- A new upload is given an end of its life, and is answered for. -/
theorem newUpload_ends {attempt : Attempt String} {length : Option Nat}
    {complete : Bool} {result : Except Failure (Exchange × Outcome)}
    (acts : List Act) (numbered : scene.store.IsNumbered)
    (inserts : attempt.Inserts upload scene)
    (called : complete = upload.isComplete ∨
      complete = false ∧ upload.part = .piece)
    (ends : (do
      let id ← attempt
      let expiry ← Lifetime.renew service id
      return (answerCreated service checked id expiry,
        Outcome.created id length complete)).play scene
          = .finished result after) :
    WorkEnds service scene acts result after := by
  rcases Attempt.bind_ends ends with
      ⟨failure, rfl, failed⟩ | ⟨id, middle, created, ends, -⟩
  · rcases inserts _ _ failed with ⟨_, -, rfl⟩ | ⟨contrary, -⟩
    · exact .failed rfl
    · cases contrary
  · rcases inserts _ _ created with ⟨_, contrary, -⟩ | ⟨same, rfl⟩
    · cases contrary
    · cases same
      rcases find?_inserted numbered upload with ⟨found, others⟩
      have renews := Lifetime.renew_renews service
        (Store.idOf scene.store.created)
        { scene with store := (scene.store.insert upload).2 }
      rcases Attempt.bind_ends ends with
          ⟨failure, rfl, failed⟩ | ⟨expiry, last, renewed, ends, -⟩
      · rcases Lifetime.renew_ends (Store.has_of_find? found) failed with
            ⟨_, contrary, -⟩ | ⟨cause, same, endless⟩
        · cases contrary
        · cases same
          exact .endless cause endless
      · rcases Lifetime.renew_ends (Store.has_of_find? found) renewed with
            ⟨_, -, renewable⟩ | ⟨_, contrary, -⟩
        · rw [renewed] at renews
          rcases renews.rewrites found with ⟨expiry, -, rewrites, -⟩
          cases ends
          refine .done (.of_alters (not_hasComplete_next numbered) ?_
            rewrites.found ?_) ?_
          · intro other apart
            exact (rewrites.alters.others other apart).trans
              (others other apart)
          · rcases called with rfl | ⟨rfl, piece⟩
            · exact .inl rfl
            · exact .inr ⟨rfl, piece⟩
          · intro id length complete same
            cases same
            exact ⟨rfl, .inl renewable⟩
        · cases contrary

/-- Uploads that are joined are called complete. -/
theorem createJoined_ends {ids : List String}
    {result : Except Failure (Exchange × Outcome)} (acts : List Act)
    (numbered : scene.store.IsNumbered)
    (ends : (createJoined service checked ids).play scene
      = .finished result after) :
    WorkEnds service scene acts result after := by
  rcases Attempt.Inserts.createJoined service ids
      checked.declared.metadataText scene with ⟨content, inserts⟩
  rcases Attempt.bind_ends ends with
      ⟨failure, rfl, failed⟩ | ⟨id, middle, created, ends, -⟩
  · rcases inserts _ _ failed with ⟨_, -, rfl⟩ | ⟨contrary, -⟩
    · exact .failed rfl
    · cases contrary
  · rcases inserts _ _ created with ⟨_, contrary, -⟩ | ⟨same, rfl⟩
    · cases contrary
    · cases same
      rcases find?_inserted numbered _ with ⟨found, others⟩
      have there : Store.find? { scene with
          store := (scene.store.insert _).2 }.store _ = some _ := found
      rw [Attempt.play_call_bind (Scene.call_length there)] at ends
      cases ends
      refine .done (.of_alters (not_hasComplete_next numbered) others found
        (.inl ?_)) ?_
      · simp [Outcome.completed?, Upload.joining, Upload.isComplete,
          Upload.offset]
      · intro id length complete same
        cases same
        exact ⟨rfl, .inr rfl⟩

theorem delete_ends {result : Except Failure (Exchange × Outcome)}
    (acts : List Act)
    (ends : ((delete service).carryOut checked).play scene
      = .finished result after) :
    WorkEnds service scene acts result after := by
  have answered : scene.call (.delete checked.fileId)
      = .finished
          (if scene.store.has checked.fileId then
              (.ok (), scene.store.erase checked.fileId)
            else (.error (.missing checked.fileId), scene.store) :
            Except Failure Unit × Store).1
          { scene with
            store := (if scene.store.has checked.fileId then
                (.ok (), scene.store.erase checked.fileId)
              else (.error (.missing checked.fileId), scene.store) :
              Except Failure Unit × Store).2 } := rfl
  rcases Attempt.bind_ends ends with
      ⟨failure, rfl, failed⟩ | ⟨_, middle, deleted, ends, -⟩
  · rcases Attempt.serviceCall_ends rfl failed with ⟨-, rfl⟩ | called
    · exact .failed rfl
    · rw [answered] at called
      split at called
      · cases called
      · cases called
        exact .failed rfl
  · rcases Attempt.serviceCall_ends rfl deleted with ⟨contrary, -⟩ | called
    · cases contrary
    · rw [answered] at called
      split at called
      · cases called
        cases ends
        refine .done (.of_fewer ?_) (by intro _ _ _ same; cases same)
        intro other upload found
        rw [Store.find?_erase] at found
        split at found
        · cases found
        · exact found
      · cases called

/-- A question completes nothing. -/
theorem ask_ends {attempt : Attempt (Exchange × Outcome)}
    {result : Except Failure (Exchange × Outcome)} (acts : List Act)
    (asks : attempt.Asks)
    (settles : attempt.Gives fun given => given.2 = .settled)
    (ends : attempt.play scene = .finished result after) :
    WorkEnds service scene acts result after := by
  have same := asks scene
  rw [ends] at same
  have same : after = scene := same
  subst same
  rcases result with failure | ⟨done, outcome⟩
  · exact .failed rfl
  · have settled : outcome = .settled := settles _ _ _ ends
    subst settled
    exact .done (.of_fewer fun _ _ found => found)
      (by intro _ _ _ same; cases same)

theorem write_ends {result : Except Failure (Exchange × Outcome)}
    (found : scene.store.find? checked.fileId = some upload)
    (may : MayWrite service exchange checked upload)
    (unchecked : IsUnchecked exchange)
    (ends : ((write service).carryOut checked).play scene
      = .finished result after) :
    WorkEnds service scene (((write service).carryOut checked).actsOn scene)
      result after := by
  have lacking : ¬scene.store.HasComplete checked.fileId := by
    rintro ⟨other, here, complete⟩
    rw [found] at here
    cases here
    rw [may.incomplete] at complete
    cases complete
  rcases write_carryOut_spec found may unchecked.length unchecked.pledge with
      ⟨written, -, -, -, rewrites, -⟩
  rw [ends] at rewrites
  have alters : scene.store.AltersAt checked.fileId after.store :=
    rewrites.alters
  cases write_carryOut_result found may unchecked.length unchecked.pledge
      ends with
  | excessive excess refuses =>
      exact .refused refuses alters (by intro _ _ same; cases same)
  | mismatched refuses =>
      refine .refused refuses alters ?_
      intro done outcome same
      cases same
      rfl
  | accepted status left =>
      exact .done (.of_alters lacking alters.others left (.inl rfl))
        (by intro _ _ _ same; cases same)
  | endless cause endless => exact .endless cause endless

/-- How the work of a handling ends whose requirements are met. -/
theorem carryOut_ends {intent : Intent} {handling : Handling}
    (handled : ofIntent? service intent = some handling)
    (unchecked : IsUnchecked exchange) {asked : Scene}
    (checks : (handling.check exchange).play asked
      = .finished (.ok (.ok checked)) asked)
    (same : scene.store = asked.store) (numbered : scene.store.IsNumbered)
    {result : Except Failure (Exchange × Outcome)}
    (ends : (handling.carryOut checked).play scene = .finished result after) :
    WorkEnds service scene ((handling.carryOut checked).actsOn scene) result
      after := by
  cases intent with
  | createFile =>
      cases handled
      exact newUpload_ends _ numbered (.create service checked.newLength
        checked.declared.metadataText scene) (.inl rfl) ends
  | concatenate =>
      cases handled
      have pieced {acts : List Act}
          (ends : (createPiece service checked).play scene
            = .finished result after) :
          WorkEnds service scene acts result after :=
        newUpload_ends _ numbered (.createPiece service checked.newLength
          checked.declared.metadataText scene) (.inr ⟨rfl, rfl⟩) ends
      rw [concatenate] at ends
      simp only at ends
      cases played : checked.part with
      | joined ids =>
          rw [played] at ends
          exact createJoined_ends _ numbered ends
      | whole | piece =>
          rw [played] at ends
          exact pieced ends
  | writeFile =>
      cases handled
      rcases write_check_ends_well checks with ⟨upload, found, may⟩
      rw [← may.fileId, ← same] at found
      exact write_ends found may unchecked ends
  | deleteFile =>
      cases handled
      exact delete_ends _ ends
  | fileInfo =>
      cases handled
      exact ask_ends _ (info_carryOut_inquires service checked).asks
        (.bind fun _ => .bind fun _ => .bind fun _ => .bind fun _ =>
          .bind fun _ => .pure rfl) ends
  | options =>
      cases handled
      exact ask_ends _ (options_carryOut_inquires service checked).asks
        (.bind fun _ => .pure rfl) ends
  | notApplicable => cases handled

end Handling

end ResumableUpload
