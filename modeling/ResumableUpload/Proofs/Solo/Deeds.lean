import Mathlib.Logic.Relation
import ResumableUpload.Proofs.Solo.Depiction
import ResumableUpload.Proofs.Solo.Handling
/-!
# Deeds

Everything that a request may do to a store is a sequence of deeds: an upload
is created, is written, is given an end of its life, or is deleted; and a sweep
removes the dead.  Each deed comes with what the requirements have made sure of
before it was done.

`Handling.carryOut_deeds` says that the work of every handling consists of
deeds.  So an invariant of stores has to be looked at for five deeds only,
whatever the requests are, however they are answered and whatever the host
does.  `Store.Deed.follows` says what a deed does to what is found under an id.
-/

namespace ResumableUpload

variable {service : Service} {exchange checked : Exchange} {scene : Scene}

/-! ## Creations -/

/-- The uploads that a request may create in a store. -/
inductive Service.Creates (service : Service) (store : Store) :
    Upload → Prop where
  /-- A new upload is empty, and its length is accepted if it is declared. -/
  | empty (length? : Option Nat) (metadata : Option String) (part : Part)
      (apart : part.isJoined = false)
      (accepted : ∀ length, length? = some length →
        service.AcceptsLength length) :
      Creates service store
        { length := length?, metadata := metadata, part := part }
  /-- An upload that joins others has their contents and no room for more. -/
  | joined {ids : List String} {content : Bytes} (metadata : Option String)
      (supported : service.terms.supports .concatenation = true)
      (joins : store.joined? ids = .ok content)
      (allowed : ∀ max, service.config.maxSize = some max →
        min content.length Budget.ceiling ≤ max) :
      Creates service store (.joining ids metadata content)

namespace Requirement

theorem newLength_accepts (fresh : exchange.declared.length = none)
    (reads : newLength service exchange = .ok checked) :
    (∀ length, checked.newLength = some length →
      service.AcceptsLength length) ∧ checked.part = exchange.part := by
  rw [newLength] at reads
  split at reads
  · cases reads
    refine ⟨fun length given => ?_, rfl⟩
    rw [Exchange.newLength, fresh, ite_self] at given
    cases given
  · simp only at reads
    split at reads
    · cases reads
    · cases reads
    · split at reads
      · cases reads
      · split at reads
        · cases reads
          exact ⟨fun length given => (by cases given), rfl⟩
        · cases reads
    · cases accepted : lengthOf
          (exchange.headers.text? HeaderName.uploadLength)
          service.config.maxSize with
      | error rejection =>
          rw [accepted] at reads
          cases reads
      | ok length =>
          rw [accepted] at reads
          cases reads
          refine ⟨fun other given => ?_, rfl⟩
          simp only [Exchange.newLength] at given
          split at given
          · cases given
          · cases given
            exact acceptsLength_of_lengthOf accepted

/-- Metadata has no influence on lengths and parts. -/
theorem metadata_keeps (reads : metadata service exchange = .ok checked) :
    checked.newLength = exchange.newLength ∧ checked.part = exchange.part := by
  rw [metadata] at reads
  split at reads
  · cases reads
    exact ⟨rfl, rfl⟩
  · simp only at reads
    split at reads
    · cases reads
      exact ⟨rfl, rfl⟩
    · cases reads

/-- What a new upload declares of itself is accepted. -/
theorem declared_accepts (fresh : exchange.declared.length = none)
    (reads : (newLength service exchange >>= metadata service) = .ok checked) :
    (∀ length, checked.newLength = some length →
      service.AcceptsLength length) ∧ checked.part = exchange.part := by
  cases first : newLength service exchange with
  | error rejection =>
      rw [first] at reads
      cases reads
  | ok middle =>
      rw [first] at reads
      rcases newLength_accepts fresh first with ⟨accepts, part⟩
      rcases metadata_keeps reads with ⟨same, still⟩
      rw [same, still]
      exact ⟨accepts, part⟩

/-! ## Joining -/

/-- Only an upload that is there has a length to be asked for. -/
theorem exists_found_of_length {id : String} {length : Option Nat}
    {after : Scene}
    (ends : (Check.call (.length id)).play scene
      = .finished (.ok (.ok length)) after) :
    ∃ upload, scene.store.find? id = some upload ∧ upload.length = length ∧
      scene = after := by
  cases found : scene.store.find? id with
  | some upload =>
      rw [Check.play_call (Scene.call_length found)] at ends
      cases ends
      exact ⟨upload, rfl, rfl, rfl⟩
  | none =>
      have missing : scene.call (.length id)
          = .finished (.error (.missing id)) scene := by
        simp [Scene.call, Call.looksAtClock, Store.answer, Store.ask, found]
      rw [Check.call, Check.play_attempt, Attempt.play_call, missing] at ends
      cases ends

/--
The sum of the sizes of uploads that are complete is the size of what they are
joined to, as far as it is counted.
-/
theorem piecesComplete_ends_well {ids : List String} {total result : Nat}
    {after : Scene} (low : total ≤ Budget.ceiling)
    (ends : (piecesComplete total ids).play scene
      = .finished (.ok (.ok result)) after) :
    ∃ content, scene.store.joined? ids = .ok content ∧
      result = min (total + content.length) Budget.ceiling := by
  induction ids generalizing total with
  | nil =>
      cases ends
      exact ⟨[], rfl, by simp [Nat.min_eq_left low]⟩
  | cons id rest hypothesis =>
      rcases Check.bind_ends_well ends with ⟨length, _, asked, ends⟩
      rcases exists_found_of_length asked with ⟨upload, found, rfl, rfl⟩
      rw [Check.play_call_bind (Scene.call_offset found)] at ends
      split at ends
      · rcases hypothesis (Nat.min_le_right _ _) ends with
            ⟨content, joined, rfl⟩
        refine ⟨upload.content ++ content, ?_, ?_⟩
        · simp only [Store.joined?, found, joined]
          rfl
        · rw [List.length_append, Upload.offset]
          omega
      · cases ends

/-- Uploads that may be joined are joined to something that is accepted. -/
theorem joinable_ends_well {ids : List String} {after : Scene}
    (ends : (joinable service ids).play scene
      = .finished (.ok (.ok ())) after) :
    ∃ content, scene.store.joined? ids = .ok content ∧
      ∀ max, service.config.maxSize = some max →
        min content.length Budget.ceiling ≤ max := by
  rcases Check.bind_ends_well ends with ⟨_, _, exist, ends⟩
  rcases (piecesExist_inquires ids).asks.same exist with rfl
  rcases Check.bind_ends_well ends with ⟨_, _, pieces, ends⟩
  rcases (piecesArePieces_inquires service ids).asks.same pieces with rfl
  rcases Check.bind_ends_well ends with ⟨total, _, complete, ends⟩
  rcases piecesComplete_ends_well (Nat.zero_le _) complete with
      ⟨content, joined, rfl⟩
  refine ⟨content, joined, ?_⟩
  intro max limited
  split at ends
  · cases ends
  · rename_i within
    simp only [limited, Option.any_some, decide_eq_true_eq] at within
    omega

/-- What is known of a part in a concatenation that is possible. -/
theorem part_ends_well {after : Scene}
    (fresh : exchange.declared.length = none)
    (ends : (part service exchange).play scene
      = .finished (.ok (.ok checked)) after) :
    checked.declared.length = none ∧ ∀ ids, checked.part = .joined ids →
      ∃ content, scene.store.joined? ids = .ok content ∧
        ∀ max, service.config.maxSize = some max →
          min content.length Budget.ceiling ≤ max := by
  rw [part] at ends
  simp only at ends
  split at ends
  · cases ends
  · rename_i part parsed
    rcases Check.bind_ends_well ends with ⟨_, _, possible, ends⟩
    cases ends
    refine ⟨fresh, ?_⟩
    intro ids joined
    have joined : part = .joined ids := joined
    subst joined
    rcases Check.bind_ends_well possible with ⟨_, _, joinable, -⟩
    exact joinable_ends_well joinable

end Requirement

/-! ## Deeds -/

/-- One change of a store. -/
inductive Store.Deed (service : Service) : Store → Store → Prop where
  /-- An upload is created. -/
  | creates {store : Store} {upload : Upload}
      (creates : service.Creates store upload) :
      Deed service store (store.insert upload).2
  /-- An upload is written. -/
  | writes {before after : Store} {id : String} {upload written : Upload}
      (found : before.find? id = some upload)
      (writes : service.Writes upload written)
      (alters : before.AltersAt id after)
      (left : after.find? id = some written) : Deed service before after
  /-- An upload is given an end of its life, as a policy says. -/
  | renews {store : Store} (id : String) (expiry : Instant)
      (limited : Lifetime.policy? service ≠ none) :
      Deed service store (store.modify id (Upload.renewed expiry))
  /-- An upload is deleted. -/
  | erases {store : Store} (id : String) : Deed service store (store.erase id)
  /-- The dead uploads are removed. -/
  | sweeps {store : Store} (now : Instant) :
      Deed service store (store.sweep now)

/-- What one deed may make of one record. -/
inductive Service.Revises (service : Service) (upload : Upload) :
    Upload → Prop where
  /-- The record stays as it is. -/
  | same : Revises service upload upload
  /-- The upload is written. -/
  | written {written : Upload} (writes : service.Writes upload written) :
      Revises service upload written
  /-- The upload is given an end of its life, as a policy says. -/
  | renewed (expiry : Instant) (limited : Lifetime.policy? service ≠ none) :
      Revises service upload (upload.renewed expiry)

/--
What is found after a deed: a record that was there before and has been
revised, or the record of an upload that the deed has created under a new id.
-/
inductive Store.Traces (service : Service) (before after : Store)
    (id : String) (upload : Upload) : Prop where
  | revised {earlier : Upload} (found : before.find? id = some earlier)
      (revises : service.Revises earlier upload) :
      Traces service before after id upload
  | created (fresh : Store.idOf before.created = id)
      (counted : after.created = before.created + 1)
      (creates : service.Creates before upload) :
      Traces service before after id upload

/-- What is known of a store after a deed. -/
structure Store.Follows (service : Service) (before after : Store) : Prop where
  numbered : after.IsNumbered
  created_le : before.created ≤ after.created
  traces : ∀ id upload, after.find? id = some upload →
    Store.Traces service before after id upload

namespace Store.Deed

variable {before after : Store}

/-- A deed revises the records that it does not remove, or adds a new one. -/
theorem follows (deed : Store.Deed service before after)
    (numbered : before.IsNumbered) : Store.Follows service before after := by
  cases deed with
  | @creates upload creates =>
      refine ⟨numbered.insert upload, Nat.le_succ _, ?_⟩
      intro id later found
      rw [find?_insert] at found
      cases earlier : before.find? id with
      | some kept =>
          rw [earlier] at found
          cases found
          exact .revised earlier .same
      | none =>
          rw [earlier, Option.none_or] at found
          split at found
          · rename_i fresh
            cases found
            exact .created fresh rfl creates
          · cases found
  | writes found writes alters left =>
      rename_i id upload written
      refine ⟨alters.isNumbered numbered, Nat.le_of_eq alters.created.symm, ?_⟩
      intro other later there
      by_cases same : other = id
      · subst same
        rw [left] at there
        cases there
        exact .revised found (.written writes)
      · rw [alters.others other same] at there
        exact .revised there .same
  | renews id expiry limited =>
      have alters := AltersAt.modify before id (Upload.renewed expiry)
      refine ⟨alters.isNumbered numbered, Nat.le_refl _, ?_⟩
      intro other later there
      by_cases same : other = id
      · subst same
        rw [find?_modify_self] at there
        rcases Option.map_eq_some_iff.1 there with ⟨upload, found, rfl⟩
        exact .revised found (.renewed expiry limited)
      · rw [alters.others other same] at there
        exact .revised there .same
  | erases id =>
      refine ⟨numbered.of_sublist rfl ids_erase_sublist, Nat.le_refl _, ?_⟩
      intro other later there
      rw [find?_erase] at there
      split at there
      · cases there
      · exact .revised there .same
  | sweeps now =>
      refine ⟨numbered.of_sublist rfl (ids_sweep_sublist now), Nat.le_refl _,
          ?_⟩
      intro other later there
      rw [find?_sweep numbered.distinct] at there
      exact .revised (Option.filter_eq_some_iff.1 there).1 .same

end Store.Deed

/-- Changes of a store one after another. -/
def Store.Deeds (service : Service) : Store → Store → Prop :=
  Relation.ReflTransGen (Store.Deed service)

namespace Store.Deeds

theorem of_eq {before after : Store} (same : after = before) :
    Deeds service before after :=
  same ▸ .refl

theorem single {before after : Store} (deed : Deed service before after) :
    Deeds service before after :=
  Relation.ReflTransGen.single deed

theorem trans {first second third : Store}
    (earlier : Deeds service first second)
    (later : Deeds service second third) : Deeds service first third :=
  Relation.ReflTransGen.trans earlier later

/-- Attempts one after another do deeds one after another. -/
theorem bind {α β : Type} {attempt : Attempt α} {rest : α → Attempt β}
    (first : Deeds service scene.store (attempt.play scene).scene.store)
    (second : ∀ value after, attempt.play scene = .finished (.ok value) after →
      Deeds service after.store ((rest value).play after).scene.store) :
    Deeds service scene.store ((attempt >>= rest).play scene).scene.store := by
  rw [Attempt.play_bind]
  cases played : attempt.play scene with
  | finished result after =>
      rw [played] at first
      cases result with
      | ok value => exact first.trans (second value after played)
      | error failure => exact first
  | waiting after =>
      rw [played] at first
      exact first
  | collapsed after =>
      rw [played] at first
      exact first

/-- A call whose means may not be used does nothing. -/
theorem serviceCall {asked : Call} {means : Means}
    (needs : asked.means? = some means)
    (granted : service.terms.grants means = true →
      Deeds service scene.store (scene.call asked).scene.store) :
    Deeds service scene.store
      ((service.call asked).play scene).scene.store := by
  cases may : service.terms.grants means with
  | true =>
      rw [Attempt.play_serviceCall needs may]
      exact granted may
  | false =>
      rw [Attempt.play_serviceCall_of_not_granted needs may]
      exact .refl

theorem of_asks {α : Type} {attempt : Attempt α} (asks : attempt.Asks)
    (scene : Scene) :
    Deeds service scene.store (attempt.play scene).scene.store :=
  of_eq (congrArg Scene.store (asks scene))

theorem renew (service : Service) (id : String) (scene : Scene) :
    Deeds service scene.store
      ((Lifetime.renew service id).play scene).scene.store := by
  have renews := Lifetime.renew_renews service id scene
  generalize ((Lifetime.renew service id).play scene).scene = after at renews ⊢
  rcases renews with rfl | ⟨limited, expiry, rfl⟩
  · exact .refl
  · exact single (.renews id expiry limited)

end Store.Deeds

namespace Handling

theorem create_deeds {length? : Option Nat} {metadata : Option String}
    (accepted : ∀ length, length? = some length →
      service.AcceptsLength length) :
    Store.Deeds service scene.store
      ((service.call (.create length? metadata)).play scene).scene.store :=
  .serviceCall rfl fun _ => .single (.creates
    (.empty length? metadata .whole rfl accepted))

theorem createPiece_deeds {length? : Option Nat} {metadata : Option String}
    (accepted : ∀ length, length? = some length →
      service.AcceptsLength length) :
    Store.Deeds service scene.store
      ((service.call (.createPiece length? metadata)).play
        scene).scene.store :=
  .serviceCall rfl fun _ => .single (.creates
    (.empty length? metadata .piece rfl accepted))

theorem createJoined_deeds {ids : List String} {metadata : Option String}
    (joinable : ∃ content, scene.store.joined? ids = .ok content ∧
      ∀ max, service.config.maxSize = some max →
        min content.length Budget.ceiling ≤ max) :
    Store.Deeds service scene.store
      ((service.call (.createJoined ids metadata)).play
        scene).scene.store := by
  rcases joinable with ⟨content, joins, allowed⟩
  refine .serviceCall rfl fun granted => .single ?_
  have supported : service.terms.supports .concatenation = true :=
    (Bool.and_eq_true_iff.1 granted).1
  have left : (scene.call (.createJoined ids metadata)).scene.store
      = (scene.store.insert (.joining ids metadata content)).2 := by
    simp [Scene.call, Call.looksAtClock, Store.answer, Store.createJoined,
      joins, Store.create, Played.scene]
  rw [left]
  exact .creates (.joined metadata supported joins allowed)

theorem delete_deeds (id : String) :
    Store.Deeds service scene.store
      ((service.call (.delete id)).play scene).scene.store := by
  refine .serviceCall rfl ?_
  intro _
  have answered : (scene.call (.delete id)).scene.store
      = (if scene.store.has id then (.ok (), scene.store.erase id)
          else (.error (.missing id), scene.store) :
          Except Failure Unit × Store).2 := rfl
  rw [answered]
  split
  · exact .single (.erases id)
  · exact .refl

/-- An exchange that has not been checked. -/
structure IsUnchecked (exchange : Exchange) : Prop where
  length : exchange.declared.length = none
  part : exchange.declared.part = none
  pledge : exchange.pledge = .none

/-- The work of a handling consists of deeds. -/
theorem carryOut_deeds {intent : Intent} {handling : Handling}
    (handled : ofIntent? service intent = some handling)
    (unchecked : IsUnchecked exchange)
    (checks : (handling.check exchange).play scene
      = .finished (.ok (.ok checked)) scene)
    {later : Scene} (same : later.store = scene.store) :
    Store.Deeds service later.store
      ((handling.carryOut checked).play later).scene.store := by
  cases intent with
  | createFile =>
      cases handled
      rcases Check.ends_well_of_play (Check.play_ofExcept _ _) checks with
          ⟨reads, -⟩
      rcases Requirement.declared_accepts unchecked.length reads with
          ⟨accepts, -⟩
      refine .bind (create_deeds accepts) ?_
      intro id after _
      refine .bind (.renew service id after) ?_
      intro expiry after _
      exact .of_asks (.pure _) after
  | concatenate =>
      cases handled
      rcases Check.bind_ends_well checks with ⟨middle, _, parted, reads⟩
      rcases (Requirement.part_inquires service exchange).asks.same parted with
          rfl
      rcases Requirement.part_ends_well unchecked.length parted with
          ⟨fresh, joinable⟩
      rcases Check.ends_well_of_play (Check.play_ofExcept _ _) reads with
          ⟨reads, -⟩
      rcases Requirement.declared_accepts fresh reads with ⟨accepts, part⟩
      rw [← part, ← same] at joinable
      rw [concatenate]
      simp only
      cases played : checked.part with
      | joined ids =>
          refine .bind (createJoined_deeds (joinable ids played)) ?_
          intro id after _
          exact .of_asks (.bind (.call rfl) fun _ => .pure _) after
      | whole =>
          refine .bind (createPiece_deeds accepts) ?_
          intro id after _
          refine .bind (.renew service id after) ?_
          intro expiry after _
          exact .of_asks (.pure _) after
      | piece =>
          refine .bind (createPiece_deeds accepts) ?_
          intro id after _
          refine .bind (.renew service id after) ?_
          intro expiry after _
          exact .of_asks (.pure _) after
  | writeFile =>
      cases handled
      rcases write_check_ends_well checks with ⟨upload, found, may⟩
      rw [← may.fileId, ← same] at found
      rcases write_carryOut_spec found may unchecked.length unchecked.pledge
          with ⟨written, writes, -, -, rewrites, -⟩
      exact .single (.writes found writes rewrites.alters rewrites.found)
  | deleteFile =>
      cases handled
      refine .bind (delete_deeds _) ?_
      intro _ after _
      exact .of_asks (.pure _) after
  | fileInfo =>
      cases handled
      exact .of_asks (info_carryOut_inquires service checked).asks later
  | options =>
      cases handled
      exact .of_asks (options_carryOut_inquires service checked).asks later
  | notApplicable => cases handled

end Handling

end ResumableUpload
