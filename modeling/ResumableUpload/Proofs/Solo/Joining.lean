import ResumableUpload.Proofs.Solo.Acceptance
import ResumableUpload.Proofs.Solo.Completion
/-!
# Joining uploads

A request that joins uploads asks for each of them whether it is there, whether
it was meant to be joined, and whether it has all its bytes; it adds up their
lengths, and looks at the fields for a length and for metadata.
`Handling.concatenate_check_decides` puts these questions together: the
requirements are met exactly if the uploads can be joined, no length is given
and the metadata is understood, and otherwise the request is rejected.

What comes of them takes no further bytes.  A write to it is rejected whatever
it brings and whoever holds the lease, by
`Protocol.handleIntent_write_of_joined`.
-/

namespace ResumableUpload

variable {service : Service} {exchange checked : Exchange} {scene : Scene}
  {id : String} {ids : List String} {upload : Upload}

/-! ## Checks that decide -/

/--
On a scene a check decides a question: it ends well if the answer is yes, with
something that the second property describes, and otherwise it rejects.
-/
structure Check.Decides {α : Type} (check : Check α) (scene : Scene)
    (holds : Prop) (gives : α → Prop) : Prop where
  passes : holds → ∃ value, gives value ∧
    check.play scene = .finished (.ok (.ok value)) scene
  rejects : ¬holds → ∃ rejection,
    check.play scene = .finished (.ok (.error rejection)) scene

namespace Check.Decides

variable {α β : Type} {check : Check α} {holds other : Prop}
  {gives : α → Prop}

theorem of_iff (decides : check.Decides scene holds gives)
    (same : holds ↔ other) : check.Decides scene other gives :=
  ⟨decides.passes ∘ same.2, fun unmet => decides.rejects (unmet ∘ same.1)⟩

theorem pure {value : α} (met : holds) (given : gives value) :
    (pure value : Check α).Decides scene holds gives :=
  ⟨fun _ => ⟨value, given, rfl⟩, fun unmet => absurd met unmet⟩

theorem reject (rejection : Rejection) (unmet : ¬holds) :
    (Check.reject rejection : Check α).Decides scene holds gives :=
  ⟨fun met => absurd met unmet, fun _ => ⟨rejection, rfl⟩⟩

/-- A check decides whether what it is known to come to is no rejection. -/
theorem of_play {result : Except Rejection α}
    (plays : check.play scene = .finished (.ok result) scene) :
    check.Decides scene (∃ value, result = .ok value) (result = .ok ·) where
  passes := by
    rintro ⟨value, rfl⟩
    exact ⟨value, rfl, plays⟩
  rejects := by
    intro unmet
    cases result with
    | ok value => exact absurd ⟨value, rfl⟩ unmet
    | error rejection => exact ⟨rejection, plays⟩

/-- After a check that ends well it is for the rest to decide. -/
theorem after {value : α} {rest : α → Check β} {has : β → Prop}
    (plays : check.play scene = .finished (.ok (.ok value)) scene)
    (decides : (rest value).Decides scene holds has) :
    (check >>= rest).Decides scene holds has := by
  have same := Check.play_bind_of_ends plays rest
  exact ⟨fun met => same ▸ decides.passes met,
    fun unmet => same ▸ decides.rejects unmet⟩

/--
Two questions, of which the second is asked if the answer to the first is yes.
-/
theorem bind {rest : α → Check β} {has : β → Prop}
    (first : check.Decides scene holds gives)
    (second : holds → ∀ value, gives value →
      (rest value).Decides scene other has) :
    (check >>= rest).Decides scene (holds ∧ other) has where
  passes := by
    rintro ⟨met, more⟩
    rcases first.passes met with ⟨value, given, plays⟩
    rw [Check.play_bind_of_ends plays]
    exact (second met value given).passes more
  rejects := by
    intro unmet
    by_cases met : holds
    · rcases first.passes met with ⟨value, given, plays⟩
      rw [Check.play_bind_of_ends plays]
      exact (second met value given).rejects fun more => unmet ⟨met, more⟩
    · rcases first.rejects met with ⟨rejection, plays⟩
      refine ⟨rejection, ?_⟩
      rw [Check.play_bind, plays]
      rfl

/-- A check that notes what it has decided still decides it. -/
theorem then_pure (decides : check.Decides scene holds gives) (value : β) :
    (check >>= fun _ => Pure.pure value).Decides scene holds (· = value) := by
  have both : (check >>= fun _ => Pure.pure value).Decides scene
      (holds ∧ True) (· = value) :=
    decides.bind fun _ _ _ => .pure trivial rfl
  exact both.of_iff (and_iff_left trivial)

/-- Where one part rejects in the end, the check rejects. -/
theorem bind_rejects {rest : α → Check β} {has : β → Prop}
    (first : check.Decides scene holds gives)
    (second : ∀ value, gives value → (rest value).Decides scene False has) :
    (check >>= rest).Decides scene False has :=
  (first.bind fun _ => second).of_iff (iff_of_eq (and_false holds))

end Check.Decides

/-! ## What can be joined -/

namespace Store

/-- The contents of some uploads one after another. -/
def contents (store : Store) (ids : List String) : Bytes :=
  ids.flatMap fun id => ((store.find? id).map Upload.content).getD []

/-- The sum of the lengths of some uploads, each counted as often as listed. -/
def lengths (store : Store) : List String → Nat
  | [] => 0
  | id :: rest =>
      ((store.find? id).bind Upload.length).getD 0 + lengths store rest

variable {store : Store}

/-- Uploads that are all there can be joined to their contents. -/
theorem joined?_of_has (there : ∀ id ∈ ids, store.has id = true) :
    store.joined? ids = .ok (store.contents ids) := by
  induction ids with
  | nil => rfl
  | cons id rest hypothesis =>
      rcases exists_find?_of_has (there id List.mem_cons_self) with
          ⟨upload, found⟩
      rw [joined?, found,
        hypothesis fun other present =>
          there other (List.mem_cons_of_mem id present)]
      simp [contents, found, Except.map]

end Store

/-- Uploads of a store may be joined. -/
structure Service.CanJoin (service : Service) (store : Store)
    (ids : List String) : Prop where
  pieces : ∀ id ∈ ids, ∃ upload, store.find? id = some upload ∧
    upload.part = .piece ∧ upload.length = some upload.offset
  size : ∀ max, service.config.maxSize = some max → store.lengths ids ≤ max

instance (service : Service) (store : Store) (ids : List String) :
    Decidable (service.CanJoin store ids) :=
  decidable_of_iff
    ((∀ id ∈ ids, ∃ upload, upload ∈ store.find? id ∧ upload.part = .piece ∧
        upload.length = some upload.offset) ∧
      ∀ max ∈ service.config.maxSize, store.lengths ids ≤ max)
    ⟨fun ⟨pieces, size⟩ => ⟨pieces, size⟩,
      fun ⟨pieces, size⟩ => ⟨pieces, size⟩⟩

namespace Headers

/-- What a creation says of its metadata, if it says anything. -/
def metadataText? (headers : Headers) : Option String :=
  if headers.has HeaderName.uploadMetadata then
    some ((headers.text? HeaderName.uploadMetadata).getD "")
  else none

/-- What a creation says of its metadata is understood. -/
def HasReadableMetadata (headers : Headers) (strictness : Metadata.Strictness) :
    Prop :=
  ∀ text, headers.metadataText? = some text →
    ∃ metadata, Metadata.parse strictness text = .ok metadata

/-- The fields name uploads that are to be joined. -/
def NamesPieces (headers : Headers) (service : Service) (ids : List String) :
    Prop :=
  Part.parse service.config.urlPath
    ((headers.text? HeaderName.uploadConcat).getD "") = .ok (.joined ids)

instance (headers : Headers) (strictness : Metadata.Strictness) :
    Decidable (headers.HasReadableMetadata strictness) :=
  decidable_of_iff (∀ text ∈ headers.metadataText?,
      (Metadata.parse strictness text).toOption.isSome = true) <| by
    refine forall₂_congr fun text _ => ?_
    cases Metadata.parse strictness text <;> simp [Except.toOption]

instance (headers : Headers) (service : Service) (ids : List String) :
    Decidable (headers.NamesPieces service ids) :=
  decidable_of_iff ((Part.parse service.config.urlPath
      ((headers.text? HeaderName.uploadConcat).getD "")).toOption
        = some (.joined ids)) <| by
    rw [NamesPieces]
    cases Part.parse service.config.urlPath
      ((headers.text? HeaderName.uploadConcat).getD "") <;>
      simp [Except.toOption]

end Headers

/-- A request with some fields may create an upload that joins others. -/
structure Service.MayJoin (service : Service) (store : Store)
    (headers : Headers) (ids : List String) : Prop where
  joinable : service.CanJoin store ids
  unmeasured : headers.has HeaderName.uploadLength = false
  understood : headers.HasReadableMetadata service.config.strictness

instance (service : Service) (store : Store) (headers : Headers)
    (ids : List String) : Decidable (service.MayJoin store headers ids) :=
  decidable_of_iff
    (service.CanJoin store ids ∧
      headers.has HeaderName.uploadLength = false ∧
      headers.HasReadableMetadata service.config.strictness)
    ⟨fun ⟨joinable, unmeasured, understood⟩ =>
        ⟨joinable, unmeasured, understood⟩,
      fun ⟨joinable, unmeasured, understood⟩ =>
        ⟨joinable, unmeasured, understood⟩⟩

/-- The exchange once the part of its upload is known. -/
def Exchange.withPart (exchange : Exchange) (part : Part) : Exchange :=
  { exchange with declared := { exchange.declared with part := some part } }

namespace Requirement

theorem piecesExist_decides (ids : List String) (scene : Scene) :
    (piecesExist ids).Decides scene (∀ id ∈ ids, scene.store.has id = true)
      fun _ => True := by
  induction ids with
  | nil => exact .pure (by simp) trivial
  | cons id rest hypothesis =>
      refine .after (Check.play_call (scene.call_has id)) ?_
      cases here : scene.store.has id with
      | true => exact hypothesis.of_iff (by simp [here])
      | false => exact .reject _ (by simp [here])

/-- The part of an upload that is there is given, if uploads can be joined. -/
theorem play_partOf_of_supports
    (supported : service.terms.supports .concatenation = true)
    (found : scene.store.find? id = some upload) :
    (Check.attempt (partOf service id)).play scene
      = .finished (.ok (.ok upload.part)) scene := by
  rw [partOf, if_pos supported, Check.play_attempt, Attempt.play_serviceCall rfl
    (Terms.grants_of_supports rfl supported), Scene.call_part found]
  rfl

theorem piecesArePieces_decides
    (supported : service.terms.supports .concatenation = true)
    (there : ∀ id ∈ ids, scene.store.has id = true) :
    (piecesArePieces service ids).Decides scene
      (∀ id ∈ ids, ∃ upload, scene.store.find? id = some upload ∧
        upload.part = .piece) fun _ => True := by
  induction ids with
  | nil => exact .pure (by simp) trivial
  | cons id rest hypothesis =>
      rcases List.forall_mem_cons.1 there with ⟨here, there⟩
      rcases Store.exists_find?_of_has here with ⟨upload, found⟩
      refine .after (play_partOf_of_supports supported found) ?_
      cases played : upload.part with
      | piece => exact (hypothesis there).of_iff (by simp [found, played])
      | whole | joined => exact .reject _ (by simp [found, played])

/-- The lengths of uploads that are complete are added up as far as counted. -/
theorem piecesComplete_decides {total : Nat} (low : total ≤ Budget.ceiling)
    (there : ∀ id ∈ ids, scene.store.has id = true) :
    (piecesComplete total ids).Decides scene
      (∀ id ∈ ids, ∃ upload, scene.store.find? id = some upload ∧
        upload.length = some upload.offset)
      (· = min (total + scene.store.lengths ids) Budget.ceiling) := by
  induction ids generalizing total with
  | nil => exact .pure (by simp) (Nat.min_eq_left low).symm
  | cons id rest hypothesis =>
      rcases List.forall_mem_cons.1 there with ⟨here, there⟩
      rcases Store.exists_find?_of_has here with ⟨upload, found⟩
      refine .after (Check.play_call (Scene.call_length found))
        (.after (Check.play_call (Scene.call_offset found)) ?_)
      by_cases complete : upload.length = some upload.offset
      · rw [if_pos complete]
        have counted : scene.store.lengths (id :: rest)
            = upload.offset + scene.store.lengths rest := by
          simp [Store.lengths, found, complete]
        have sums : min (min (total + upload.offset) Budget.ceiling
            + scene.store.lengths rest) Budget.ceiling
            = min (total + scene.store.lengths (id :: rest))
              Budget.ceiling := by
          rw [counted]
          omega
        rw [← sums]
        exact (hypothesis (Nat.min_le_right _ _) there).of_iff
          (by simp [found, complete])
      · rw [if_neg complete]
        exact .reject _ (by simp [found, complete])

/-- Uploads are joinable exactly if they may be joined. -/
theorem joinable_decides
    (supported : service.terms.supports .concatenation = true)
    (counted : scene.store.lengths ids ≤ Budget.ceiling) :
    (joinable service ids).Decides scene (service.CanJoin scene.store ids)
      fun _ => True := by
  have limit (total : Nat) (sum : total = scene.store.lengths ids) :
      (if service.config.maxSize.any (· < total) then
          Check.reject .joinedTooLarge
        else pure () : Check Unit).Decides scene
        (∀ max, service.config.maxSize = some max →
          scene.store.lengths ids ≤ max) fun _ => True := by
    subst sum
    cases service.config.maxSize with
    | none => exact .pure (by simp) trivial
    | some max =>
        by_cases beyond : max < scene.store.lengths ids
        · rw [if_pos (by simpa using beyond)]
          exact .reject _ (by simpa using beyond)
        · rw [if_neg (by simpa using beyond)]
          exact .pure (by simpa using beyond) trivial
  have decides := (piecesExist_decides ids scene).bind fun there _ _ =>
    (piecesArePieces_decides supported there).bind fun _ _ _ =>
      (piecesComplete_decides (Nat.zero_le _) there).bind fun _ total sum =>
        limit total (by rw [sum, Nat.zero_add, Nat.min_eq_left counted])
  refine decides.of_iff ⟨?_, ?_⟩
  · rintro ⟨-, pieces, complete, size⟩
    refine ⟨fun id listed => ?_, size⟩
    rcases pieces id listed with ⟨upload, found, piece⟩
    rcases complete id listed with ⟨other, again, full⟩
    rw [found] at again
    cases again
    exact ⟨upload, found, piece, full⟩
  · rintro ⟨pieces, size⟩
    refine ⟨?_, ?_, ?_, size⟩
    · intro id listed
      rcases pieces id listed with ⟨upload, found, -⟩
      exact Store.has_of_find? found
    · intro id listed
      rcases pieces id listed with ⟨upload, found, piece, -⟩
      exact ⟨upload, found, piece⟩
    · intro id listed
      rcases pieces id listed with ⟨upload, found, -, full⟩
      exact ⟨upload, found, full⟩

/-- Metadata is understood or rejected, and no part is changed by it. -/
theorem metadata_decides (fresh : exchange.declared.metadataText = none)
    (service : Service) (scene : Scene) :
    (Check.ofExcept (metadata service exchange)).Decides scene
      (exchange.headers.HasReadableMetadata service.config.strictness)
      fun checked => checked.part = exchange.part ∧
        checked.declared.metadataText = exchange.headers.metadataText? := by
  rw [metadata, Headers.HasReadableMetadata, Headers.metadataText?]
  cases exchange.headers.has HeaderName.uploadMetadata with
  | false => exact .pure (by simp) ⟨rfl, fresh⟩
  | true =>
      simp only [Bool.not_true, Bool.false_eq_true, if_false, if_true]
      cases parsed : Metadata.parse service.config.strictness
          ((exchange.headers.text? HeaderName.uploadMetadata).getD "") with
      | ok metadata => exact .pure (by simp [parsed]) ⟨rfl, rfl⟩
      | error reason => exact .reject _ (by simp [parsed])

/-- What a request declares to be joined is joinable, and has no length. -/
theorem part_decides (supported : service.terms.supports .concatenation = true)
    (counted : scene.store.lengths ids ≤ Budget.ceiling)
    (names : exchange.headers.NamesPieces service ids) :
    (part service exchange).Decides scene
      (service.CanJoin scene.store ids ∧
        exchange.headers.has HeaderName.uploadLength = false)
      (· = exchange.withPart (.joined ids)) := by
  have measured : (if exchange.headers.has HeaderName.uploadLength then
        Check.reject .lengthOfJoined
      else pure () : Check Unit).Decides scene
        (exchange.headers.has HeaderName.uploadLength = false)
        fun _ => True := by
    cases exchange.headers.has HeaderName.uploadLength with
    | true => exact .reject _ (by simp)
    | false => exact .pure rfl trivial
  have possible : (partIsPossible service exchange (.joined ids)).Decides scene
      (service.CanJoin scene.store ids ∧
        exchange.headers.has HeaderName.uploadLength = false) fun _ => True :=
    (joinable_decides supported counted).bind fun _ _ _ => measured
  rw [part, names]
  exact possible.then_pure (exchange.withPart (.joined ids))

end Requirement

namespace Handling

/--
The requirements of a concatenation are met exactly if the new upload may be
created.
-/
theorem concatenate_check_decides
    (supported : service.terms.supports .concatenation = true)
    (counted : scene.store.lengths ids ≤ Budget.ceiling)
    (names : exchange.headers.NamesPieces service ids)
    (fresh : exchange.declared.metadataText = none) :
    ((concatenate service).check exchange).Decides scene
      (service.MayJoin scene.store exchange.headers ids)
      fun checked => checked.part = .joined ids ∧
        checked.declared.metadataText = exchange.headers.metadataText? := by
  have rest : ∀ checked, checked = exchange.withPart (.joined ids) →
      (Check.ofExcept (Requirement.newLength service checked >>=
        Requirement.metadata service)).Decides scene
          (exchange.headers.HasReadableMetadata service.config.strictness)
          fun checked => checked.part = .joined ids ∧
            checked.declared.metadataText = exchange.headers.metadataText? := by
    rintro checked rfl
    have fresh : (exchange.withPart (.joined ids)).declared.metadataText
        = none := fresh
    exact Requirement.metadata_decides fresh service scene
  have decides := (Requirement.part_decides supported counted names).bind
    fun _ => rest
  refine decides.of_iff ⟨?_, ?_⟩
  · rintro ⟨⟨joinable, unmeasured⟩, understood⟩
    exact ⟨joinable, unmeasured, understood⟩
  · rintro ⟨joinable, unmeasured, understood⟩
    exact ⟨⟨joinable, unmeasured⟩, understood⟩

/-- The upload that joins others is created, and the answer says so. -/
theorem play_createJoined
    (supported : service.terms.supports .concatenation = true)
    (there : ∀ id ∈ ids, scene.store.has id = true)
    (numbered : scene.store.IsNumbered) (checked : Exchange) :
    (createJoined service checked ids).play scene
      = .finished
          (.ok (answerCreated service checked
              (Store.idOf scene.store.created) none,
            .created (Store.idOf scene.store.created)
              (some (scene.store.contents ids).length) true))
          { scene with
            store := (scene.store.insert (.joining ids
              checked.declared.metadataText (scene.store.contents ids))).2 } := by
  have created : (service.call (.createJoined ids
        checked.declared.metadataText)).play scene
      = .finished (.ok (Store.idOf scene.store.created))
          { scene with
            store := (scene.store.insert (.joining ids
              checked.declared.metadataText (scene.store.contents ids))).2 } := by
    rw [Attempt.play_serviceCall rfl (Terms.grants_of_supports rfl supported)]
    simp [Scene.call, Call.looksAtClock, Store.answer, Store.createJoined,
      Store.joined?_of_has there, Store.create, Store.insert]
  have found := (find?_inserted numbered (.joining ids
    checked.declared.metadataText (scene.store.contents ids))).1
  have there : Store.find? { scene with store := (scene.store.insert (.joining
      ids checked.declared.metadataText (scene.store.contents ids))).2 }.store
        (Store.idOf scene.store.created) = some _ := found
  rw [createJoined, Attempt.play_bind, created, Played.finished_andThen,
    Attempt.orFailure_ok, Attempt.play_call_bind (Scene.call_length there)]
  rfl

/-- A write to what others were joined to is rejected. -/
theorem write_check_of_joined
    (supported : service.terms.supports .concatenation = true)
    (found : scene.store.find? exchange.fileId = some upload)
    (joined : upload.part.isJoined = true) (immortal : upload.expiry = none) :
    ((write service).check exchange).Decides scene False fun _ => True := by
  rw [write]
  simp only
  refine .bind_rejects (.of_play (Check.play_ofExcept _ _)) fun _ _ => ?_
  refine .bind_rejects (.of_play (Check.play_ofExcept _ _)) fun _ reads => ?_
  rcases Requirement.offset_eq_ok reads with ⟨given, rfl⟩
  refine .bind_rejects (.of_play (Requirement.play_checksum service _ _))
    fun _ pledges => ?_
  rcases Requirement.exists_pledgeOf pledges with ⟨pledge, -, rfl⟩
  refine .bind_rejects (.of_play (Requirement.play_present _ _)) fun _ _ => ?_
  have there : scene.store.find?
      ((exchange.withOffset given).withPledge pledge).fileId = some upload :=
    found
  refine .after (Requirement.play_alive_of_immortal there immortal service) ?_
  have whole := Requirement.play_notJoined there service
  rw [supported, joined, Bool.and_self, if_pos rfl] at whole
  refine .bind_rejects ((Check.Decides.of_play whole).of_iff
    (by simp : _ ↔ False)) fun _ contrary => by cases contrary

end Handling

namespace Protocol

variable {handling : Handling}

/-- What a check rejects is answered so, and nothing is done. -/
theorem play_executeSettled_of_rejected {gives : Exchange → Prop}
    (decides : (handling.check exchange).Decides scene False gives) :
    ∃ rejection, (executeSettled handling exchange).play scene
      = .finished (.ok (exchange.reject rejection)) scene := by
  rcases decides.rejects not_false with ⟨rejection, rejects⟩
  refine ⟨rejection, ?_⟩
  rw [play_executeSettled, play_execute, rejects]
  rfl

/--
A write to what others were joined to is answered and does nothing, whatever it
brings and whoever holds the lease.
-/
theorem handleIntent_write_of_joined (agrees : scene.HostAgrees)
    (supported : service.terms.supports .concatenation = true)
    (found : scene.store.find? exchange.fileId = some upload)
    (joined : upload.part.isJoined = true) (immortal : upload.expiry = none) :
    ∃ done after,
      (handleIntent .writeFile (Handling.write service) exchange).play scene
        = .finished (.ok done) after ∧
      after.store = scene.store := by
  rcases play_handleIntent_of_agrees agrees .writeFile (Handling.write service)
      exchange with ⟨told, rest, handled⟩
  rw [handled, ← rest.told.store]
  rw [← rest.told.store] at found
  rw [executeVersioned]
  split
  · exact ⟨_, told, rfl, rfl⟩
  · rw [if_pos (by rfl)]
    change ∃ done after, (executeLeased (Handling.write service)
      (versioned exchange)).play told = .finished (.ok done) after ∧ _
    cases free : (told.locks.acquire (versioned exchange).fileId).1 with
    | none => exact ⟨_, _, play_executeLeased_of_held free _, rfl⟩
    | some lease =>
        have there : (told.leased (versioned exchange).fileId).store.find?
            (versioned exchange).fileId = some upload := found
        rcases play_executeSettled_of_rejected (Handling.write_check_of_joined
            supported there joined immortal) with ⟨rejection, rejected⟩
        refine ⟨(versioned exchange).reject rejection,
          (told.leased (versioned exchange).fileId).release lease, ?_, rfl⟩
        rw [play_executeLeased free, rejected]
        rfl

/-- The body of a request that has joined uploads is not written anywhere. -/
theorem play_handleBody_of_joined (agrees : scene.HostAgrees)
    (supported : service.terms.supports .concatenation = true)
    (found : scene.store.find? id = some upload)
    (joined : upload.part.isJoined = true) (immortal : upload.expiry = none)
    (exchange : Exchange) :
    ∃ response after,
      (handleBody .writeFile (Handling.write service) exchange id).play scene
        = .finished (.ok response) after ∧
      response.status = exchange.response.status ∧
      after.store = scene.store := by
  have there : scene.store.find? (exchange.continueWith id).fileId
      = some upload := found
  rcases handleIntent_write_of_joined agrees supported there joined immortal
      with ⟨done, after, ends, same⟩
  refine ⟨adopt exchange.response done.response, after, ?_, rfl, same⟩
  have caught : (handleIntent .writeFile (Handling.write service)
      (exchange.continueWith id)).caught.play scene
        = .finished (.ok done) after := ends
  rw [handleBody, Attempt.play_bind, Attempt.play_lift, caught]
  rfl

end Protocol

end ResumableUpload
