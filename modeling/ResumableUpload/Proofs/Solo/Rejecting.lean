import ResumableUpload.Proofs.Solo.Joining
import ResumableUpload.Proofs.Solo.Twins
/-!
# Requests that are rejected

A request that names an upload in its path is rejected where the upload is not
there, and in the same way where the life of the upload is over: see
`Handling.rejects_missed`.  A request that joins uploads is rejected where one
of them is not a complete piece, whether or not it is there at all:
`Handling.concatenate_rejects`.

What is rejected on two stores comes to the same end on both, but for what the
rejections say, because nothing else on the way looks at the store; this is
`Protocol.play_handleIntent_restocked`.
-/

namespace ResumableUpload

/-! ## Rejections -/

/-- A check that ends on a scene in a rejection of a certain kind. -/
def Check.IsRejected {α : Type} (check : Check α) (scene : Scene)
    (fits : Rejection → Prop) : Prop :=
  ∃ rejection, fits rejection ∧
    check.play scene = .finished (.ok (.error rejection)) scene

namespace Check.IsRejected

variable {α β : Type} {scene : Scene} {fits : Rejection → Prop}

theorem reject {rejection : Rejection} (fitting : fits rejection) :
    (Check.reject rejection : Check α).IsRejected scene fits :=
  ⟨rejection, fitting, rfl⟩

/-- What is rejected at its beginning is rejected. -/
theorem first {check : Check α} {rest : α → Check β}
    (rejected : check.IsRejected scene fits) :
    (check >>= rest).IsRejected scene fits := by
  obtain ⟨rejection, fitting, ends⟩ := rejected
  refine ⟨rejection, fitting, ?_⟩
  rw [Check.play_bind, ends]
  rfl

/-- What is rejected after its beginning is rejected. -/
theorem rest {check : Check α} {rest : α → Check β} {value : α}
    (ends : check.play scene = .finished (.ok (.ok value)) scene)
    (rejected : (rest value).IsRejected scene fits) :
    (check >>= rest).IsRejected scene fits := by
  obtain ⟨rejection, fitting, later⟩ := rejected
  refine ⟨rejection, fitting, ?_⟩
  rw [Check.play_bind_of_ends ends, later]

end Check.IsRejected

/-- A check that ends on certain scenes in one and the same rejection. -/
def Check.RejectsAlike {α : Type} (check : Check α) (held : Scene → Prop) :
    Prop :=
  ∃ rejection, ∀ scene, held scene → check.IsRejected scene (· = rejection)

/-- What looks at no scene may come before what rejects alike. -/
theorem Check.RejectsAlike.after {α β : Type} {check : Check α}
    {rest : α → Check β} {held : Scene → Prop} {result : Except Rejection α}
    (ends : ∀ scene, check.play scene = .finished (.ok result) scene)
    (later : ∀ value, result = .ok value → (rest value).RejectsAlike held) :
    (check >>= rest).RejectsAlike held := by
  cases result with
  | error rejection =>
      exact ⟨rejection, fun scene _ => .first ⟨rejection, rfl, ends scene⟩⟩
  | ok value =>
      obtain ⟨rejection, rejects⟩ := later value rfl
      exact ⟨rejection, fun scene holds =>
        .rest (ends scene) (rejects scene holds)⟩

/-! ## Uploads that are missed -/

/-- Whether the life of an upload is over. -/
def Upload.isOver (upload : Upload) (now : Instant) : Bool :=
  upload.expiry.any (·.before now)

/-- An upload is not there, or its life is over. -/
structure Scene.Misses (id : String) (scene : Scene) : Prop where
  readable : scene.clock.isReadable = true
  past : ∀ upload, scene.store.find? id = some upload →
    upload.isOver scene.clock = true

variable {service : Service} {exchange : Exchange} {scene : Scene}
  {id : String} {ids : List String}

namespace Requirement

/-- What requires that an upload is there and alive is rejected without it. -/
theorem living_rejected {α : Type}
    (supported : service.terms.supports .expiration = true)
    (misses : scene.Misses exchange.fileId) (rest : Unit → Check α) :
    (present exchange >>= fun _ => alive service exchange >>= rest).IsRejected
      scene (· = .notFound) := by
  have presence := play_present exchange scene
  cases here : scene.store.has exchange.fileId with
  | false =>
      rw [here] at presence
      exact Check.IsRejected.first ⟨.notFound, rfl, presence⟩
  | true =>
      rw [here, if_pos rfl] at presence
      obtain ⟨upload, found⟩ := Store.exists_find?_of_has here
      obtain ⟨expiry, dated, earlier⟩ :=
        (Option.any_eq_true _ _).1 (misses.past upload found)
      have asked : (service.call (.expiry exchange.fileId)).play scene
          = .finished (.ok (some expiry)) scene := by
        rw [Attempt.play_serviceCall rfl
          (Terms.grants_of_supports rfl supported), Scene.call_expiry found,
          dated]
      have lifeless : (alive service exchange).play scene
          = .finished (.ok (.error .notFound)) scene := by
        rw [alive, if_pos supported, Check.play_bind, Check.play_attempt, asked]
        simp only [Played.finished_andThen, Attempt.orFailure_ok,
          Check.orRejection]
        rw [Check.play_bind, Check.play_attempt, Attempt.play_now,
          if_pos misses.readable]
        simp [Check.orRejection, earlier]
      exact Check.IsRejected.rest presence
        (.first ⟨.notFound, rfl, lifeless⟩)

end Requirement

namespace Handling

variable {intent : Intent} {handling : Handling}

/--
What a request requires of an upload that it names is not met if the upload is
missed, and what is said then does not depend on why.
-/
theorem rejects_missed (names : intent.namesUpload = true)
    (handled : ofIntent? service intent = some handling)
    (supported : service.terms.supports .expiration = true)
    (about : exchange.IsAbout id) :
    (handling.check exchange).RejectsAlike (Scene.Misses id) := by
  have living {exchange : Exchange} (about : exchange.IsAbout id)
      (rest : Unit → Check Exchange) :
      (Requirement.present exchange >>= fun _ =>
        Requirement.alive service exchange >>= rest).RejectsAlike
          (Scene.Misses id) := by
    refine ⟨.notFound, fun scene misses => ?_⟩
    rw [← about] at misses
    exact Requirement.living_rejected supported misses rest
  cases intent with
  | deleteFile =>
      cases handled
      exact living about _
  | fileInfo =>
      cases handled
      exact living about _
  | writeFile =>
      cases handled
      -- What comes before depends on the header fields alone.
      refine .after (fun _ => rfl) fun _ _ =>
        .after (fun _ => rfl) fun noted located => ?_
      have about := Requirement.offset_isAbout about located
      refine .after (fun scene =>
        Requirement.play_checksum service noted scene) fun checked pledges => ?_
      obtain ⟨pledge, -, rfl⟩ := Requirement.exists_pledgeOf pledges
      have about : (noted.withPledge pledge).IsAbout id := about
      exact living about _
  | _ => cases names

end Handling

/-! ## Uploads that cannot be joined -/

/-- A store has an upload that is meant to be joined, and all of its bytes. -/
def Store.HasPiece (store : Store) (id : String) : Prop :=
  ∃ upload, store.find? id = some upload ∧ upload.part = .piece ∧
    upload.length = some upload.offset

namespace Requirement

theorem piecesExist_rejected (lacks : ¬∀ id ∈ ids, scene.store.has id = true) :
    (piecesExist ids).IsRejected scene (·.status = 400) := by
  induction ids with
  | nil => exact absurd (by simp) lacks
  | cons id rest hypothesis =>
      refine .rest (Check.play_call (scene.call_has id)) ?_
      cases here : scene.store.has id with
      | false => exact .reject rfl
      | true => exact hypothesis (by simpa [here] using lacks)

theorem piecesArePieces_rejected
    (supported : service.terms.supports .concatenation = true)
    (there : ∀ id ∈ ids, scene.store.has id = true)
    (lacks : ¬∀ id ∈ ids, ∃ upload, scene.store.find? id = some upload ∧
      upload.part = .piece) :
    (piecesArePieces service ids).IsRejected scene (·.status = 400) := by
  induction ids with
  | nil => exact absurd (by simp) lacks
  | cons id rest hypothesis =>
      obtain ⟨here, there⟩ := List.forall_mem_cons.1 there
      obtain ⟨upload, found⟩ := Store.exists_find?_of_has here
      refine .rest (play_partOf_of_supports supported found) ?_
      cases played : upload.part with
      | piece => exact hypothesis there (by simpa [found, played] using lacks)
      | whole | joined => exact .reject rfl

theorem piecesComplete_rejected {total : Nat}
    (there : ∀ id ∈ ids, scene.store.has id = true)
    (lacks : ¬∀ id ∈ ids, ∃ upload, scene.store.find? id = some upload ∧
      upload.length = some upload.offset) :
    (piecesComplete total ids).IsRejected scene (·.status = 400) := by
  induction ids generalizing total with
  | nil => exact absurd (by simp) lacks
  | cons id rest hypothesis =>
      obtain ⟨here, there⟩ := List.forall_mem_cons.1 there
      obtain ⟨upload, found⟩ := Store.exists_find?_of_has here
      refine .rest (Check.play_call (Scene.call_length found))
        (.rest (Check.play_call (Scene.call_offset found)) ?_)
      by_cases complete : upload.length = some upload.offset
      · rw [if_pos complete]
        exact hypothesis there (by simpa [found, complete] using lacks)
      · rw [if_neg complete]
        exact .reject rfl

/-- What is not all of complete pieces is not joinable. -/
theorem joinable_rejected
    (supported : service.terms.supports .concatenation = true)
    (lacks : ¬∀ id ∈ ids, scene.store.HasPiece id) :
    (joinable service ids).IsRejected scene (·.status = 400) := by
  by_cases there : ∀ id ∈ ids, scene.store.has id = true
  · obtain ⟨_, -, found⟩ := (piecesExist_decides ids scene).passes there
    refine .rest found ?_
    by_cases pieces : ∀ id ∈ ids, ∃ upload, scene.store.find? id = some upload ∧
        upload.part = .piece
    · obtain ⟨_, -, marked⟩ :=
        (piecesArePieces_decides supported there).passes pieces
      refine .rest marked (.first (piecesComplete_rejected there ?_))
      intro complete
      refine lacks fun id listed => ?_
      obtain ⟨upload, found, piece⟩ := pieces id listed
      obtain ⟨other, again, full⟩ := complete id listed
      rw [found] at again
      cases again
      exact ⟨upload, found, piece, full⟩
    · exact .first (piecesArePieces_rejected supported there pieces)
  · exact .first (piecesExist_rejected there)

end Requirement

/-- A request cannot join uploads that are not all complete pieces. -/
theorem Handling.concatenate_rejects
    (supported : service.terms.supports .concatenation = true)
    (names : exchange.headers.NamesPieces service ids)
    (lacks : ¬∀ id ∈ ids, scene.store.HasPiece id) :
    ((concatenate service).check exchange).IsRejected scene
      (·.status = 400) := by
  refine .first ?_
  rw [Requirement.part, names]
  exact .first (.first (Requirement.joinable_rejected supported lacks))

/-! ## Rejected on two stores -/

/-- Two scenes at one time that differ in their stores alone. -/
structure Scene.Restocked (now : Instant) (one two : Store)
    (first second : Scene) : Prop where
  clock : first.clock = now
  store : first.store = one
  same : second = { first with store := two }

namespace Scene.Restocked

variable {now : Instant} {one two : Store} {first second : Scene}

theorem leased (scenes : Restocked now one two first second) (id : String) :
    Restocked now one two (first.leased id) (second.leased id) := by
  obtain ⟨rfl, rfl, rfl⟩ := scenes
  exact ⟨rfl, rfl, rfl⟩

theorem release (scenes : Restocked now one two first second) (lease : Lease) :
    Restocked now one two (first.release lease) (second.release lease) := by
  obtain ⟨rfl, rfl, rfl⟩ := scenes
  exact ⟨rfl, rfl, rfl⟩

/-- A host that is asked for leave does not see the store. -/
theorem authorize (scenes : Restocked now one two first second)
    (intent : Intent) (method : Method) (id : Option String)
    (headers : Headers) :
    (first.tell (.authorize intent method id headers)).Alike
      (Restocked now one two) Eq
      (second.tell (.authorize intent method id headers)) := by
  obtain ⟨rfl, rfl, rfl⟩ := scenes
  simp only [tell, react]
  split
  · exact .finished rfl ⟨rfl, rfl, rfl⟩
  · split
    · exact .finished rfl ⟨rfl, rfl, rfl⟩
    · exact .finished rfl ⟨rfl, rfl, rfl⟩
    · split
      · exact .finished rfl ⟨rfl, rfl, rfl⟩
      · exact .collapsed ⟨rfl, rfl, rfl⟩

end Scene.Restocked

/--
A handling that rejects an exchange on two stores, with rejections that make
related answers.
-/
structure Handling.RejectsOn (handling : Handling) (exchange : Exchange)
    (related : Exchange → Exchange → Prop) (now : Instant)
    (one two : Store) : Prop where
  /-- What is answered without a look at the stores is related to itself. -/
  refl : ∀ response, related { exchange with response := response }
    { exchange with response := response }
  rejects : ∃ fits : Rejection → Prop,
    (∀ rejection other, fits rejection → fits other →
      related (exchange.reject rejection) (exchange.reject other)) ∧
    ∀ scene : Scene, scene.clock = now →
      scene.store = one ∨ scene.store = two →
        (handling.check exchange).IsRejected scene fits

namespace Protocol

variable {now : Instant} {one two : Store} {first second : Scene}
  {related : Exchange → Exchange → Prop} {handling : Handling}

/-- What is rejected by a check is answered with the rejection. -/
theorem play_executeSettled_of_check {rejection : Rejection}
    (checks : (handling.check exchange).play scene
      = .finished (.ok (.error rejection)) scene) :
    (executeSettled handling exchange).play scene
      = .finished (.ok (exchange.reject rejection)) scene := by
  rw [play_executeSettled, play_execute, checks]
  rfl

theorem play_executeSettled_restocked
    (rejects : handling.RejectsOn exchange related now one two)
    (scenes : Scene.Restocked now one two first second) :
    ((executeSettled handling exchange).play first).Alike
      (Scene.Restocked now one two) (SameResult related)
      ((executeSettled handling exchange).play second) := by
  obtain ⟨fits, fitting, rejects⟩ := rejects.rejects
  have clock : second.clock = now := by
    rw [scenes.same]
    exact scenes.clock
  have store : second.store = two := by rw [scenes.same]
  obtain ⟨rejection, here, checks⟩ :=
    rejects first scenes.clock (.inl scenes.store)
  obtain ⟨other, there, checks'⟩ := rejects second clock (.inr store)
  rw [play_executeSettled_of_check checks, play_executeSettled_of_check checks']
  exact .finished (.ok (fitting rejection other here there)) scenes

theorem play_executeLeased_restocked
    (rejects : handling.RejectsOn exchange related now one two)
    (scenes : Scene.Restocked now one two first second) :
    ((executeLeased handling exchange).play first).Alike
      (Scene.Restocked now one two) (SameResult related)
      ((executeLeased handling exchange).play second) := by
  have leased := scenes.leased exchange.fileId
  have locks : second.locks = first.locks := by rw [scenes.same]
  cases free : (first.locks.acquire exchange.fileId).1 with
  | none =>
      rw [play_executeLeased_of_held free,
        play_executeLeased_of_held (locks ▸ free)]
      exact .finished (.ok (rejects.refl _)) leased
  | some lease =>
      rw [play_executeLeased free, play_executeLeased (locks ▸ free)]
      refine (play_executeSettled_restocked rejects leased).andThen ?_
      intro _ _ _ _ results scenes
      exact .finished results (scenes.release lease)

/-- An intent that is rejected on two stores comes to the same end on both. -/
theorem play_handleIntent_restocked
    (rejects : handling.RejectsOn (versioned exchange) related now one two)
    (intent : Intent) (scenes : Scene.Restocked now one two first second) :
    ((handleIntent intent handling exchange).play first).Alike
      (Scene.Restocked now one two) (SameResult related)
      ((handleIntent intent handling exchange).play second) := by
  rw [handleIntent, Attempt.play_bind, Attempt.play_bind, Attempt.play_tell,
    Attempt.play_tell, Played.andThen_assoc, Played.andThen_assoc]
  refine (scenes.authorize intent exchange.method exchange.id
    exchange.headers).andThen ?_
  rintro verdict _ first second rfl scenes
  simp only [Played.finished_andThen, Attempt.orFailure_ok]
  split
  · exact .finished (.ok (rejects.refl _)) scenes
  · rw [executeVersioned]
    split
    · exact .finished (.ok (rejects.refl _)) scenes
    · split
      · exact play_executeLeased_restocked rejects scenes
      · exact play_executeSettled_restocked rejects scenes

end Protocol

end ResumableUpload
