import ResumableUpload.Proofs.Solo.Noting
/-!
# What is left and what is answered

The work of each handling in full: the store it leaves, the answer it gives,
and the end of life that it gives an upload or leaves to it.  A new upload is
put into the store with the end of life that follows from the present time; a
write moves the end of life only where it is accepted and lives slide; nothing
else touches it.
-/

namespace ResumableUpload

variable {service : Service} {exchange checked : Exchange} {scene : Scene}
  {id : String} {upload : Upload}

/-! ## Lifetimes -/

namespace Lifetime

/-- How an upload that is there is given a new end of its life. -/
inductive Renewal (service : Service) (id : String) (scene : Scene) :
    Played (Except Failure (Option Instant)) → Prop where
  /-- Lives have no end. -/
  | unlimited (free : policy? service = none) :
      Renewal service id scene (.finished (.ok none) scene)
  | dated {policy : Policy} {expiry : Instant}
      (limited : policy? service = some policy)
      (dated : policy.endFrom scene.clock = .ok expiry) :
      Renewal service id scene (.finished (.ok (some expiry))
        { scene with store := scene.store.modify id (Upload.renewed expiry) })
  | endless {policy : Policy} {cause : Policy.Overflow}
      (limited : policy? service = some policy)
      (endless : policy.endFrom scene.clock = .error cause) :
      Renewal service id scene (.finished (.error (.overflow cause)) scene)
  /-- The clock shows no time. -/
  | timeless {policy : Policy} (limited : policy? service = some policy)
      (unreadable : scene.clock.isReadable = false) :
      Renewal service id scene (.collapsed scene)

theorem play_renew (service : Service) (present : scene.store.has id = true) :
    Renewal service id scene ((renew service id).play scene) := by
  rw [renew]
  cases limited : policy? service with
  | none => exact .unlimited limited
  | some policy =>
      simp only [Attempt.play_bind, Attempt.play_now]
      cases readable : scene.clock.isReadable with
      | false => exact .timeless limited readable
      | true =>
          simp only [if_true, Played.finished_andThen, Attempt.orFailure_ok]
          cases dated : policy.endFrom scene.clock with
          | error cause => exact .endless limited dated
          | ok expiry =>
              have called : (service.call (.setExpiry id expiry)).play scene
                  = .finished (.ok ()) { scene with
                      store := scene.store.modify id
                        (Upload.renewed expiry) } := by
                rw [Attempt.play_serviceCall rfl (Terms.grants_of_supports rfl
                  (supports_of_policy? limited))]
                simp [Scene.call, Call.looksAtClock, Store.answer, Store.change,
                  present]
                rfl
              simp only [Attempt.play_bind, called]
              exact .dated limited dated

/-- The end of a life as it is told: none where lives have no end. -/
theorem play_current (service : Service)
    (found : scene.store.find? id = some upload) :
    (current service id).play scene
      = .finished (.ok ((policy? service).bind fun _ => upload.expiry))
          scene := by
  rw [current]
  cases limited : policy? service with
  | none => rfl
  | some policy =>
      simp only
      rw [Attempt.play_serviceCall rfl (Terms.grants_of_supports rfl
        (supports_of_policy? limited)), Scene.call_expiry found]
      rfl

/-- Whether lives end a time after the last write. -/
def slides (service : Service) : Bool :=
  (policy? service).any Policy.isSliding

/-- How the end of a life is known after a write, and moved if lives slide. -/
inductive Sliding (service : Service) (id : String) (upload : Upload)
    (scene : Scene) : Played (Except Failure (Option Instant)) → Prop where
  /-- Lives do not slide, or have no end. -/
  | stays (stays : slides service = false) :
      Sliding service id upload scene (.finished
        (.ok ((policy? service).bind fun _ => upload.expiry)) scene)
  | moves {played : Played (Except Failure (Option Instant))}
      (slides : slides service = true)
      (renewal : Renewal service id scene played) :
      Sliding service id upload scene played

theorem policy?_eq_some_of_slides {seconds : Nat} {policy : Policy}
    (configured : service.config.expiration = some (.sliding seconds))
    (limited : policy? service = some policy) : policy = .sliding seconds := by
  rw [policy?, configured] at limited
  split at limited
  · exact (Option.some.inj limited).symm
  · cases limited

theorem play_afterWrite (service : Service)
    (found : scene.store.find? id = some upload) :
    Sliding service id upload scene ((afterWrite service id).play scene) := by
  rw [afterWrite.eq_def]
  split
  · rename_i seconds configured
    cases limited : policy? service with
    | none =>
        have stays : slides service = false := by rw [slides, limited]; rfl
        rw [renew, limited]
        have still : Sliding service id upload scene _ := .stays stays
        rw [limited] at still
        exact still
    | some policy =>
        have sliding := policy?_eq_some_of_slides configured limited
        refine .moves ?_ (play_renew service (Store.has_of_find? found))
        rw [slides, limited, sliding]
        rfl
  · rename_i fixed
    rw [play_current service found]
    refine .stays ?_
    cases configured : service.config.expiration with
    | none => rw [slides, policy?_of_unlimited configured]; rfl
    | some policy =>
        cases policy with
        | sliding seconds => exact absurd configured (fixed seconds)
        | absolute seconds =>
            rw [slides, policy?, configured]
            split <;> rfl

end Lifetime

/-! ## New uploads -/

/-- A change of the upload that was created last is a change before that. -/
theorem Store.IsNumbered.modify_insert {store : Store}
    (numbered : store.IsNumbered) (upload : Upload)
    (change : Upload → Upload) :
    (store.insert upload).2.modify (Store.idOf store.created) change
      = (store.insert (change upload)).2 := by
  have others : store.uploads.map (fun entry =>
      if entry.1 == Store.idOf store.created then (entry.1, change entry.2)
      else entry) = store.uploads := by
    refine (List.map_congr_left fun entry present => ?_).trans (List.map_id _)
    have apart : entry.1 ≠ Store.idOf store.created := by
      intro same
      have gone := numbered.not_mem_next (Nat.le_refl store.created)
      rw [← same] at gone
      exact gone (List.mem_map_of_mem present)
    simp [apart]
  simp only [Store.insert, Store.modify, List.map_append, others]
  simp

/-- A new upload has the end of life that follows from the present time. -/
structure Upload.BornAt (service : Service) (now : Instant) (upload : Upload) :
    Prop where
  unlimited : Lifetime.policy? service = none → upload.expiry = none
  joined : upload.part.isJoined = true → upload.expiry = none
  limited : ∀ policy, Lifetime.policy? service = some policy →
    upload.part.isJoined = false →
    ∃ expiry, policy.endFrom now = .ok expiry ∧ upload.expiry = some expiry

/-- What is given the end of a life that begins now is as if it was born now. -/
theorem Upload.bornAt_renewed {service : Service} {now expiry : Instant}
    {upload : Upload} {policy : Policy}
    (limited : Lifetime.policy? service = some policy)
    (dated : policy.endFrom now = .ok expiry)
    (apart : upload.part.isJoined = false) :
    (upload.renewed expiry).BornAt service now where
  unlimited free := by
    rw [free] at limited
    cases limited
  joined joined := absurd joined (ne_true_of_eq_false apart)
  limited other same _ := by
    cases limited.symm.trans same
    exact ⟨expiry, dated, rfl⟩

/-- A call that needs no clock is answered, or refused at once. -/
theorem Attempt.serviceCall_finishes {asked : Call} {means : Means}
    (needs : asked.means? = some means) (untimed : asked.looksAtClock = false)
    (service : Service) (scene : Scene) :
    ∃ result after,
      (service.call asked).play scene = .finished result after := by
  cases granted : service.terms.grants means with
  | true =>
      rw [Attempt.play_serviceCall needs granted, Scene.call, untimed,
        Bool.false_and, if_neg Bool.false_ne_true]
      exact ⟨_, _, rfl⟩
  | false =>
      rw [Attempt.play_serviceCall_of_not_granted needs granted]
      exact ⟨_, _, rfl⟩

/-- Two uploads take part alike, and their lives end alike. -/
structure Upload.LivesAs (one other : Upload) : Prop where
  expiry : one.expiry = other.expiry
  part : one.part = other.part

namespace Handling

/-- How the creation of an upload ends. -/
inductive Creation (service : Service) (checked : Exchange) (scene : Scene) :
    Played (Except Failure (Exchange × Outcome)) → Prop where
  | created {upload : Upload} {outcome : Outcome}
      (born : upload.BornAt service scene.clock) :
      Creation service checked scene (.finished
        (.ok (answerCreated service checked (Store.idOf scene.store.created)
          upload.expiry, outcome))
        { scene with store := (scene.store.insert upload).2 })
  | failed (failure : Failure) :
      Creation service checked scene (.finished (.error failure) scene)
  /-- The new upload is left without an end of its life. -/
  | endless {upload : Upload} {policy : Policy} {cause : Policy.Overflow}
      (limited : Lifetime.policy? service = some policy)
      (endless : policy.endFrom scene.clock = .error cause) :
      Creation service checked scene (.finished (.error (.overflow cause))
        { scene with store := (scene.store.insert upload).2 })
  | timeless {upload : Upload} {policy : Policy}
      (limited : Lifetime.policy? service = some policy)
      (unreadable : scene.clock.isReadable = false) :
      Creation service checked scene
        (.collapsed { scene with store := (scene.store.insert upload).2 })

/-- How an upload is put into the store and given the end of its life. -/
inductive Birth (service : Service) (upload : Upload) (scene : Scene)
    (answer : Option Instant → Exchange × Outcome) :
    Played (Except Failure (Exchange × Outcome)) → Prop where
  | failed (failure : Failure) :
      Birth service upload scene answer (.finished (.error failure) scene)
  | unlimited (free : Lifetime.policy? service = none) :
      Birth service upload scene answer (.finished (.ok (answer none))
        { scene with store := (scene.store.insert upload).2 })
  | dated {policy : Policy} {expiry : Instant}
      (limited : Lifetime.policy? service = some policy)
      (dated : policy.endFrom scene.clock = .ok expiry) :
      Birth service upload scene answer (.finished (.ok (answer (some expiry)))
        { scene with store := (scene.store.insert (upload.renewed expiry)).2 })
  | endless {policy : Policy} {cause : Policy.Overflow}
      (limited : Lifetime.policy? service = some policy)
      (endless : policy.endFrom scene.clock = .error cause) :
      Birth service upload scene answer (.finished (.error (.overflow cause))
        { scene with store := (scene.store.insert upload).2 })
  | timeless {policy : Policy}
      (limited : Lifetime.policy? service = some policy)
      (unreadable : scene.clock.isReadable = false) :
      Birth service upload scene answer
        (.collapsed { scene with store := (scene.store.insert upload).2 })

/-- An attempt that ends and has put an upload into the store, or nothing. -/
theorem play_newUpload {attempt : Attempt String}
    (answer : String → Option Instant → Exchange × Outcome)
    (numbered : scene.store.IsNumbered)
    (inserts : attempt.Inserts upload scene)
    (ends : ∃ result after, attempt.play scene = .finished result after) :
    Birth service upload scene (answer (Store.idOf scene.store.created)) ((do
      let id ← attempt
      let expiry ← Lifetime.renew service id
      return answer id expiry).play scene) := by
  obtain ⟨result, after, ends⟩ := ends
  rw [Attempt.play_bind, ends]
  rcases inserts _ _ ends with ⟨failure, rfl, rfl⟩ | ⟨rfl, rfl⟩
  · exact .failed failure
  · have found := (find?_inserted numbered upload).1
    rw [Played.finished_andThen, Attempt.orFailure_ok, Attempt.play_bind]
    have renewal : Lifetime.Renewal service (Store.idOf scene.store.created)
        { scene with store := (scene.store.insert upload).2 } _ :=
      Lifetime.play_renew service (Store.has_of_find? found)
    generalize (Lifetime.renew service (Store.idOf scene.store.created)).play
      { scene with store := (scene.store.insert upload).2 } = played
      at renewal ⊢
    cases renewal with
    | unlimited free => exact .unlimited free
    | @dated policy expiry limited dated =>
        rw [numbered.modify_insert upload (Upload.renewed expiry)]
        exact .dated limited dated
    | endless limited endless => exact .endless limited endless
    | timeless limited unreadable => exact .timeless limited unreadable

/-- Where the upload of a creation comes from. -/
inductive Origin (service : Service) (checked : Exchange) (scene : Scene) :
    Played (Except Failure (Exchange × Outcome)) → Prop where
  /-- It is new and empty.  A piece is never said to be complete. -/
  | born {upload : Upload} {length : Option Nat} {complete : Bool}
      {played : Played (Except Failure (Exchange × Outcome))}
      (empty : upload.content = []) (immortal : upload.expiry = none)
      (declared : upload.metadata = checked.declared.metadataText)
      (apart : upload.part.isJoined = false)
      (whole : complete = true → upload.part ≠ .piece)
      (birth : Birth service upload scene (fun expiry =>
        (answerCreated service checked (Store.idOf scene.store.created) expiry,
          .created (Store.idOf scene.store.created) length complete)) played) :
      Origin service checked scene played
  /-- It is joined from others. -/
  | joined (ids : List String) (content : Bytes) :
      Origin service checked scene (.finished
        (.ok (answerCreated service checked (Store.idOf scene.store.created)
          none, .created (Store.idOf scene.store.created)
            (some content.length) true))
        { scene with
          store := (scene.store.insert (.joining ids
            checked.declared.metadataText content)).2 })
  | failed (failure : Failure) :
      Origin service checked scene (.finished (.error failure) scene)

/-- The creation of an upload that joins others fails at once or is done. -/
theorem play_createJoined_cases (service : Service)
    (numbered : scene.store.IsNumbered) (checked : Exchange)
    (ids : List String) :
    (∃ failure, (createJoined service checked ids).play scene
      = .finished (.error failure) scene) ∨
    ∃ content : Bytes, (createJoined service checked ids).play scene = .finished
      (.ok (answerCreated service checked (Store.idOf scene.store.created)
        none, .created (Store.idOf scene.store.created)
          (some content.length) true))
      { scene with
        store := (scene.store.insert (.joining ids
          checked.declared.metadataText content)).2 } := by
  obtain ⟨content, inserts⟩ := Attempt.Inserts.createJoined service ids
    checked.declared.metadataText scene
  have made : Call.means? (.createJoined ids checked.declared.metadataText)
      = some .concatenation := rfl
  obtain ⟨result, after, ends⟩ := Attempt.serviceCall_finishes made rfl service
    scene
  rw [createJoined, Attempt.play_bind, ends]
  rcases inserts _ _ ends with ⟨failure, rfl, rfl⟩ | ⟨rfl, rfl⟩
  · exact Or.inl ⟨failure, rfl⟩
  · have found : Store.find? { scene with
        store := (scene.store.insert (.joining ids
          checked.declared.metadataText content)).2 }.store
        (Store.idOf scene.store.created) = some _ :=
      (find?_inserted numbered _).1
    rw [Played.finished_andThen, Attempt.orFailure_ok,
      Attempt.play_call_bind (Scene.call_length found)]
    exact Or.inr ⟨content, rfl⟩

theorem createJoined_origin (numbered : scene.store.IsNumbered)
    (ids : List String) :
    Origin service checked scene
      ((createJoined service checked ids).play scene) := by
  rcases play_createJoined_cases service numbered checked ids with
    ⟨failure, fails⟩ | ⟨content, joins⟩
  · rw [fails]
    exact .failed failure
  · rw [joins]
    exact .joined ids content

/-- The creation of an upload that stands by itself. -/
theorem create_birth (numbered : scene.store.IsNumbered) (checked : Exchange) :
    Birth service
      { length := checked.newLength, metadata := checked.declared.metadataText }
      scene (fun expiry =>
        (answerCreated service checked (Store.idOf scene.store.created) expiry,
          .created (Store.idOf scene.store.created) checked.newLength
            (checked.newLength == some 0)))
      (((create service).carryOut checked).play scene) :=
  have made : Call.means? (.create checked.newLength
      checked.declared.metadataText) = some .creation := rfl
  play_newUpload (fun id expiry => (answerCreated service checked id expiry,
      .created id checked.newLength (checked.newLength == some 0)))
    numbered (.create service checked.newLength checked.declared.metadataText
      scene) (Attempt.serviceCall_finishes made rfl service scene)

/-- The creation of an upload that is to be joined with others. -/
theorem createPiece_birth (numbered : scene.store.IsNumbered)
    (checked : Exchange) :
    Birth service
      { length := checked.newLength, metadata := checked.declared.metadataText,
        part := .piece }
      scene (fun expiry =>
        (answerCreated service checked (Store.idOf scene.store.created) expiry,
          .created (Store.idOf scene.store.created) checked.newLength false))
      ((createPiece service checked).play scene) :=
  have made : Call.means? (.createPiece checked.newLength
      checked.declared.metadataText) = some .concatenation := rfl
  play_newUpload (fun id expiry => (answerCreated service checked id expiry,
      .created id checked.newLength false))
    numbered (.createPiece service checked.newLength
      checked.declared.metadataText scene)
    (Attempt.serviceCall_finishes made rfl service scene)

theorem carryOut_origin {intent : Intent} {handling : Handling}
    (creates : intent.creates = true)
    (handled : ofIntent? service intent = some handling)
    (numbered : scene.store.IsNumbered) (checked : Exchange) :
    Origin service checked scene ((handling.carryOut checked).play scene) := by
  have pieced : Origin service checked scene
      ((createPiece service checked).play scene) :=
    .born rfl rfl rfl rfl (by rintro ⟨⟩) (createPiece_birth numbered checked)
  cases intent with
  | createFile =>
      cases handled
      exact .born rfl rfl rfl rfl (by rintro _ ⟨⟩)
        (create_birth numbered checked)
  | concatenate =>
      cases handled
      rw [concatenate]
      simp only
      cases checked.part with
      | joined ids => exact createJoined_origin numbered ids
      | piece | whole => exact pieced
  | _ => cases creates

/-- What creates, creates an upload with the end of life that it is due. -/
theorem carryOut_creation {intent : Intent} {handling : Handling}
    (creates : intent.creates = true)
    (handled : ofIntent? service intent = some handling)
    (numbered : scene.store.IsNumbered) (checked : Exchange) :
    Creation service checked scene
      ((handling.carryOut checked).play scene) := by
  have origin := carryOut_origin creates handled numbered checked
  generalize (handling.carryOut checked).play scene = played at origin ⊢
  cases origin with
  | failed failure => exact .failed failure
  | joined ids content =>
      refine @Creation.created service checked scene
        (.joining ids checked.declared.metadataText content) _ ?_
      exact ⟨fun _ => rfl, fun _ => rfl, fun _ _ apart => by cases apart⟩
  | @born upload length complete _ empty immortal declared apart whole birth =>
      cases birth with
      | failed failure => exact .failed failure
      | unlimited free =>
          have born : upload.BornAt service scene.clock :=
            { unlimited := fun _ => immortal
              joined := fun _ => immortal
              limited := fun policy limited _ => by
                rw [free] at limited
                cases limited }
          have created : Creation service checked scene _ :=
            @Creation.created service checked scene upload
              (.created (Store.idOf scene.store.created) length complete) born
          rw [immortal] at created
          exact created
      | @dated policy expiry limited dated =>
          exact @Creation.created service checked scene
            (upload.renewed expiry)
            (.created (Store.idOf scene.store.created) length complete)
            (Upload.bornAt_renewed limited dated apart)
      | endless limited endless => exact .endless limited endless
      | timeless limited unreadable => exact .timeless limited unreadable

/-- What a creation puts into the store, and what it calls complete. -/
inductive Begins (checked : Exchange) (scene : Scene)
    (played : Played (Except Failure (Exchange × Outcome))) : Prop where
  | nothing (same : played.scene.store = scene.store)
      (fails : ∀ value after, played ≠ .finished (.ok value) after)
  | upload {upload : Upload}
      (declared : upload.metadata = checked.declared.metadataText)
      (left : played.scene.store = (scene.store.insert upload).2)
      (calls : ∀ done outcome after,
        played = .finished (.ok (done, outcome)) after →
        ∀ id, outcome.completed? = some id →
          id = Store.idOf scene.store.created ∧ upload.part ≠ .piece)

/-- An upload is called complete as the outcome of its creation says. -/
theorem calls_of_created {done : Exchange} {length : Option Nat}
    {complete : Bool} (whole : complete = true → upload.part ≠ .piece)
    (next : String) (after : Scene) :
    ∀ given outcome last, Played.finished (.ok (done,
          Outcome.created next length complete) :
            Except Failure (Exchange × Outcome)) after
          = .finished (.ok (given, outcome)) last →
      ∀ id, outcome.completed? = some id →
        id = next ∧ upload.part ≠ .piece := by
  rintro given outcome last ⟨⟩ id called
  rw [Outcome.completed?] at called
  split at called
  · exact ⟨(Option.some.inj called).symm, whole ‹_›⟩
  · cases called

/-- What creates has put nothing into the store, or what was declared. -/
theorem carryOut_begins {intent : Intent} {handling : Handling}
    (creates : intent.creates = true)
    (handled : ofIntent? service intent = some handling)
    (numbered : scene.store.IsNumbered) (checked : Exchange) :
    Begins checked scene ((handling.carryOut checked).play scene) := by
  have origin := carryOut_origin creates handled numbered checked
  generalize (handling.carryOut checked).play scene = played at origin ⊢
  cases origin with
  | failed failure => exact .nothing rfl (by rintro _ _ ⟨⟩)
  | joined ids content =>
      have joined : true = true → (Upload.joining ids
          checked.declared.metadataText content).part ≠ .piece := nofun
      exact .upload rfl rfl (calls_of_created joined _ _)
  | @born upload length complete _ empty immortal declared apart whole birth =>
      cases birth with
      | failed failure => exact .nothing rfl (by rintro _ _ ⟨⟩)
      | unlimited free =>
          exact .upload declared rfl (calls_of_created whole _ _)
      | @dated policy expiry limited dated =>
          have declared : (upload.renewed expiry).metadata
            = checked.declared.metadataText := declared
          have whole : complete = true →
            (upload.renewed expiry).part ≠ .piece := whole
          exact .upload declared rfl (calls_of_created whole _ _)
      | endless limited endless =>
          exact .upload declared rfl (by rintro _ _ _ ⟨⟩)
      | timeless limited unreadable =>
          exact .upload declared rfl (by rintro _ _ _ ⟨⟩)

/-! ## Writes -/

/-- The answer to a write, given where the upload ends and its life ends. -/
def written (checked : Exchange) (offset : Nat) (expiry : Option Instant) :
    Exchange :=
  ((checked.answerStatus 204).answerField HeaderName.uploadOffset
    (toString offset)).answerFieldIf HeaderName.uploadExpires
      (expiry.map Instant.headerText)

/-- How an accepted write is answered. -/
inductive Acceptance (service : Service) (checked : Exchange) (upload : Upload)
    (scene : Scene) : Played (Except Failure (Exchange × Outcome)) → Prop where
  /-- The end of life stays, and is told where there is a policy. -/
  | stays {outcome : Outcome} (stays : Lifetime.slides service = false) :
      Acceptance service checked upload scene (.finished
        (.ok (written checked upload.offset
          ((Lifetime.policy? service).bind fun _ => upload.expiry), outcome))
        scene)
  | moves {policy : Policy} {expiry : Instant} {outcome : Outcome}
      (slides : Lifetime.slides service = true)
      (limited : Lifetime.policy? service = some policy)
      (dated : policy.endFrom scene.clock = .ok expiry) :
      Acceptance service checked upload scene (.finished
        (.ok (written checked upload.offset (some expiry), outcome))
        { scene with
          store := scene.store.modify checked.fileId (Upload.renewed expiry) })
  | endless {policy : Policy} {cause : Policy.Overflow}
      (limited : Lifetime.policy? service = some policy)
      (endless : policy.endFrom scene.clock = .error cause) :
      Acceptance service checked upload scene
        (.finished (.error (.overflow cause)) scene)
  | timeless {policy : Policy}
      (limited : Lifetime.policy? service = some policy)
      (unreadable : scene.clock.isReadable = false) :
      Acceptance service checked upload scene (.collapsed scene)

theorem play_answerWritten_acceptance
    (found : scene.store.find? checked.fileId = some upload) :
    Acceptance service checked upload scene
      ((answerWritten service checked).play scene) := by
  have sliding := Lifetime.play_afterWrite service found
  rw [answerWritten, Attempt.play_bind]
  generalize (Lifetime.afterWrite service checked.fileId).play scene = played
    at sliding ⊢
  cases sliding with
  | stays stays =>
      rw [Played.finished_andThen, Attempt.orFailure_ok,
        Attempt.play_call_bind (Scene.call_offset found),
        Attempt.play_call_bind (Scene.call_length found)]
      exact .stays stays
  | moves slides renewal =>
      cases renewal with
      | unlimited free =>
          rw [Lifetime.slides, free] at slides
          cases slides
      | @dated policy expiry limited dated =>
          have renewed : Scene.Rewrites checked.fileId (upload.renewed expiry)
              scene _ :=
            .modify found (Upload.renewed expiry)
          have there := renewed.found
          rw [Played.finished_andThen, Attempt.orFailure_ok,
            Attempt.play_call_bind (Scene.call_offset there),
            Attempt.play_call_bind (Scene.call_length there)]
          exact .moves slides limited dated
      | endless limited endless => exact .endless limited endless
      | timeless limited unreadable => exact .timeless limited unreadable

/--
The course of a write whose requirements are met.  Until it is accepted the
upload keeps the end of its life.
-/
inductive Writing (service : Service) (checked : Exchange) (upload : Upload)
    (scene : Scene) : Played (Except Failure (Exchange × Outcome)) → Prop where
  | accepted {received : Upload} {middle : Scene}
      {played : Played (Except Failure (Exchange × Outcome))}
      (lasting : received.LivesAs upload)
      (rewrites : scene.Rewrites checked.fileId received middle)
      (accepts : Acceptance service checked received middle played) :
      Writing service checked upload scene played
  | mismatched {received : Upload} {after : Scene}
      (lasting : received.LivesAs upload)
      (rewrites : scene.Rewrites checked.fileId received after) :
      Writing service checked upload scene (.finished
        (.ok (checked.reject .checksumMismatch, .settled)) after)
  /-- It is refused, or does not come to an end. -/
  | broken {received : Upload}
      {played : Played (Except Failure (Exchange × Outcome))}
      (lasting : received.LivesAs upload)
      (rewrites : scene.Rewrites checked.fileId received played.scene)
      (fails : ∀ value after, played ≠ .finished (.ok value) after) :
      Writing service checked upload scene played

theorem write_carryOut_writing
    (found : scene.store.find? checked.fileId = some upload)
    (may : MayWrite service exchange checked upload)
    (unchecked : IsUnchecked exchange) :
    Writing service checked upload scene
      (((write service).carryOut checked).play scene) := by
  rcases play_write found may unchecked.length unchecked.pledge with
      ⟨kept, -, -, course⟩
  generalize ((write service).carryOut checked).play scene = played
    at course ⊢
  have lasts (content : Bytes) (chunkStart : Option Nat) :
      Upload.LivesAs { upload.fixedBy checked with
        content := content
        chunkStart := chunkStart } upload :=
    ⟨rfl, rfl⟩
  cases course with
  | broken rewrites breaks =>
      refine .broken (lasts _ _) rewrites ?_
      intro value after ends
      rcases breaks _ _ ends with ⟨excess, contrary⟩
      cases contrary
  | mismatched rewrites => exact .mismatched (lasts _ _) rewrites
  | answered chunkStart rewrites vouched =>
      exact .accepted (lasts _ _) rewrites
        (play_answerWritten_acceptance rewrites.found)

/-! ## Questions and deletions -/

/-- Who asks how far an upload is is told what is stored of it. -/
theorem play_info (service : Service)
    (found : scene.store.find? checked.fileId = some upload) :
    ∃ part, (service.terms.supports .concatenation = true →
        part = upload.part) ∧
      ((info service).carryOut checked).play scene
        = .finished (.ok (answerInfo service checked upload.length upload.offset
            upload.metadata part
            ((Lifetime.policy? service).bind fun _ => upload.expiry), .settled))
            scene := by
  have described : scene.call (.metadata checked.fileId)
      = .finished (.ok upload.metadata) scene := by
    simp [Scene.call, Call.looksAtClock, Store.answer, Store.ask, found]
  obtain ⟨part, same, parted⟩ : ∃ part,
      (service.terms.supports .concatenation = true → part = upload.part) ∧
        (Requirement.partOf service checked.fileId).play scene
          = .finished (.ok part) scene := by
    rw [Requirement.partOf]
    cases supported : service.terms.supports .concatenation with
    | false =>
        exact ⟨.whole, fun contrary => absurd contrary Bool.false_ne_true, rfl⟩
    | true =>
        rw [if_pos rfl, Attempt.play_serviceCall rfl
          (Terms.grants_of_supports rfl supported), Scene.call_part found]
        exact ⟨_, fun _ => rfl, rfl⟩
  refine ⟨part, same, ?_⟩
  rw [info]
  simp only
  rw [Attempt.play_call_bind (Scene.call_length found),
    Attempt.play_call_bind (Scene.call_offset found),
    Attempt.play_call_bind described, Attempt.play_bind, parted,
    Played.finished_andThen, Attempt.orFailure_ok, Attempt.play_bind,
    Lifetime.play_current service found]
  rfl

/-- A deletion at most takes away the upload that is named. -/
theorem delete_store (service : Service) (checked : Exchange) (scene : Scene) :
    (((delete service).carryOut checked).play scene).scene.store
        = scene.store ∨
      (((delete service).carryOut checked).play scene).scene.store
        = scene.store.erase checked.fileId := by
  have told := Attempt.OnlyTells.play_bind_told (fun _ => .pure
    (checked.answerStatus 204, Outcome.deleted checked.fileId))
    (service.call (.delete checked.fileId)) scene
  change Scene.store (Played.scene (Attempt.play
      (service.call (.delete checked.fileId) >>= _) scene)) = _ ∨
    Scene.store (Played.scene (Attempt.play
      (service.call (.delete checked.fileId) >>= _) scene)) = _
  rw [told.store]
  cases granted : service.terms.grants .termination with
  | false =>
      rw [Attempt.play_serviceCall_of_not_granted rfl granted]
      exact .inl rfl
  | true =>
      have answered : (scene.call (.delete checked.fileId)).scene.store
          = (if scene.store.has checked.fileId
              then (.ok (), scene.store.erase checked.fileId)
              else (.error (.missing checked.fileId), scene.store) :
              Except Failure Unit × Store).2 := rfl
      rw [Attempt.play_serviceCall rfl granted, answered]
      split
      · exact .inr rfl
      · exact .inl rfl

end Handling

/-! ## Writes as a whole -/

/-- Where the ids are the same, what was found is still to be found. -/
theorem Store.exists_find?_of_ids {before after : Store}
    (same : after.ids = before.ids) (found : before.find? id = some upload) :
    ∃ other, after.find? id = some other :=
  exists_find?_of_mem_ids (same ▸ mem_ids_of_find? found)

/-- A write alters the upload that it is about, whatever comes of it. -/
theorem Protocol.handleIntent_write_alters
    (unchecked : Handling.IsUnchecked exchange) (service : Service)
    (scene : Scene) :
    scene.store.AltersAt exchange.fileId
      ((handleIntent .writeFile (.write service) exchange).play
        scene).scene.store := by
  have handled : Handling.ofIntent? service .writeFile
      = some (.write service) := rfl
  rcases handleIntent_store (Handling.asks_check handled (versioned exchange))
      .writeFile scene with
      same | ⟨checked, asked, later, first, second, checks, left⟩
  · rw [same]
    exact .refl _ _
  · obtain ⟨upload, found, may⟩ := Handling.write_check_ends_well checks
    have about : checked.fileId = exchange.fileId := may.fileId
    rw [← may.fileId, first.store, ← second.store] at found
    obtain ⟨written, -, -, -, rewrites, -⟩ := Handling.write_carryOut_spec found
      may unchecked.versioned.length unchecked.versioned.pledge
    rw [← left, ← about, ← second.store]
    exact rewrites.alters

end ResumableUpload
