import ResumableUpload.Proofs.Solo.Effects
/-!
# Handling an intent on a scene

Between the work of a handling and the answer to a request stand the host, the
version, the lease and the settling of failures.  None of them touches the
store: `Protocol.handleIntent_store` says that an intent either leaves the
store as it was, or leaves it as the work of its handling does, once all
requirements are met.
-/

namespace ResumableUpload

variable {scene : Scene}

/-! ## The host -/

namespace Scene

/-- At most the host has been told of something, and has reacted. -/
def OnlyTold (before after : Scene) : Prop :=
  ∃ hooks told, after = { before with hooks := hooks, told := told }

namespace OnlyTold

variable {before middle after : Scene}

theorem refl (scene : Scene) : OnlyTold scene scene :=
  ⟨scene.hooks, scene.told, rfl⟩

theorem trans (first : OnlyTold before middle)
    (second : OnlyTold middle after) : OnlyTold before after := by
  rcases first with ⟨_, _, rfl⟩
  rcases second with ⟨hooks, told, rfl⟩
  exact ⟨hooks, told, rfl⟩

theorem store (told : OnlyTold before after) : after.store = before.store := by
  rcases told with ⟨_, _, rfl⟩
  rfl

theorem client (told : OnlyTold before after) :
    after.client = before.client := by
  rcases told with ⟨_, _, rfl⟩
  rfl

theorem locks (told : OnlyTold before after) : after.locks = before.locks := by
  rcases told with ⟨_, _, rfl⟩
  rfl

end OnlyTold

/-- What is stored and what is still to be read are the same. -/
structure SameMatter (before after : Scene) : Prop where
  store : after.store = before.store
  body : after.client.body = before.client.body

namespace SameMatter

variable {before middle after : Scene}

theorem refl (scene : Scene) : SameMatter scene scene :=
  ⟨rfl, rfl⟩

theorem trans (first : SameMatter before middle)
    (second : SameMatter middle after) : SameMatter before after :=
  ⟨second.store.trans first.store, second.body.trans first.body⟩

end SameMatter

theorem OnlyTold.sameMatter {before after : Scene}
    (told : OnlyTold before after) : SameMatter before after :=
  ⟨told.store, congrArg Client.body told.client⟩

/-- Telling the host changes nothing else. -/
theorem tell_told (scene : Scene) (event : Event) :
    scene.OnlyTold (scene.tell event).scene := by
  rw [tell]
  split
  · exact .refl scene
  · rw [react]
    rcases scene.hooks event.hook with _ | _ | ⟨reaction, later⟩
    · exact ⟨_, _, rfl⟩
    · exact ⟨_, _, rfl⟩
    · cases reaction <;> exact ⟨_, _, rfl⟩

/-- The scene in which a lease on an upload has been granted. -/
def leased (scene : Scene) (id : String) : Scene :=
  { scene with
    locks := (scene.locks.acquire id).2
    client := { scene.client with lease := (scene.locks.acquire id).1 } }

end Scene

namespace Attempt

/-- An attempt that at most tells the host of something. -/
def OnlyTells {α : Type} (attempt : Attempt α) : Prop :=
  ∀ scene : Scene, scene.OnlyTold (attempt.play scene).scene

namespace OnlyTells

variable {α β : Type}

theorem of_asks {attempt : Attempt α} (asks : attempt.Asks) :
    attempt.OnlyTells := by
  intro scene
  rw [asks scene]
  exact .refl scene

theorem pure (value : α) : (pure value : Attempt α).OnlyTells :=
  of_asks (.pure value)

theorem tell (event : Event) : (Attempt.tell event).OnlyTells := by
  intro scene
  have told := scene.tell_told event
  rw [play_tell]
  generalize scene.tell event = played at told ⊢
  cases played <;> exact told

/-- What follows an attempt and only tells leaves what the attempt has left. -/
theorem play_bind_told {rest : α → Attempt β}
    (tells : ∀ value, (rest value).OnlyTells) (attempt : Attempt α)
    (scene : Scene) :
    (attempt.play scene).scene.OnlyTold
      ((attempt >>= rest).play scene).scene := by
  rw [play_bind]
  generalize attempt.play scene = played
  cases played with
  | finished result after =>
      cases result with
      | ok value => exact tells value after
      | error failure => exact .refl after
  | waiting after => exact .refl after
  | collapsed after => exact .refl after

theorem bind {attempt : Attempt α} {rest : α → Attempt β}
    (first : attempt.OnlyTells) (second : ∀ value, (rest value).OnlyTells) :
    (attempt >>= rest).OnlyTells :=
  fun scene => (first scene).trans (play_bind_told second attempt scene)

end OnlyTells

end Attempt

/-! ## The protocol around a handling -/

/-- Every rejection puts the blame on the request. -/
theorem Rejection.le_status (rejection : Rejection) :
    400 ≤ rejection.status := by
  cases rejection <;> exact of_decide_eq_true rfl

namespace Protocol

variable {handling : Handling} {exchange : Exchange}

/-- Where a failure becomes an answer, it is one of two. -/
theorem status_of_settle_error {failure : Failure} {done : Exchange}
    (settled : settle exchange (.error failure) = .ok done) :
    done.response.status = 400 ∨ done.response.status = 404 := by
  cases failure with
  | refused cause =>
      cases settled
      exact .inl rfl
  | missing id =>
      cases settled
      exact .inr rfl
  | _ => cases settled

theorem play_executeSettled (handling : Handling) (exchange : Exchange)
    (scene : Scene) :
    (executeSettled handling exchange).play scene
      = ((execute handling exchange).play scene).andThen fun result scene =>
          .finished (settle exchange result) scene := by
  change (settle exchange <$> (execute handling exchange).caught).play scene = _
  rw [Program.play_map]
  rfl

/-- With a lease a handling is executed, and the lease is given back. -/
theorem play_executeLeased {lease : Lease}
    (free : (scene.locks.acquire exchange.fileId).1 = some lease)
    (handling : Handling) :
    (executeLeased handling exchange).play scene
      = ((executeSettled handling exchange).play
          (scene.leased exchange.fileId)).andThen fun result scene =>
            .finished result (scene.release lease) := by
  have acquired : scene.acquire exchange.fileId
      = .finished (.ok (some lease)) (scene.leased exchange.fileId) := by
    simp only [Scene.acquire, Scene.leased, free]
  rw [executeLeased, Attempt.play_bind, Attempt.play_acquire, acquired,
    Played.finished_andThen, Attempt.orFailure_ok]
  change ((executeSettled handling exchange).caught >>= fun result =>
    Program.perform (.release lease) >>= fun _ => pure result).play _ = _
  rw [Program.play_bind]
  rfl

/-- Without a lease nothing is done. -/
theorem play_executeLeased_of_held
    (held : (scene.locks.acquire exchange.fileId).1 = none)
    (handling : Handling) :
    (executeLeased handling exchange).play scene
      = .finished (.ok (exchange.reject (.leased exchange.fileId)))
          (scene.leased exchange.fileId) := by
  have acquired : scene.acquire exchange.fileId
      = .finished (.ok none) (scene.leased exchange.fileId) := by
    simp only [Scene.acquire, Scene.leased, held]
  rw [executeLeased, Attempt.play_bind, Attempt.play_acquire, acquired]
  rfl

theorem tellCreated_onlyTells (exchange : Exchange) (id : String)
    (length : Option Nat) (complete : Bool) :
    (tellCreated exchange id length complete).OnlyTells := by
  refine .bind (.tell _) ?_
  intro verdict
  split
  · exact .pure verdict
  · exact .tell _

theorem tellOutcome_onlyTells (exchange : Exchange) (outcome : Outcome) :
    (tellOutcome exchange outcome).OnlyTells := by
  cases outcome with
  | created id length complete =>
      exact tellCreated_onlyTells exchange id length complete
  | written id complete =>
      rw [tellOutcome]
      split
      · exact .tell _
      · exact .pure _
  | deleted id => exact .tell _
  | settled => exact .pure _

theorem tellBefore_onlyTells (event? : Option Event) :
    (tellBefore event?).OnlyTells := by
  cases event? with
  | none => exact .pure _
  | some event => exact .tell event

/-- What comes of the work is told, and that is all that follows it. -/
theorem carryOut_told (handling : Handling) (exchange : Exchange)
    (scene : Scene) :
    ((handling.carryOut exchange).play scene).scene.OnlyTold
      ((carryOut handling exchange).play scene).scene := by
  refine Attempt.OnlyTells.play_bind_told ?_ (handling.carryOut exchange) scene
  rintro ⟨done, outcome⟩
  exact .bind (tellOutcome_onlyTells done outcome) fun _ => .pure _

/--
From a scene the work of a handling leaves a store: on scenes with the same
matter the requirements are met, and the work is done.
-/
def Works (handling : Handling) (exchange : Exchange) (before : Scene)
    (after : Store) : Prop :=
  ∃ checked asked later, before.SameMatter asked ∧ before.SameMatter later ∧
    (handling.check exchange).play asked
      = .finished (.ok (.ok checked)) asked ∧
    ((handling.carryOut checked).play later).scene.store = after

theorem Works.of_same {before middle : Scene} {after : Store}
    (same : before.SameMatter middle)
    (works : Works handling exchange middle after) :
    Works handling exchange before after := by
  rcases works with ⟨checked, asked, later, first, second, rest⟩
  exact ⟨checked, asked, later, same.trans first, same.trans second, rest⟩

/-- What is done once the requirements have been looked at. -/
def afterCheck (handling : Handling) (exchange : Exchange) :
    Except Rejection Exchange → Attempt Exchange
  | .error rejection => pure (exchange.reject rejection)
  | .ok checked => do
      let verdict ← tellBefore (handling.before checked)
      if verdict.failed then return checked.refuse verdict
      else carryOut handling checked

theorem play_execute (handling : Handling) (exchange : Exchange)
    (scene : Scene) :
    (execute handling exchange).play scene
      = ((handling.check exchange).play scene).andThen
          (Attempt.orFailure fun result scene =>
            (afterCheck handling exchange result).play scene) := by
  rw [execute, Attempt.play_bind]
  refine congrArg ((handling.check exchange).play scene).andThen
    (congrArg Attempt.orFailure (funext fun result => ?_))
  cases result <;> rfl

/-- A handling leaves the store as it is, or it does its work. -/
theorem execute_store (asks : (handling.check exchange).Asks)
    (scene : Scene) :
    ((execute handling exchange).play scene).scene.store = scene.store ∨
      Works handling exchange scene
        ((execute handling exchange).play scene).scene.store := by
  have same := asks scene
  rw [play_execute]
  cases checks : (handling.check exchange).play scene with
  | waiting after =>
      rw [checks] at same
      exact .inl (congrArg Scene.store same)
  | collapsed after =>
      rw [checks] at same
      exact .inl (congrArg Scene.store same)
  | finished result after =>
      rw [checks] at same
      have same : after = scene := same
      subst same
      rw [Played.finished_andThen]
      rcases result with failure | rejection | checked
      · exact .inl rfl
      · exact .inl rfl
      · rw [Attempt.orFailure_ok, afterCheck, Attempt.play_bind]
        have told := tellBefore_onlyTells (handling.before checked) after
        generalize (tellBefore (handling.before checked)).play after = played
          at told ⊢
        cases played with
        | waiting later => exact .inl told.store
        | collapsed later => exact .inl told.store
        | finished result later =>
            have told : after.OnlyTold later := told
            cases result with
            | error failure => exact .inl told.store
            | ok verdict =>
                rw [Played.finished_andThen, Attempt.orFailure_ok]
                split
                · exact .inl told.store
                · exact .inr ⟨checked, after, later, .refl after,
                    told.sameMatter, checks,
                    (carryOut_told handling checked later).store.symm⟩

theorem executeSettled_store (handling : Handling) (exchange : Exchange)
    (scene : Scene) :
    ((executeSettled handling exchange).play scene).scene.store
      = ((execute handling exchange).play scene).scene.store := by
  rw [play_executeSettled]
  cases (execute handling exchange).play scene <;> rfl

theorem executeLeased_store (asks : (handling.check exchange).Asks)
    (scene : Scene) :
    ((executeLeased handling exchange).play scene).scene.store = scene.store ∨
      Works handling exchange scene
        ((executeLeased handling exchange).play scene).scene.store := by
  cases free : (scene.locks.acquire exchange.fileId).1 with
  | none =>
      rw [play_executeLeased_of_held free]
      exact .inl rfl
  | some lease =>
      have same : scene.SameMatter (scene.leased exchange.fileId) := ⟨rfl, rfl⟩
      have executed := execute_store asks (scene.leased exchange.fileId)
      rw [← executeSettled_store] at executed
      replace executed := executed.imp_right (Works.of_same same)
      rw [play_executeLeased free]
      generalize (executeSettled handling exchange).play
        (scene.leased exchange.fileId) = played at executed ⊢
      cases played <;> exact executed

/-- The exchange once the version of the answer is known. -/
def versioned (exchange : Exchange) : Exchange :=
  exchange.answerField HeaderName.tusResumable protocolVersion

/-- A request that follows the right version is executed. -/
theorem executeVersioned_of_version
    (version : versionOf exchange = protocolVersion) (intent : Intent)
    (handling : Handling) :
    executeVersioned intent handling exchange
      = if intent.needsLease then executeLeased handling (versioned exchange)
        else executeSettled handling (versioned exchange) := by
  apply if_neg
  change ¬(intent != .options && versionOf exchange != protocolVersion) = true
  simp [version]

/-- A request that follows another version is rejected. -/
theorem executeVersioned_of_not_version (intent : Intent)
    (asks : intent ≠ .options) (version : versionOf exchange ≠ protocolVersion)
    (handling : Handling) :
    executeVersioned intent handling exchange
      = pure (((versioned exchange).answerField HeaderName.tusVersion
          protocolVersion).reject (.version (versionOf exchange))) := by
  apply if_pos
  change (intent != .options && versionOf exchange != protocolVersion) = true
  simp [asks, version]

theorem executeVersioned_store
    (asks : (handling.check (versioned exchange)).Asks) (intent : Intent)
    (scene : Scene) :
    ((executeVersioned intent handling exchange).play scene).scene.store
        = scene.store ∨
      Works handling (versioned exchange) scene
        ((executeVersioned intent handling exchange).play
          scene).scene.store := by
  rw [executeVersioned]
  split
  · exact .inl rfl
  · split
    · exact executeLeased_store asks scene
    · have executed := execute_store asks scene
      rw [← executeSettled_store] at executed
      exact executed

/-- An intent leaves the store as it was, or its handling does its work. -/
theorem handleIntent_store
    (asks : (handling.check (versioned exchange)).Asks) (intent : Intent)
    (scene : Scene) :
    ((handleIntent intent handling exchange).play scene).scene.store
        = scene.store ∨
      Works handling (versioned exchange) scene
        ((handleIntent intent handling exchange).play scene).scene.store := by
  have told := Attempt.OnlyTells.tell
    (.authorize intent exchange.method exchange.id exchange.headers) scene
  rw [handleIntent, Attempt.play_bind]
  generalize (Attempt.tell (.authorize intent exchange.method exchange.id
    exchange.headers)).play scene = played at told ⊢
  cases played with
  | waiting after => exact .inl told.store
  | collapsed after => exact .inl told.store
  | finished result after =>
      have told : scene.OnlyTold after := told
      rw [← told.store]
      cases result with
      | error failure => exact .inl rfl
      | ok verdict =>
          rw [Played.finished_andThen, Attempt.orFailure_ok]
          split
          · exact .inl rfl
          · exact (executeVersioned_store asks intent after).imp_right
              (Works.of_same told.sameMatter)

/-! ## Requests for one thing -/

/-- A request that may ask for one thing does so, or is not understood. -/
theorem intentsOf_of_primary {request : Request} {service : Service}
    {intent : Intent} (single : intent.creates = false)
    (primary : ∀ address,
      Intent.primary service.terms (request.method.effective request.headers)
          address request.headers = intent ∨
        Intent.primary service.terms (request.method.effective request.headers)
          address request.headers = .notApplicable) :
    intentsOf service request = [intent] ∨
      intentsOf service request = [.notApplicable] := by
  rw [intentsOf, Intent.ofRequest]
  split
  · exact .inr rfl
  · rcases primary (Address.ofPath service.config.urlPath request.path) with
        asked | asked
    · left
      simp only [asked, single, Bool.false_and, Bool.false_eq_true, if_false]
    · rw [asked]
      exact .inr rfl

/-- A request that is sent as a write is one, or is not understood. -/
theorem intentsOf_of_patch {request : Request}
    (method : request.method.effective request.headers = .patch)
    (service : Service) :
    intentsOf service request = [.writeFile] ∨
      intentsOf service request = [.notApplicable] := by
  apply intentsOf_of_primary rfl
  intro address
  rw [method]
  cases address with
  | upload id => exact .inl rfl
  | base | elsewhere => exact .inr rfl

/-- A request that asks how far an upload is does so, or is not understood. -/
theorem intentsOf_of_head {request : Request}
    (method : request.method.effective request.headers = .head)
    (service : Service) :
    intentsOf service request = [.fileInfo] ∨
      intentsOf service request = [.notApplicable] := by
  apply intentsOf_of_primary rfl
  intro address
  rw [method]
  cases address with
  | upload id => exact .inl rfl
  | base | elsewhere => exact .inr rfl

/-- A request for one thing is answered as that is. -/
theorem play_handle_of_single {request : Request} {intent : Intent}
    {service : Service} (asked : intentsOf service request = [intent])
    (handled : Handling.ofIntent? service intent = some handling)
    (scene : Scene) :
    (handle service request).play scene
      = ((handleIntent intent handling (.ofRequest service request)).play
          scene).andThen (Attempt.orFailure fun done after =>
            .finished (.ok (.respond done.response)) after) := by
  rw [handle, asked]
  simp only [handled]
  rw [Attempt.play_bind]
  rfl

/-- A request for one thing leaves the store as that does. -/
theorem play_handle_store_of_single {request : Request} {intent : Intent}
    {service : Service} (asked : intentsOf service request = [intent])
    (handled : Handling.ofIntent? service intent = some handling)
    (scene : Scene) :
    ((handle service request).play scene).scene.store
      = ((handleIntent intent handling (.ofRequest service request)).play
          scene).scene.store := by
  rw [play_handle_of_single asked handled]
  cases (handleIntent intent handling (.ofRequest service request)).play
      scene with
  | finished result after => cases result <;> rfl
  | waiting after | collapsed after => rfl

/-- A request that is not understood is passed on. -/
theorem play_handle_of_notApplicable {request : Request} {service : Service}
    (asked : intentsOf service request = [.notApplicable]) (scene : Scene) :
    (handle service request).play scene = .finished (.ok .passOn) scene := by
  rw [handle, asked]
  rfl

/-- A request that is sent as a write is answered as the write is. -/
theorem handle_ends_of_patch {service : Service} {request : Request}
    {response : Response} {scene after : Scene}
    (method : request.method.effective request.headers = .patch)
    (ends : (handle service request).play scene
      = .finished (.ok (.respond response)) after) :
    ∃ done, done.response = response ∧
      (handleIntent .writeFile (Handling.write service)
        (.ofRequest service request)).play scene
          = .finished (.ok done) after := by
  rcases intentsOf_of_patch method service with asked | asked
  · rw [play_handle_of_single asked rfl] at ends
    cases played : (handleIntent .writeFile (Handling.write service)
        (.ofRequest service request)).play scene with
    | waiting left | collapsed left =>
        rw [played] at ends
        cases ends
    | finished result left =>
        rw [played] at ends
        cases result with
        | error failure => cases ends
        | ok done =>
            cases ends
            exact ⟨done, rfl, rfl⟩
  · rw [play_handle_of_notApplicable asked] at ends
    cases ends

end Protocol

end ResumableUpload
