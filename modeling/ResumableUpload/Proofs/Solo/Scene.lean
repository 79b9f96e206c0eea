import ResumableUpload.Proofs.Solo.Visit
/-!
# Scenes

A server on which nobody waits, whose store and lock table never fail, answers
a request in a simple way: no call has to queue for a record, and what its log
tells of calls has no influence on anything.  A scene keeps what matters to a
request then: the store, the leases, the reactions of the host that are still to
come, what the host has been told, the client, and the news that will reach it.

`Program.play` runs a program on a scene.  It is the second definition of what
a program does; that it agrees with the first one on quiet servers is proved in
the module on depiction.  An action that only asks leaves a scene as it is, so
that a list of requirements is, on a scene, a plain function.
-/

namespace ResumableUpload

/-- What a request sees of a quiet server, and what it may change there. -/
structure Scene where
  /-- The configuration and the means of the store. -/
  service : Service
  /-- The sizes that govern copies to the store. -/
  settings : BufferSettings
  /-- The present time. -/
  clock : Instant
  /-- The store. -/
  store : Store
  /-- The leases in force. -/
  locks : LockTable
  /-- How the host will react at each point. -/
  hooks : Hook → Option (List Reaction)
  /-- What the host was told, and what it read back then, the last first. -/
  told : List (Event × Except Failure (Option StoredFile))
  /-- The client. -/
  client : Client
  /-- The news that have not reached the client. -/
  news : List News

/-- How far a program has come on a scene. -/
inductive Played (α : Type) where
  /-- It has ended in a value. -/
  | finished (value : α) (scene : Scene)
  /-- It waits, and there are no more news. -/
  | waiting (scene : Scene)
  /-- The host has broken off. -/
  | collapsed (scene : Scene)

namespace Played

variable {α β γ : Type}

/-- The scene in the end. -/
def scene : Played α → Scene
  | .finished _ scene | .waiting scene | .collapsed scene => scene

/-- Goes on with something else, if the program has ended. -/
def andThen (played : Played α) (rest : α → Scene → Played β) : Played β :=
  match played with
  | .finished value scene => rest value scene
  | .waiting scene => .waiting scene
  | .collapsed scene => .collapsed scene

@[simp]
theorem finished_andThen (value : α) (scene : Scene)
    (rest : α → Scene → Played β) :
    (Played.finished value scene).andThen rest = rest value scene :=
  rfl

@[simp]
theorem collapsed_andThen (scene : Scene) (rest : α → Scene → Played β) :
    (Played.collapsed scene).andThen rest = .collapsed scene :=
  rfl

theorem andThen_finished (played : Played α) :
    played.andThen .finished = played := by
  cases played <;> rfl

theorem andThen_assoc (played : Played α) (first : α → Scene → Played β)
    (second : β → Scene → Played γ) :
    (played.andThen first).andThen second
      = played.andThen fun value scene =>
          (first value scene).andThen second := by
  cases played <;> rfl

/-- What has ended in two steps has ended in each of them. -/
theorem andThen_ends {played : Played α}
    {rest : α → Scene → Played β} {value : β} {after : Scene}
    (ends : played.andThen rest = .finished value after) :
    ∃ first middle, played = .finished first middle ∧
      rest first middle = .finished value after := by
  cases played with
  | finished first middle => exact ⟨first, middle, rfl, ends⟩
  | waiting middle | collapsed middle => cases ends

end Played

/--
The fields after the body as they are known to a client: none if there will be
none or the request is cancelled, and unknown as long as they may arrive.
-/
def Client.heard? (client : Client) : Option (Option Headers) :=
  if client.cancelled then some none
  else
    match client.trailers with
    | .awaited => none
    | .arrived headers => some (some headers)
    | .absent | .lost => some none

namespace Scene

/-- The scene in which the next news have reached the client. -/
def hear (scene : Scene) (first : News) (later : List News) : Scene :=
  { scene with client := first.reach scene.client, news := later }

/-- The scene after a stretch of an append to an upload. -/
def afterStretch (scene : Scene) (id : String) (progress : AppendProgress) :
    Scene :=
  { scene with
    store := scene.store.modify id fun upload =>
      { upload with content := progress.appending.content }
    client :=
      { scene.client with
        body := progress.rest
        mayPass := false
        cancelled := progress.cancelled } }

/-- Goes on with an append until it ends, whatever news that takes. -/
def advanceAppend (scene : Scene) (id : String) (appending : Appending)
    (news : List News) : Played (Except Failure Nat) :=
  let progress :=
    appending.advance scene.client.readable scene.client.cancelled
  let scene := { scene.afterStretch id progress with news := news }
  match progress.result with
  | some result => .finished result scene
  | none =>
      match news with
      | [] => .waiting scene
      | first :: later =>
          (scene.hear first later).advanceAppend id progress.appending later

/-- Appends the body of the request to an upload. -/
def append (scene : Scene) (id : String) (route : Route) :
    Played (Except Failure Nat) :=
  match scene.store.find? id with
  | none => .finished (.error (.missing id)) scene
  | some upload =>
      let begun :=
        { scene with store := scene.store.modify id Upload.beginChunk }
      match Appending.begin? scene.settings route upload with
      | some appending => begun.advanceAppend id appending scene.news
      | none => .collapsed begun

/-- Waits for the fields after the body. -/
def hearTrailers (scene : Scene) (news : List News) :
    Played (Option Headers) :=
  let scene := { scene with news := news }
  match scene.client.heard? with
  | some heard => .finished heard scene
  | none =>
      match news with
      | [] => .waiting scene
      | first :: later => (scene.hear first later).hearTrailers later

/-- What the host reads back when it is told of an event. -/
def fileFor (scene : Scene) : Event → Except Failure (Option StoredFile)
  | .fileComplete id =>
      if scene.service.terms.grants .readable then
        (scene.store.answer scene.clock (.read id)).1
      else .error (.unsupported .readable)
  | _ => .ok none

/-- The host reacts to an event. -/
def react (scene : Scene) (event : Event) : Played Verdict :=
  let told :=
    { scene with told := (event, scene.fileFor event) :: scene.told }
  match scene.hooks event.hook with
  | none | some [] => .finished .proceed told
  | some (reaction :: later) =>
      let after :=
        { told with
          hooks := fun other =>
            if other = event.hook then some later else scene.hooks other }
      match reaction with
      | .verdict verdict => .finished verdict after
      | .collapse => .collapsed after

/-- Tells the host, if it watches. -/
def tell (scene : Scene) (event : Event) : Played Verdict :=
  if (scene.hooks event.hook).isNone then .finished .proceed scene
  else scene.react event

/-- Asks for a lease. -/
def acquire (scene : Scene) (id : String) :
    Played (Except Failure (Option Lease)) :=
  let (lease, locks) := scene.locks.acquire id
  .finished (.ok lease)
    { scene with
      locks := locks
      client := { scene.client with lease := lease } }

/-- Gives a lease back. -/
def release (scene : Scene) (lease : Lease) : Scene :=
  { scene with
    locks := scene.locks.release lease
    client := { scene.client with lease := none } }

/-- Calls the store. -/
def call (scene : Scene) (asked : Call) :
    Played (Except Failure asked.Reply) :=
  if asked.looksAtClock && !scene.clock.isReadable then .collapsed scene
  else
    let (reply, store) := scene.store.answer scene.clock asked
    .finished reply { scene with store := store }

/--
Performs an action.  Going on with what somebody else has begun is waiting for
a turn that never comes.
-/
def perform (scene : Scene) : (action : Action) → Played action.Reply
  | .acquire id => scene.acquire id
  | .release lease => .finished () (scene.release lease)
  | .call asked => scene.call asked
  | .append id route => scene.append id route
  | .trailers => scene.hearTrailers scene.news
  | .clock =>
      if scene.clock.isReadable then .finished scene.clock scene
      else .collapsed scene
  | .tell event => scene.tell event
  | .goOn _ =>
      .waiting
        { scene with
          client := scene.news.foldl (fun client news => news.reach client)
            scene.client
          news := [] }

end Scene

namespace Program

variable {α β : Type}

/-- Runs a program on a scene. -/
def play (program : Program α) (scene : Scene) : Played α :=
  match program with
  | .done value => .finished value scene
  | .act action next =>
      (scene.perform action).andThen fun reply scene => (next reply).play scene

@[simp]
theorem play_pure (value : α) (scene : Scene) :
    (pure value : Program α).play scene = .finished value scene :=
  rfl

@[simp]
theorem play_perform (action : Action) (scene : Scene) :
    (Program.perform action).play scene = scene.perform action := by
  rw [perform, play]
  cases scene.perform action <;> rfl

theorem play_bind (program : Program α) (rest : α → Program β)
    (scene : Scene) :
    (program >>= rest).play scene
      = (program.play scene).andThen fun value scene =>
          (rest value).play scene := by
  change (program.bind rest).play scene = _
  induction program generalizing scene with
  | done value => rfl
  | act action next hypothesis =>
      rw [act_bind, play, play, Played.andThen_assoc]
      exact congrArg (scene.perform action).andThen
        (funext fun reply => funext fun scene => hypothesis reply scene)

@[simp]
theorem play_map (program : Program α) (change : α → β) (scene : Scene) :
    (change <$> program).play scene
      = (program.play scene).andThen fun value scene =>
          .finished (change value) scene := by
  rw [map_eq_pure_bind, play_bind]
  rfl

end Program

/-! ## What stays as it is -/

/-- What every action keeps is kept to the end of a program. -/
theorem Program.play_keeps {α : Type} {keeps : Scene → Prop}
    (step : ∀ scene action, keeps scene → keeps (scene.perform action).scene)
    (program : Program α) {scene : Scene} (before : keeps scene) :
    keeps (program.play scene).scene := by
  induction program generalizing scene with
  | done value => exact before
  | act action next hypothesis =>
      have performed := step scene action before
      rw [play]
      generalize scene.perform action = played at performed ⊢
      cases played with
      | finished reply after => exact hypothesis reply performed
      | waiting after => exact performed
      | collapsed after => exact performed

namespace Scene

section Keeps

variable {keeps : Scene → Prop}

/--
What every stretch of an append keeps, and what news keep, is kept by the
append as a whole.
-/
theorem advanceAppend_keeps (id : String)
    (stretch : ∀ scene appending news, keeps scene →
      keeps { scene.afterStretch id (Appending.advance appending
        scene.client.readable scene.client.cancelled) with news := news })
    (hear : ∀ scene first later, keeps scene → keeps (scene.hear first later))
    (appending : Appending) (news : List News) {scene : Scene}
    (before : keeps scene) :
    keeps (scene.advanceAppend id appending news).scene := by
  -- An append goes on with each of the news, from wherever it is by then.
  induction news generalizing scene appending with
  | nil =>
      have stretched := stretch scene appending [] before
      rw [advanceAppend]
      simp only
      cases (appending.advance scene.client.readable
        scene.client.cancelled).result <;> exact stretched
  | cons first later hypothesis =>
      have stretched := stretch scene appending (first :: later) before
      rw [advanceAppend]
      simp only
      cases (appending.advance scene.client.readable
          scene.client.cancelled).result with
      | some result => exact stretched
      | none => exact hypothesis _ (hear _ first later stretched)

/-- The same for an append from its beginning. -/
theorem append_keeps (id : String)
    (start : ∀ scene, keeps scene →
      keeps { scene with store := scene.store.modify id Upload.beginChunk })
    (stretch : ∀ scene appending news, keeps scene →
      keeps { scene.afterStretch id (Appending.advance appending
        scene.client.readable scene.client.cancelled) with news := news })
    (hear : ∀ scene first later, keeps scene → keeps (scene.hear first later))
    (route : Route) {scene : Scene} (before : keeps scene) :
    keeps (scene.append id route).scene := by
  rw [append]
  cases scene.store.find? id with
  | none => exact before
  | some upload =>
      have begun := start scene before
      simp only
      cases Appending.begin? scene.settings route upload with
      | none => exact begun
      | some appending =>
          exact advanceAppend_keeps id stretch hear appending scene.news begun

/-- What news keep is kept while the fields after the body are waited for. -/
theorem hearTrailers_keeps
    (late : ∀ scene news, keeps scene → keeps { scene with news := news })
    (hear : ∀ scene first later, keeps scene → keeps (scene.hear first later))
    (news : List News) {scene : Scene} (before : keeps scene) :
    keeps (scene.hearTrailers news).scene := by
  induction news generalizing scene with
  | nil =>
      have still := late scene [] before
      rw [hearTrailers]
      simp only
      cases scene.client.heard? <;> exact still
  | cons first later hypothesis =>
      have still := late scene (first :: later) before
      rw [hearTrailers]
      simp only
      cases scene.client.heard? with
      | some heard => exact still
      | none => exact hypothesis (hear _ first later still)

end Keeps

/--
All but the store, the news and what the client has sent is the same.  So it is
after everything that has to do with uploads.
-/
structure SameHost (before after : Scene) : Prop where
  service : after.service = before.service
  settings : after.settings = before.settings
  clock : after.clock = before.clock
  locks : after.locks = before.locks
  hooks : after.hooks = before.hooks
  told : after.told = before.told
  lease : after.client.lease = before.client.lease

namespace SameHost

variable {before middle after : Scene}

theorem refl (scene : Scene) : SameHost scene scene :=
  ⟨rfl, rfl, rfl, rfl, rfl, rfl, rfl⟩

theorem trans (first : SameHost before middle)
    (second : SameHost middle after) :
    SameHost before after where
  service := second.service.trans first.service
  settings := second.settings.trans first.settings
  clock := second.clock.trans first.clock
  locks := second.locks.trans first.locks
  hooks := second.hooks.trans first.hooks
  told := second.told.trans first.told
  lease := second.lease.trans first.lease

/-- News reach nobody but the client. -/
theorem hear (same : SameHost before after) (first : News) (later : List News) :
    SameHost before (after.hear first later) :=
  same.trans ⟨rfl, rfl, rfl, rfl, rfl, rfl, first.reach_lease after.client⟩

end SameHost

theorem append_host (scene : Scene) (id : String) (route : Route) :
    scene.SameHost (scene.append id route).scene := by
  refine append_keeps id ?_ ?_ ?_ route (.refl scene)
  · intro middle same
    exact same.trans ⟨rfl, rfl, rfl, rfl, rfl, rfl, rfl⟩
  · intro middle appending news same
    exact same.trans ⟨rfl, rfl, rfl, rfl, rfl, rfl, rfl⟩
  · intro middle first later same
    exact same.hear first later

theorem hearTrailers_host (scene : Scene) (news : List News) :
    scene.SameHost (scene.hearTrailers news).scene := by
  refine hearTrailers_keeps ?_ ?_ news (.refl scene)
  · intro middle news same
    exact same.trans ⟨rfl, rfl, rfl, rfl, rfl, rfl, rfl⟩
  · intro middle first later same
    exact same.hear first later

theorem call_host (scene : Scene) (asked : Call) :
    scene.SameHost (scene.call asked).scene := by
  rw [call]
  split
  · exact .refl scene
  · exact ⟨rfl, rfl, rfl, rfl, rfl, rfl, rfl⟩

/-- The configuration, the sizes of buffers and the time are the same. -/
structure SameGround (before after : Scene) : Prop where
  service : after.service = before.service
  settings : after.settings = before.settings
  clock : after.clock = before.clock

theorem SameGround.refl (scene : Scene) : SameGround scene scene :=
  ⟨rfl, rfl, rfl⟩

theorem SameGround.trans {before middle after : Scene}
    (first : SameGround before middle) (second : SameGround middle after) :
    SameGround before after where
  service := second.service.trans first.service
  settings := second.settings.trans first.settings
  clock := second.clock.trans first.clock

theorem SameHost.ground {before after : Scene} (same : SameHost before after) :
    SameGround before after :=
  ⟨same.service, same.settings, same.clock⟩

theorem tell_ground (scene : Scene) (event : Event) :
    scene.SameGround (scene.tell event).scene := by
  rw [tell]
  split
  · exact .refl scene
  · rw [react]
    rcases scene.hooks event.hook with _ | _ | ⟨reaction, later⟩
    · exact ⟨rfl, rfl, rfl⟩
    · exact ⟨rfl, rfl, rfl⟩
    · cases reaction <;> exact ⟨rfl, rfl, rfl⟩

theorem perform_ground (scene : Scene) (action : Action) :
    scene.SameGround (scene.perform action).scene := by
  cases action with
  | acquire id => exact ⟨rfl, rfl, rfl⟩
  | release lease => exact ⟨rfl, rfl, rfl⟩
  | call asked => exact (scene.call_host asked).ground
  | append id route => exact (scene.append_host id route).ground
  | trailers => exact (scene.hearTrailers_host scene.news).ground
  | clock =>
      rw [perform]
      split <;> exact .refl scene
  | tell event => exact scene.tell_ground event
  | goOn begun => exact ⟨rfl, rfl, rfl⟩

end Scene

/-- No program changes the configuration, the sizes of buffers or the time. -/
theorem Program.play_ground {α : Type} (program : Program α) (scene : Scene) :
    scene.SameGround (program.play scene).scene := by
  refine program.play_keeps ?_ (.refl scene)
  intro middle action same
  exact same.trans (middle.perform_ground action)

namespace Attempt

variable {α β : Type}

/-- Runs an attempt on a scene. -/
def play (attempt : Attempt α) (scene : Scene) : Played (Except Failure α) :=
  attempt.run.play scene

/-- Goes on from a result that may be a failure. -/
def orFailure (rest : α → Scene → Played (Except Failure β)) :
    Except Failure α → Scene → Played (Except Failure β)
  | .ok value, scene => rest value scene
  | .error failure, scene => .finished (.error failure) scene

@[simp]
theorem orFailure_ok (rest : α → Scene → Played (Except Failure β))
    (value : α) (scene : Scene) :
    orFailure rest (.ok value) scene = rest value scene :=
  rfl

@[simp]
theorem orFailure_error (rest : α → Scene → Played (Except Failure β))
    (failure : Failure) (scene : Scene) :
    orFailure rest (.error failure) scene = .finished (.error failure) scene :=
  rfl

@[simp]
theorem play_pure (value : α) (scene : Scene) :
    (pure value : Attempt α).play scene = .finished (.ok value) scene :=
  rfl

@[simp]
theorem play_bind (attempt : Attempt α) (rest : α → Attempt β)
    (scene : Scene) :
    (attempt >>= rest).play scene
      = (attempt.play scene).andThen
          (orFailure fun value scene => (rest value).play scene) := by
  rw [play, ExceptT.run_bind, Program.play_bind]
  refine congrArg (attempt.play scene).andThen
    (funext fun result => funext fun scene => ?_)
  cases result <;> rfl

@[simp]
theorem play_fail (failure : Failure) (scene : Scene) :
    (Attempt.fail failure : Attempt α).play scene
      = .finished (.error failure) scene :=
  rfl

@[simp]
theorem play_call (asked : Call) (scene : Scene) :
    (Attempt.call asked).play scene = scene.call asked :=
  Program.play_perform (.call asked) scene

@[simp]
theorem play_append (id : String) (route : Route) (scene : Scene) :
    (Attempt.append id route).play scene = scene.append id route :=
  Program.play_perform (.append id route) scene

@[simp]
theorem play_acquire (id : String) (scene : Scene) :
    (Attempt.acquire id).play scene = scene.acquire id :=
  Program.play_perform (.acquire id) scene

/-- An action that cannot fail gives its answer. -/
theorem play_lift (program : Program α) (scene : Scene) :
    Attempt.play (ExceptT.lift program) scene
      = (program.play scene).andThen fun value scene =>
          .finished (.ok value) scene := by
  rw [play, ExceptT.run_lift, Program.play_map]

@[simp]
theorem play_now (scene : Scene) :
    Attempt.now.play scene
      = if scene.clock.isReadable then .finished (.ok scene.clock) scene
        else .collapsed scene := by
  rw [now, play_lift, Program.play_perform]
  cases readable : scene.clock.isReadable <;> simp [Scene.perform, readable]

@[simp]
theorem play_trailers (scene : Scene) :
    Attempt.trailers.play scene
      = (scene.hearTrailers scene.news).andThen fun heard scene =>
          .finished (.ok heard) scene := by
  rw [trailers, play_lift, Program.play_perform]
  rfl

@[simp]
theorem play_tell (event : Event) (scene : Scene) :
    (Attempt.tell event).play scene
      = (scene.tell event).andThen fun verdict scene =>
          .finished (.ok verdict) scene := by
  rw [tell, play_lift, Program.play_perform]
  rfl

end Attempt

namespace Check

variable {α β : Type}

/-- Runs a check on a scene. -/
def play (check : Check α) (scene : Scene) :
    Played (Except Failure (Except Rejection α)) :=
  check.caught.play scene

/-- Goes on from a result that may be a rejection. -/
def orRejection
    (rest : α → Scene → Played (Except Failure (Except Rejection β))) :
    Except Rejection α → Scene → Played (Except Failure (Except Rejection β))
  | .ok value, scene => rest value scene
  | .error rejection, scene => .finished (.ok (.error rejection)) scene

@[simp]
theorem play_pure (value : α) (scene : Scene) :
    (pure value : Check α).play scene = .finished (.ok (.ok value)) scene :=
  rfl

theorem play_bind (check : Check α) (rest : α → Check β) (scene : Scene) :
    (check >>= rest).play scene
      = (check.play scene).andThen
          (Attempt.orFailure
            (orRejection fun value scene => (rest value).play scene)) := by
  rw [play, caught, ExceptT.run_bind, Attempt.play_bind]
  refine congrArg (check.play scene).andThen
    (congrArg Attempt.orFailure
      (funext fun result => funext fun scene => ?_))
  cases result <;> rfl

end Check

end ResumableUpload
