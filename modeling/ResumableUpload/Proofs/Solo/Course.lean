import ResumableUpload.Proofs.Solo.Acts
import ResumableUpload.Proofs.Solo.Host
/-!
# The course of an intent

However an intent is handled, it takes one of two courses.  Either it stops
before anything is done: then it has been found out, at most, that something is
missing, or the host has stopped it.  Or all requirements are met, and it is
carried out; what is done before and after that is light, which means that it
changes nothing in the store and calls no upload complete.

`Protocol.handleIntent_course` says so of the acts of the intent and of what it
comes to, both at once.
-/

namespace ResumableUpload

/-! ## Light actions -/

/-- The upload that an event calls complete. -/
def Event.completed? : Event → Option String
  | .fileComplete id => some id
  | _ => none

/-- Whether an action changes nothing in a store, and calls nothing complete. -/
def Action.isLight : Action → Bool
  | .call asked => !asked.isNotable
  | .tell event => event.completed?.isNone
  | .acquire _ | .release _ | .clock => true
  | .append _ _ | .trailers | .goOn _ => false

theorem Action.isLight_of_isInquiry {action : Action}
    (inquires : action.isInquiry = true) : action.isLight = true := by
  cases action with
  | call asked => exact inquires
  | clock => rfl
  | _ => cases inquires

/-- Whether all of some acts are light. -/
def Act.AllLight (acts : List Act) : Prop :=
  ∀ act ∈ acts, act.action.isLight = true

namespace Act.AllLight

theorem nil : AllLight [] :=
  fun _ present => absurd present List.not_mem_nil

theorem append {earlier later : List Act} (first : AllLight earlier)
    (second : AllLight later) : AllLight (earlier ++ later) := by
  intro act present
  rcases List.mem_append.1 present with here | there
  · exact first act here
  · exact second act there

theorem single {act : Act} (light : act.action.isLight = true) :
    AllLight [act] := by
  intro other present
  rw [List.mem_singleton.1 present]
  exact light

/-- What goes on after a program that has not ended does nothing. -/
theorem further {α : Type} {played : Played α} {rest : α → Scene → List Act}
    (light : ∀ value after, played = .finished value after →
      AllLight (rest value after)) : AllLight (played.further rest) := by
  cases played with
  | finished value after => exact light value after rfl
  | waiting after | collapsed after => exact nil

end Act.AllLight

open Act (AllLight)

/-- An attempt that does light actions only does light acts. -/
theorem Attempt.Uses.allLight {α : Type} {attempt : Attempt α}
    {allowed : Action → Prop} (uses : attempt.Uses allowed)
    (light : ∀ action, allowed action → action.isLight = true)
    (scene : Scene) : AllLight (attempt.actsOn scene) :=
  fun _ present => light _ (Program.Uses.of_mem uses present)

/-! ## What the work depends on -/

/--
All that the work of a handling depends on is the same: the store, what the
client sends and will send, the configuration and the time.
-/
structure Scene.SameSight (before after : Scene) : Prop where
  ground : before.SameGround after
  store : after.store = before.store
  client : after.client = { before.client with lease := after.client.lease }
  news : after.news = before.news

namespace Scene.SameSight

variable {before middle after : Scene}

theorem refl (scene : Scene) : SameSight scene scene :=
  ⟨.refl scene, rfl, rfl, rfl⟩

theorem trans (first : SameSight before middle)
    (second : SameSight middle after) : SameSight before after where
  ground := first.ground.trans second.ground
  store := second.store.trans first.store
  client := by
    rw [second.client, first.client]
  news := second.news.trans first.news

theorem of_told (told : OnlyTold before after) : SameSight before after := by
  rcases told with ⟨_, _, rfl⟩
  exact ⟨⟨rfl, rfl, rfl⟩, rfl, rfl, rfl⟩

theorem of_eq (same : after = before) : SameSight before after :=
  same ▸ refl before

theorem leased (scene : Scene) (id : String) :
    SameSight scene (scene.leased id) :=
  ⟨⟨rfl, rfl, rfl⟩, rfl, rfl, rfl⟩

theorem release (scene : Scene) (lease : Lease) :
    SameSight scene (scene.release lease) :=
  ⟨⟨rfl, rfl, rfl⟩, rfl, rfl, rfl⟩

end Scene.SameSight

/-- What is seen to in the end leaves the store as it is. -/
theorem Played.andThen_finish_store {α β : Type} {played : Played α}
    {close : α → β} {finish : Scene → Scene}
    (finishes : ∀ scene : Scene, scene.SameSight (finish scene)) :
    (played.andThen fun value last =>
      .finished (close value) (finish last)).scene.store
        = played.scene.store := by
  cases played with
  | finished value last => exact (finishes last).store
  | waiting last | collapsed last => rfl

/-! ## Courses -/

/--
The course of a handling from a scene on, with its acts and with what it comes
to.  The result of what is done is closed in the end, which turns some failures
into answers.
-/
inductive Course (handling : Handling) (exchange : Exchange)
    (close : Except Failure Exchange → Except Failure Exchange)
    (scene : Scene) :
    List Act → Played (Except Failure Exchange) → Prop where
  /-- It stops before anything is done. -/
  | stops {acts : List Act} {played : Played (Except Failure Exchange)}
      (light : AllLight acts) (sight : scene.SameSight played.scene)
      (refused : scene.HostAgrees → ∀ done after,
        played = .finished (.ok done) after → 400 ≤ done.response.status) :
      Course handling exchange close scene acts played
  /-- All requirements are met, and it is carried out. -/
  | works {checked : Exchange} {asked told : Scene}
      {earlier later : List Act} {finish : Scene → Scene}
      (sight : scene.SameSight asked)
      (checks : (handling.check exchange).play asked
        = .finished (.ok (.ok checked)) asked)
      (telling : asked.OnlyTold told)
      (agrees : scene.HostAgrees → told.HostAgrees)
      (before : AllLight earlier) (after : AllLight later)
      (finishes : ∀ scene : Scene, scene.SameSight (finish scene)) :
      Course handling exchange close scene
        (earlier ++ (Protocol.carryOut handling checked).actsOn told ++ later)
        (((Protocol.carryOut handling checked).play told).andThen
          fun result last => .finished (close result) (finish last))

namespace Course

variable {handling : Handling} {exchange : Exchange} {scene middle : Scene}
  {close : Except Failure Exchange → Except Failure Exchange}
  {acts : List Act} {played : Played (Except Failure Exchange)}

/-- Before a course something light may be done. -/
theorem lead {earlier : List Act} (light : AllLight earlier)
    (sight : scene.SameSight middle)
    (agrees : scene.HostAgrees → middle.HostAgrees)
    (course : Course handling exchange close middle acts played) :
    Course handling exchange close scene (earlier ++ acts) played := by
  cases course with
  | stops still same refused =>
      exact .stops (light.append still) (sight.trans same)
        fun host => refused (agrees host)
  | works same checks telling still before after finishes =>
      rw [← List.append_assoc, ← List.append_assoc]
      exact .works (sight.trans same) checks telling
        (fun host => still (agrees host)) (light.append before) after finishes

/-- After a course something light may be done, whatever it has come to. -/
theorem trail (lastly : Except Failure Exchange → Scene → List Act)
    (part : Scene → Scene)
    (light : ∀ result last, AllLight (lastly result last))
    (parts : ∀ scene : Scene, scene.SameSight (part scene))
    (course : Course handling exchange close scene acts played) :
    Course handling exchange close scene
      (acts ++ played.further lastly)
      (played.andThen fun result last => .finished result (part last)) := by
  have more {played : Played (Except Failure Exchange)} :
      AllLight (played.further lastly) :=
    .further fun result last _ => light result last
  cases course with
  | stops still same refused =>
      refine .stops (still.append more) ?_ ?_
      · cases played with
        | finished result last => exact same.trans (parts last)
        | waiting last | collapsed last => exact same
      · intro host done after ends
        cases played with
        | finished result last =>
            cases ends
            exact refused host done last rfl
        | waiting last | collapsed last => cases ends
  | works same checks telling agrees before after finishes =>
      rw [Played.andThen_assoc, List.append_assoc]
      exact .works same checks telling agrees before (after.append more)
        fun last => (finishes last).trans (parts (_))

/-- The host is told of something light, and may stop what is to follow. -/
theorem ask {tells : Attempt Verdict} {stop : Verdict → Exchange}
    {rest : Attempt Exchange} (light : AllLight (tells.actsOn scene))
    (telling : scene.OnlyTold (tells.play scene).scene)
    (agreeing : scene.HostAgrees → ∃ verdict after,
      tells.play scene = .finished (.ok verdict) after ∧
      verdict.failed = false ∧ scene.HasTold after)
    (course : ∀ after, scene.OnlyTold after →
      (scene.HostAgrees → after.HostAgrees) →
      Course handling exchange close scene
        (tells.actsOn scene ++ rest.actsOn after) (rest.play after)) :
    Course handling exchange close scene
      ((tells >>= fun verdict =>
        if verdict.failed then pure (stop verdict) else rest).actsOn scene)
      ((tells >>= fun verdict =>
        if verdict.failed then pure (stop verdict) else rest).play scene) := by
  rw [Attempt.actsOn_bind, Attempt.play_bind]
  generalize tells.play scene = told at telling agreeing ⊢
  cases told with
  | waiting after | collapsed after =>
      refine .stops (light.append .nil) (.of_told telling) ?_
      intro agrees done last ends
      cases ends
  | finished result after =>
      have telling : scene.OnlyTold after := telling
      cases result with
      | error failure =>
          refine .stops (light.append .nil) (.of_told telling) ?_
          intro agrees done last ends
          cases ends
      | ok verdict =>
          rw [Played.finished_further, Played.finished_andThen,
            Attempt.furtherOk_ok, Attempt.orFailure_ok]
          cases stopped : verdict.failed with
          | true =>
              refine .stops (light.append .nil) (.of_told telling) ?_
              intro agrees
              rcases agreeing agrees with ⟨other, last, same, passes, -⟩
              cases same
              rw [stopped] at passes
              cases passes
          | false =>
              refine course after telling ?_
              intro agrees
              rcases agreeing agrees with ⟨other, last, same, -, rest⟩
              cases same
              exact rest.agrees

/-- What a handling has done that has come to an end. -/
inductive Ended (handling : Handling) (exchange : Exchange)
    (close : Except Failure Exchange → Except Failure Exchange)
    (scene : Scene) (acts : List Act) (result : Except Failure Exchange)
    (after : Scene) : Prop where
  | stopped (same : after.store = scene.store)
      (refused : scene.HostAgrees → ∀ done, result = .ok done →
        400 ≤ done.response.status)
  | carried {checked : Exchange} {asked told last : Scene}
      {first : Except Failure Exchange}
      (checks : (handling.check exchange).play asked
        = .finished (.ok (.ok checked)) asked)
      (same : told.store = asked.store) (sight : scene.SameSight told)
      (agrees : scene.HostAgrees → told.HostAgrees)
      (carries : (Protocol.carryOut handling checked).play told
        = .finished first last)
      (does : ∀ act ∈ (Protocol.carryOut handling checked).actsOn told,
        act ∈ acts)
      (closes : result = close first) (left : after.store = last.store)

theorem ended {result : Except Failure Exchange} {after : Scene}
    (course : Course handling exchange close scene acts
      (.finished result after)) :
    Ended handling exchange close scene acts result after := by
  generalize same : Played.finished result after = played at course
  cases course with
  | stops light sight refused =>
      subst same
      refine .stopped sight.store ?_
      rintro agrees done rfl
      exact refused agrees done after rfl
  | works sight checks telling agrees _ _ finishes =>
      rcases Played.andThen_ends same.symm with ⟨first, last, carries, left⟩
      cases left
      exact .carried checks telling.store (sight.trans (.of_told telling))
        agrees carries
        (fun _ present => List.mem_append_left _
          (List.mem_append_right _ present))
        rfl (finishes last).store

end Course

/-! ## Handling an intent -/

namespace Handling

variable {service : Service} {intent : Intent} {handling : Handling}

/-- Before anything is done the host is told of nothing complete. -/
theorem completed?_before
    (handled : ofIntent? service intent = some handling) {exchange : Exchange}
    {event : Event} (told : handling.before exchange = some event) :
    event.completed? = none := by
  cases intent with
  | notApplicable => cases handled
  | fileInfo | options =>
      cases handled
      cases told
  | _ =>
      cases handled
      cases told
      rfl

end Handling

namespace Protocol

variable {service : Service} {intent : Intent} {handling : Handling}
  {exchange : Exchange} {scene : Scene}

theorem actsOn_execute (handling : Handling) (exchange : Exchange)
    (scene : Scene) :
    (execute handling exchange).actsOn scene
      = (handling.check exchange).caught.actsOn scene
        ++ ((handling.check exchange).play scene).further
          (Attempt.furtherOk fun result after =>
            (afterCheck handling exchange result).actsOn after) := by
  rw [execute, Attempt.actsOn_bind]
  refine congrArg (_ ++ ·) (congrArg ((handling.check exchange).play
    scene).further (congrArg Attempt.furtherOk (funext fun result => ?_)))
  cases result <;> rfl

theorem tellBefore_allLight {event? : Option Event}
    (light : ∀ event, event? = some event → event.completed? = none)
    (scene : Scene) : AllLight ((tellBefore event?).actsOn scene) := by
  cases event? with
  | none => exact .nil
  | some event =>
      rw [tellBefore, Attempt.actsOn_tell]
      apply AllLight.single
      rw [Action.isLight, light event rfl]
      rfl

/-- Once the requirements are met, the host may stop what is to be done. -/
theorem afterCheck_course {checked : Exchange}
    (handled : Handling.ofIntent? service intent = some handling)
    (checks : (handling.check exchange).play scene
      = .finished (.ok (.ok checked)) scene) :
    Course handling exchange id scene
      ((afterCheck handling exchange (.ok checked)).actsOn scene)
      ((afterCheck handling exchange (.ok checked)).play scene) := by
  have light : AllLight ((tellBefore (handling.before checked)).actsOn scene) :=
    tellBefore_allLight (fun event told =>
      Handling.completed?_before handled told) scene
  apply Course.ask light (tellBefore_onlyTells _ scene)
  · intro agrees
    exact play_tellBefore_of_agrees agrees (handling.before checked)
  · intro after telling agrees
    have course : Course handling exchange id scene _ _ :=
      .works (.refl scene) checks telling agrees light .nil .refl
    rw [List.append_nil] at course
    simp only [id, Played.andThen_finished] at course
    exact course

/-- The requirements are looked at, and then it may be carried out. -/
theorem execute_course
    (handled : Handling.ofIntent? service intent = some handling)
    (exchange : Exchange) (scene : Scene) :
    Course handling exchange id scene
      ((execute handling exchange).actsOn scene)
      ((execute handling exchange).play scene) := by
  have asks := Handling.asks_check handled exchange scene
  have light : AllLight ((handling.check exchange).caught.actsOn scene) :=
    (Handling.check_inquires handled exchange).allLight
      (fun _ => Action.isLight_of_isInquiry) scene
  rw [actsOn_execute, play_execute]
  cases checks : (handling.check exchange).play scene with
  | waiting after | collapsed after =>
      rw [checks] at asks
      refine .stops (light.append .nil) (.of_eq asks) ?_
      intro agrees done last ends
      cases ends
  | finished result after =>
      rw [checks] at asks
      have same : after = scene := asks
      subst same
      rw [Played.finished_further, Played.finished_andThen]
      rcases result with failure | rejection | checked
      · refine .stops (light.append .nil) (.refl after) ?_
        intro agrees done last ends
        cases ends
      · refine .stops (light.append .nil) (.refl after) ?_
        intro agrees done last ends
        cases ends
        exact rejection.le_status
      · exact (afterCheck_course handled checks).lead light (.refl after)
          fun agrees => agrees

theorem executeSettled_course
    (handled : Handling.ofIntent? service intent = some handling)
    (exchange : Exchange) (scene : Scene) :
    Course handling exchange (settle exchange) scene
      ((executeSettled handling exchange).actsOn scene)
      ((executeSettled handling exchange).play scene) := by
  have course := execute_course handled exchange scene
  have acts : (executeSettled handling exchange).actsOn scene
      = (execute handling exchange).actsOn scene := by
    change (settle exchange <$> (execute handling exchange).caught).actsOn
      scene = _
    rw [map_eq_pure_bind, Program.actsOn_bind]
    refine (congrArg (_ ++ ·) ?_).trans (List.append_nil _)
    cases (execute handling exchange).caught.play scene <;> rfl
  rw [play_executeSettled, acts]
  generalize (execute handling exchange).actsOn scene = acts at course ⊢
  generalize (execute handling exchange).play scene = played at course ⊢
  cases course with
  | stops light sight refused =>
      refine .stops light ?_ ?_
      · cases played <;> exact sight
      · intro agrees done after ends
        cases played with
        | waiting last | collapsed last => cases ends
        | finished result last =>
            injection ends with settled
            cases result with
            | ok answer =>
                cases settled
                exact refused agrees done last rfl
            | error failure =>
                have status := status_of_settle_error settled
                omega
  | works sight checks telling agrees before after finishes =>
      rw [Played.andThen_assoc]
      exact .works sight checks telling agrees before after finishes

theorem play_acquire_eq (exchange : Exchange) (scene : Scene) :
    (Attempt.acquire exchange.fileId).play scene
      = .finished (.ok (scene.locks.acquire exchange.fileId).1)
          (scene.leased exchange.fileId) :=
  Attempt.play_acquire exchange.fileId scene

theorem acquire_allLight (id : String) (scene : Scene) :
    AllLight ((Attempt.acquire id).actsOn scene) := by
  have acts : (Attempt.acquire id).actsOn scene
      = [⟨.acquire id, (scene.acquire id).value?, scene.store⟩] :=
    Program.actsOn_perform (.acquire id) scene
  rw [acts]
  exact .single rfl

/-- With a lease come the acts of the handling, and then it is given back. -/
theorem actsOn_executeLeased {lease : Lease}
    (free : (scene.locks.acquire exchange.fileId).1 = some lease)
    (handling : Handling) :
    (executeLeased handling exchange).actsOn scene
      = (Attempt.acquire exchange.fileId).actsOn scene
        ++ ((executeSettled handling exchange).actsOn
            (scene.leased exchange.fileId)
          ++ ((executeSettled handling exchange).play
              (scene.leased exchange.fileId)).further fun _ last =>
                [⟨.release lease, some (), last.store⟩]) := by
  rw [executeLeased, Attempt.actsOn_bind, play_acquire_eq,
    Played.finished_further, Attempt.furtherOk_ok, free]
  congr 1
  change ((executeSettled handling exchange).caught >>= fun result =>
    Program.perform (.release lease) >>= fun _ => pure result).actsOn _ = _
  rw [Program.actsOn_bind]
  rfl

/-- A lease is taken and given back around the course of a handling. -/
theorem executeLeased_course
    (handled : Handling.ofIntent? service intent = some handling)
    (exchange : Exchange) (scene : Scene) :
    Course handling exchange (settle exchange) scene
      ((executeLeased handling exchange).actsOn scene)
      ((executeLeased handling exchange).play scene) := by
  have light := acquire_allLight exchange.fileId scene
  have leased := Scene.SameSight.leased scene exchange.fileId
  cases free : (scene.locks.acquire exchange.fileId).1 with
  | none =>
      rw [play_executeLeased_of_held free]
      refine .stops ?_ leased ?_
      · rw [executeLeased, Attempt.actsOn_bind, play_acquire_eq, free]
        exact light.append .nil
      · intro agrees done after ends
        cases ends
        exact (Rejection.leased exchange.fileId).le_status
  | some lease =>
      rw [actsOn_executeLeased free, play_executeLeased free]
      have course := (executeSettled_course handled exchange
        (scene.leased exchange.fileId)).trail
          (fun _ last => [⟨.release lease, some (), last.store⟩])
          (fun last => last.release lease)
          (fun _ _ => .single rfl) (fun last => .release last lease)
      exact course.lead light leased fun agrees => agrees

theorem executeVersioned_course
    (handled : Handling.ofIntent? service intent = some handling)
    (exchange : Exchange) (scene : Scene) :
    Course handling (versioned exchange) (settle (versioned exchange)) scene
      ((executeVersioned intent handling exchange).actsOn scene)
      ((executeVersioned intent handling exchange).play scene) := by
  rw [executeVersioned]
  split
  · refine .stops .nil (.refl scene) ?_
    intro agrees done after ends
    cases ends
    exact (Rejection.version (versionOf exchange)).le_status
  · split
    · exact executeLeased_course handled (versioned exchange) scene
    · exact executeSettled_course handled (versioned exchange) scene

/-- How an intent is handled, from the question to the host on. -/
theorem handleIntent_course
    (handled : Handling.ofIntent? service intent = some handling)
    (exchange : Exchange) (scene : Scene) :
    Course handling (versioned exchange) (settle (versioned exchange)) scene
      ((handleIntent intent handling exchange).actsOn scene)
      ((handleIntent intent handling exchange).play scene) := by
  have light : AllLight ((Attempt.tell (.authorize intent exchange.method
      exchange.id exchange.headers)).actsOn scene) := by
    rw [Attempt.actsOn_tell]
    exact .single rfl
  apply Course.ask light (Attempt.OnlyTells.tell _ scene)
  · intro agrees
    exact Attempt.play_tell_of_agrees agrees _
  · intro after telling agrees
    exact (executeVersioned_course handled exchange after).lead light
      (.of_told telling) agrees

/-- A request for one thing does what that does. -/
theorem actsOn_handle_of_single {request : Request}
    (asked : intentsOf service request = [intent])
    (handled : Handling.ofIntent? service intent = some handling)
    (scene : Scene) :
    (handle service request).actsOn scene
      = (handleIntent intent handling (.ofRequest service request)).actsOn
          scene := by
  rw [handle, asked]
  simp only [handled]
  exact Attempt.actsOn_bind_pure _
    (fun done : Exchange => Answer.respond done.response) scene

end Protocol

end ResumableUpload
