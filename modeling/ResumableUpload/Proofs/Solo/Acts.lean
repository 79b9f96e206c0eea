import ResumableUpload.Proofs.Solo.Depiction
import ResumableUpload.Proofs.Solo.Uses
/-!
# What is done, action by action

What a request leaves behind does not tell in which order it did things, nor
what the store was like when it did them.  The acts of a request are the list of
its actions, each with its answer and with the store at its beginning.

On a quiet server the acts of a visit are those that its program does on the
scene of the server: `Server.IsQuiet.acts_eq`.  The acts of one program after
another are the acts of the first and then those of the second, by
`Program.actsOn_bind`, and what the host hears of them is what its log tells, by
`Program.play_heard`.
-/

namespace ResumableUpload

/-- An action that was done, with the store as it was when it began. -/
structure Act where
  action : Action
  /-- The answer, unless the action came to none. -/
  reply? : Option action.Reply
  store : Store

/-! ## On scenes -/

namespace Played

variable {α : Type}

/-- The value in which a program has ended, if it has. -/
def value? : Played α → Option α
  | .finished value _ => some value
  | .waiting _ | .collapsed _ => none

/-- What is done further, if a program has ended. -/
def further (played : Played α) (rest : α → Scene → List Act) : List Act :=
  match played with
  | .finished value scene => rest value scene
  | .waiting _ | .collapsed _ => []

@[simp]
theorem finished_further (value : α) (scene : Scene)
    (rest : α → Scene → List Act) :
    (Played.finished value scene).further rest = rest value scene :=
  rfl

theorem andThen_further {β : Type} (played : Played α)
    (first : α → Scene → Played β) (second : β → Scene → List Act) :
    (played.andThen first).further second
      = played.further fun value scene =>
          (first value scene).further second := by
  cases played <;> rfl

theorem further_append (played : Played α)
    (first second : α → Scene → List Act) :
    (played.further fun value scene => first value scene ++ second value scene)
      = played.further first ++ played.further second := by
  cases played <;> rfl

end Played

namespace Program

variable {α β : Type}

/-- The acts of a program on a scene, in order. -/
def actsOn (program : Program α) (scene : Scene) : List Act :=
  match program with
  | .done _ => []
  | .act action next =>
      ⟨action, (scene.perform action).value?, scene.store⟩
        :: (scene.perform action).further fun reply after =>
          (next reply).actsOn after

@[simp]
theorem actsOn_perform (action : Action) (scene : Scene) :
    (Program.perform action).actsOn scene
      = [⟨action, (scene.perform action).value?, scene.store⟩] := by
  rw [perform, actsOn]
  cases scene.perform action <;> rfl

/-- First the acts of one program, then those of the other. -/
theorem actsOn_bind (program : Program α) (rest : α → Program β)
    (scene : Scene) :
    (program >>= rest).actsOn scene
      = program.actsOn scene
        ++ (program.play scene).further fun value after =>
          (rest value).actsOn after := by
  change (program.bind rest).actsOn scene = _
  induction program generalizing scene with
  | done value => rfl
  | act action next hypothesis =>
      rw [act_bind, actsOn, actsOn, play, Played.andThen_further,
        List.cons_append, ← Played.further_append]
      refine congrArg (List.cons _) (congrArg (scene.perform action).further ?_)
      funext reply after
      exact hypothesis reply after

/-- A program does nothing but what it may do. -/
theorem Uses.of_mem {allowed : Action → Prop} {program : Program α}
    (uses : Uses allowed program) {scene : Scene} {act : Act}
    (present : act ∈ program.actsOn scene) : allowed act.action := by
  induction uses generalizing scene with
  | done value => cases present
  | @act action next here _ hypothesis =>
      rw [actsOn] at present
      rcases List.mem_cons.1 present with rfl | later
      · exact here
      · cases played : scene.perform action with
        | finished reply after =>
            rw [played] at later
            exact hypothesis reply later
        | waiting after | collapsed after =>
            rw [played] at later
            cases later

end Program

namespace Attempt

variable {α β : Type}

/-- The acts of an attempt on a scene, in order. -/
def actsOn (attempt : Attempt α) (scene : Scene) : List Act :=
  attempt.run.actsOn scene

/-- What is done further, if a result is no failure. -/
def furtherOk (rest : α → Scene → List Act) :
    Except Failure α → Scene → List Act
  | .ok value, scene => rest value scene
  | .error _, _ => []

@[simp]
theorem furtherOk_ok (rest : α → Scene → List Act) (value : α) (scene : Scene) :
    furtherOk rest (.ok value) scene = rest value scene :=
  rfl

theorem actsOn_bind (attempt : Attempt α) (rest : α → Attempt β)
    (scene : Scene) :
    (attempt >>= rest).actsOn scene
      = attempt.actsOn scene
        ++ (attempt.play scene).further
          (furtherOk fun value after => (rest value).actsOn after) := by
  rw [actsOn, ExceptT.run_bind, Program.actsOn_bind]
  refine congrArg (attempt.actsOn scene ++ ·)
    (congrArg (attempt.play scene).further ?_)
  funext result after
  cases result <;> rfl

/-- An act is one of the first attempt, or one of those after it. -/
theorem mem_actsOn_bind {attempt : Attempt α} {rest : α → Attempt β}
    {scene : Scene} {act : Act}
    (present : act ∈ (attempt >>= rest).actsOn scene) :
    act ∈ attempt.actsOn scene ∨
      ∃ value middle, attempt.play scene = .finished (.ok value) middle ∧
        act ∈ (rest value).actsOn middle := by
  rw [actsOn_bind] at present
  rcases List.mem_append.1 present with here | later
  · exact .inl here
  · right
    cases played : attempt.play scene with
    | waiting after | collapsed after =>
        rw [played] at later
        cases later
    | finished result after =>
        rw [played] at later
        cases result with
        | error failure => cases later
        | ok value => exact ⟨value, after, rfl, later⟩

/-- What only depends on a result does nothing. -/
theorem actsOn_bind_pure (attempt : Attempt α) (change : α → β)
    (scene : Scene) :
    (attempt >>= fun value => pure (change value)).actsOn scene
      = attempt.actsOn scene := by
  rw [actsOn_bind]
  refine (congrArg (attempt.actsOn scene ++ ·) ?_).trans (List.append_nil _)
  cases attempt.play scene with
  | waiting after | collapsed after => rfl
  | finished result after => cases result <;> rfl

/--
An attempt in two parts leaves what the first part leaves, or goes on with the
second part.
-/
theorem bind_cases (attempt : Attempt α) (rest : α → Attempt β)
    (scene : Scene) :
    ((attempt >>= rest).actsOn scene = attempt.actsOn scene ∧
      ((attempt >>= rest).play scene).scene = (attempt.play scene).scene ∧
      ∀ value after, (attempt >>= rest).play scene
        ≠ .finished (.ok value) after) ∨
    ∃ value middle, attempt.play scene = .finished (.ok value) middle ∧
      (attempt >>= rest).actsOn scene
        = attempt.actsOn scene ++ (rest value).actsOn middle ∧
      (attempt >>= rest).play scene = (rest value).play middle := by
  rw [actsOn_bind, play_bind]
  cases played : attempt.play scene with
  | waiting after | collapsed after =>
      refine .inl ⟨List.append_nil _, rfl, ?_⟩
      intro value last contrary
      cases contrary
  | finished result after =>
      cases result with
      | error failure =>
          refine .inl ⟨List.append_nil _, rfl, ?_⟩
          intro value last contrary
          cases contrary
      | ok value => exact .inr ⟨value, after, rfl, rfl, rfl⟩

/--
An attempt in two parts that has ended has failed in the first, or has gone on
with the second and done the acts of both.
-/
theorem bind_ends {attempt : Attempt α} {rest : α → Attempt β}
    {scene after : Scene} {result : Except Failure β}
    (ends : (attempt >>= rest).play scene = .finished result after) :
    (∃ failure, result = .error failure ∧
      attempt.play scene = .finished (.error failure) after) ∨
    ∃ value middle, attempt.play scene = .finished (.ok value) middle ∧
      (rest value).play middle = .finished result after ∧
      (attempt >>= rest).actsOn scene
        = attempt.actsOn scene ++ (rest value).actsOn middle := by
  rw [actsOn_bind]
  rw [play_bind] at ends
  cases played : attempt.play scene with
  | waiting middle | collapsed middle =>
      rw [played] at ends
      cases ends
  | finished first middle =>
      rw [played] at ends
      cases first with
      | error failure =>
          cases ends
          exact .inl ⟨failure, rfl, rfl⟩
      | ok value => exact .inr ⟨value, middle, rfl, ends, rfl⟩

/-- An action that cannot fail does what it does. -/
theorem actsOn_lift (program : Program α) (scene : Scene) :
    Attempt.actsOn (ExceptT.lift program) scene = program.actsOn scene := by
  rw [actsOn, ExceptT.run_lift, map_eq_pure_bind, Program.actsOn_bind]
  refine (congrArg (program.actsOn scene ++ ·) ?_).trans (List.append_nil _)
  cases program.play scene <;> rfl

@[simp]
theorem actsOn_tell (event : Event) (scene : Scene) :
    (Attempt.tell event).actsOn scene
      = [⟨.tell event, (scene.tell event).value?, scene.store⟩] := by
  rw [tell, actsOn_lift, Program.actsOn_perform]
  rfl

@[simp]
theorem actsOn_append (id : String) (route : Route) (scene : Scene) :
    (Attempt.append id route).actsOn scene
      = [⟨.append id route, (scene.append id route).value?, scene.store⟩] :=
  Program.actsOn_perform (.append id route) scene

@[simp]
theorem actsOn_call (asked : Call) (scene : Scene) :
    (Attempt.call asked).actsOn scene
      = [⟨.call asked, (scene.call asked).value?, scene.store⟩] :=
  Program.actsOn_perform (.call asked) scene

/-- A call that has an answer is done, and nothing else. -/
theorem actsOn_serviceCall {service : Service} {asked : Call}
    {scene after : Scene} {reply : asked.Reply}
    (ends : (service.call asked).play scene = .finished (.ok reply) after) :
    ⟨.call asked, some (.ok reply), scene.store⟩
      ∈ (service.call asked).actsOn scene := by
  rcases bind_ends ends with
      ⟨failure, contrary, -⟩ | ⟨_, middle, permitted, called, acts⟩
  · cases contrary
  · have same : middle = scene := by
      rw [Service.permit] at permitted
      split at permitted
      · rw [Service.require] at permitted
        split at permitted
        · cases permitted
          rfl
        · cases permitted
      · cases permitted
        rfl
    subst same
    rw [play_call] at called
    rw [Service.call, acts, actsOn_call, called]
    exact List.mem_append_right _ (List.mem_singleton_self _)

end Attempt

/-! ## On servers -/

/--
The acts of a program that a server runs, where the next news reach its client
whenever it has to wait.  Here an action that waits and is gone on with is one
act.
-/
def Program.acts {α : Type} (program : Program α) (client : Client)
    (server : Server) (news : List News) : List Act :=
  match program with
  | .done _ => []
  | .act action next =>
      match (server.perform client action).await news with
      | .answered answer client after later =>
          ⟨action, some answer, server.store⟩
            :: (next answer).acts client after later
      | .waiting _ _ _ _ | .collapsed _ _ _ => [⟨action, none, server.store⟩]

namespace Server

/-- The acts of a visit, in order. -/
def acts (server : Server) (visit : Visit) : List Act :=
  (Protocol.program server.service visit.request).acts visit.client server
    visit.news

/-- The acts of an occurrence, in order. -/
def actsOf (server : Server) : Occurrence → List Act
  | .visit visit => server.acts visit
  | .elapse _ => []
  | .sweep => (Protocol.sweep server.service).caught.acts {} server []

/-- All acts of some occurrences, one occurrence after another. -/
def history (server : Server) : List Occurrence → List Act
  | [] => []
  | first :: later =>
      server.actsOf first ++ (server.undergo first).history later

variable {server : Server}

/-- On a quiet server a program does what it does on the scene. -/
theorem IsQuiet.program_acts {α : Type} (quiet : server.IsQuiet)
    (program : Program α) (client : Client) (news : List News) :
    program.acts client server news
      = program.actsOn (server.scene client news) := by
  induction program generalizing client server news with
  | done value => rfl
  | act action next hypothesis =>
      have performed := quiet.perform_depicts client action news
      rw [Program.acts, Program.actsOn]
      generalize (server.perform client action).await news = awaited
        at performed ⊢
      generalize (server.scene client news).perform action = played
        at performed ⊢
      cases performed with
      | @finished answer client after later scene quiet seen =>
          subst seen
          exact congrArg (List.cons _) (hypothesis answer quiet client later)
      | waiting quiet seen => rfl
      | collapsed quiet seen => rfl

/-- The acts of a visit to a quiet server are those on its scene. -/
theorem IsQuiet.acts_eq (quiet : server.IsQuiet) (visit : Visit) :
    server.acts visit
      = (Protocol.handle server.service visit.request).actsOn
          (server.scene visit.client visit.news) :=
  quiet.program_acts _ visit.client visit.news

end Server

/-! ## What the host hears -/

/-- The event of which the host is told by an act, if it watches. -/
def Act.heard? (watches : Hook → Bool) (act : Act) : Option Event :=
  match act.action with
  | .tell event => if watches event.hook then some event else none
  | _ => none

/-- Whether the host watches at a point. -/
def Scene.watches (scene : Scene) (hook : Hook) : Bool :=
  (scene.hooks hook).isSome

/--
The host watches where it did, and has been told of the events of some acts,
the last of them first.
-/
structure Scene.HasHeard (acts : List Act) (before after : Scene) : Prop where
  watches : after.watches = before.watches
  told : after.told.map Prod.fst
    = (acts.filterMap (Act.heard? before.watches)).reverse
      ++ before.told.map Prod.fst

namespace Scene.HasHeard

variable {before middle after : Scene}

theorem trans {earlier later : List Act}
    (first : HasHeard earlier before middle)
    (second : HasHeard later middle after) :
    HasHeard (earlier ++ later) before after where
  watches := second.watches.trans first.watches
  told := by
    rw [second.told, first.told, first.watches, List.filterMap_append,
      List.reverse_append, List.append_assoc]

/-- What has nothing to do with the host is not heard. -/
theorem of_unheard {act : Act} (unheard : act.heard? before.watches = none)
    (hooks : after.hooks = before.hooks) (told : after.told = before.told) :
    HasHeard [act] before after where
  watches := by
    unfold Scene.watches
    rw [hooks]
  told := by
    rw [told, List.filterMap_cons_none unheard]
    rfl

end Scene.HasHeard

/-- The host hears of an event at a point where it watches. -/
theorem Scene.tell_heard (scene : Scene) (event : Event) :
    scene.HasHeard [⟨.tell event, (scene.tell event).value?, scene.store⟩]
      (scene.tell event).scene := by
  cases watched : scene.hooks event.hook with
  | none =>
      rw [tell, watched]
      apply HasHeard.of_unheard
      · simp [Act.heard?, watches, watched]
      · rfl
      · rfl
  | some reactions =>
      have heard (reply? : Option Verdict) :
          Act.heard? scene.watches ⟨.tell event, reply?, scene.store⟩
            = some event := by
        simp [Act.heard?, watches, watched]
      rw [tell, watched, Option.isNone_some, if_neg Bool.false_ne_true, react,
        watched]
      cases reactions with
      | nil => exact ⟨rfl, by rw [List.filterMap_cons_some (heard _)]; rfl⟩
      | cons reaction later =>
          have still : (fun hook => ((if hook = event.hook then some later
              else scene.hooks hook) : Option (List Reaction)).isSome)
              = scene.watches := by
            funext hook
            by_cases here : hook = event.hook
            · simp [here, watches, watched]
            · simp [here, watches]
          cases reaction with
          | verdict verdict =>
              exact ⟨still, by rw [List.filterMap_cons_some (heard _)]; rfl⟩
          | collapse =>
              exact ⟨still, by rw [List.filterMap_cons_some (heard _)]; rfl⟩

theorem Scene.perform_heard (scene : Scene) (action : Action) :
    scene.HasHeard [⟨action, (scene.perform action).value?, scene.store⟩]
      (scene.perform action).scene := by
  cases action with
  | tell event => exact scene.tell_heard event
  | acquire id => exact .of_unheard rfl rfl rfl
  | release lease => exact .of_unheard rfl rfl rfl
  | call asked =>
      have same := scene.call_host asked
      exact .of_unheard rfl same.hooks same.told
  | append id route =>
      have same := scene.append_host id route
      exact .of_unheard rfl same.hooks same.told
  | trailers =>
      have same := scene.hearTrailers_host scene.news
      exact .of_unheard rfl same.hooks same.told
  | clock =>
      apply HasHeard.of_unheard
      · rfl
      · rw [perform]
        split <;> rfl
      · rw [perform]
        split <;> rfl
  | goOn begun => exact .of_unheard rfl rfl rfl

/-- Of the acts of a program the host hears what it watches for. -/
theorem Program.play_heard {α : Type} (program : Program α) (scene : Scene) :
    scene.HasHeard (program.actsOn scene) (program.play scene).scene := by
  induction program generalizing scene with
  | done value => exact ⟨rfl, rfl⟩
  | act action next hypothesis =>
      have performed := scene.perform_heard action
      rw [play, actsOn]
      cases played : scene.perform action with
      | finished reply after =>
          rw [played] at performed
          exact performed.trans (hypothesis reply after)
      | waiting after | collapsed after =>
          rw [played] at performed
          exact performed

/-- The event of which an entry of the log tells. -/
def LogEntry.event? (entry : LogEntry) : Option Event :=
  entry.told?.map Prod.fst

namespace Server

/-- Whether the host watches at a point. -/
def watches (server : Server) (hook : Hook) : Bool :=
  (server.hooks hook).isSome

/--
The host watches where it did, and the log tells of the events of some acts,
the last of them first.
-/
structure HasHeard (acts : List Act) (before after : Server) : Prop where
  watches : after.watches = before.watches
  log : after.log.filterMap LogEntry.event?
    = (acts.filterMap (Act.heard? before.watches)).reverse
      ++ before.log.filterMap LogEntry.event?

namespace HasHeard

variable {before middle after : Server}

theorem trans {earlier later : List Act}
    (first : HasHeard earlier before middle)
    (second : HasHeard later middle after) :
    HasHeard (earlier ++ later) before after where
  watches := second.watches.trans first.watches
  log := by
    rw [second.log, first.log, first.watches, List.filterMap_append,
      List.reverse_append, List.append_assoc]

/-- What is heard on a scene is in the log of the server. -/
theorem of_scene {acts : List Act} {client client' : Client}
    {news news' : List News}
    (heard : (before.scene client news).HasHeard acts
      (after.scene client' news')) : HasHeard acts before after where
  watches := heard.watches
  log := by
    have told := heard.told
    simp only [scene, List.map_filterMap] at told
    exact told

end HasHeard

end Server

/-- Of a client that goes away the host hears nothing. -/
theorem Scene.HasHeard.left {α : Type} {acts : List Act} {before : Scene}
    {played : Played α} (heard : before.HasHeard acts played.scene) :
    before.HasHeard acts played.left := by
  cases played with
  | finished value scene => exact heard
  | waiting scene | collapsed scene =>
      rw [Played.left, Scene.part]
      split
      · exact ⟨heard.watches, heard.told⟩
      · exact heard

namespace Server.IsQuiet

variable {server : Server}

theorem visit_heard (quiet : server.IsQuiet) (visit : Visit) :
    server.HasHeard (server.acts visit) (server.visit visit).2.2 := by
  rcases quiet.visit_depicts visit with ⟨-, -, news, seen⟩
  have heard := (Program.play_heard (Protocol.program server.service
    visit.request) (server.scene visit.client visit.news)).left
  rw [← seen] at heard
  rw [quiet.acts_eq]
  exact .of_scene heard

theorem sweep_heard (quiet : server.IsQuiet) :
    server.HasHeard (server.actsOf .sweep) (server.undergo .sweep) := by
  rcases quiet.sweep_depicts with ⟨client, news, seen⟩
  have heard := Program.play_heard (Protocol.sweep server.service).caught
    (server.scene {} [])
  rw [← quiet.program_acts, ← seen] at heard
  exact .of_scene heard

/-- The log tells of the acts of every occurrence. -/
theorem undergo_heard (quiet : server.IsQuiet) (occurrence : Occurrence) :
    server.HasHeard (server.actsOf occurrence) (server.undergo occurrence) := by
  cases occurrence with
  | visit visit => exact quiet.visit_heard visit
  | elapse milliseconds => exact ⟨rfl, rfl⟩
  | sweep => exact quiet.sweep_heard

end Server.IsQuiet

end ResumableUpload
