import ResumableUpload.Proofs.Solo.Depiction
import ResumableUpload.Proofs.Solo.Handling
/-!
# Hosts that agree

A host agrees if it never stops a request and never breaks off; a host that
does not watch at all agrees.  Telling such a host of an event changes nothing
but what it has been told and how it will react.  So what is around the work of
a handling falls away, and the answer is the answer of the work:
`Protocol.play_handleIntent_of_agrees`, `Protocol.play_afterCheck_of_agrees`
and `Protocol.play_carryOut_of_agrees` say so for the three places at which
the host is told.
-/

namespace ResumableUpload

/-- Whether a reaction lets the request go on. -/
def Reaction.agrees : Reaction → Bool
  | .verdict answer => !answer.failed
  | .collapse => false

namespace Scene

/-- The host lets every request go on. -/
def HostAgrees (scene : Scene) : Prop :=
  ∀ hook reactions, scene.hooks hook = some reactions →
    ∀ reaction ∈ reactions, reaction.agrees = true

/-- A host that does not watch agrees. -/
theorem hostAgrees_of_unwatched {scene : Scene}
    (unwatched : ∀ hook, scene.hooks hook = none) : scene.HostAgrees := by
  intro hook reactions watched
  rw [unwatched] at watched
  cases watched

/-- At most the host has been told of something, and it still agrees. -/
structure HasTold (before after : Scene) : Prop where
  told : OnlyTold before after
  agrees : after.HostAgrees

namespace HasTold

variable {before middle after : Scene}

theorem refl (agrees : before.HostAgrees) : HasTold before before :=
  ⟨.refl before, agrees⟩

theorem trans (first : HasTold before middle) (second : HasTold middle after) :
    HasTold before after :=
  ⟨first.told.trans second.told, second.agrees⟩

end HasTold

/-- A host that agrees answers with a verdict that stops nothing. -/
theorem tell_of_agrees {scene : Scene} (agrees : scene.HostAgrees)
    (event : Event) :
    ∃ verdict after, scene.tell event = .finished verdict after ∧
      verdict.failed = false ∧ scene.HasTold after := by
  rw [tell]
  split
  · exact ⟨.proceed, scene, rfl, rfl, .refl agrees⟩
  · rw [react]
    cases watched : scene.hooks event.hook with
    | none => exact ⟨.proceed, _, rfl, rfl, ⟨_, _, rfl⟩, agrees⟩
    | some reactions =>
        cases reactions with
        | nil => exact ⟨.proceed, _, rfl, rfl, ⟨_, _, rfl⟩, agrees⟩
        | cons reaction later =>
            have all := agrees event.hook _ watched
            have first := all reaction (List.mem_cons_self)
            cases reaction with
            | collapse => cases first
            | verdict verdict =>
                refine ⟨verdict, _, rfl, ?_, ⟨_, _, rfl⟩, ?_⟩
                · simpa [Reaction.agrees] using first
                · intro hook reactions here
                  simp only at here
                  split at here
                  · cases here
                    exact fun other present =>
                      all other (List.mem_cons_of_mem _ present)
                  · exact agrees hook reactions here

end Scene

namespace Scene

/-- Whatever is done to a scene, its host agrees as before. -/
theorem perform_agrees {scene : Scene} (agrees : scene.HostAgrees)
    (action : Action) : (scene.perform action).scene.HostAgrees := by
  have hosted {after : Scene} (same : scene.SameHost after) :
      after.HostAgrees := by
    rw [HostAgrees, same.hooks]
    exact agrees
  cases action with
  | acquire id => exact agrees
  | release lease => exact agrees
  | call asked => exact hosted (scene.call_host asked)
  | append id route => exact hosted (scene.append_host id route)
  | trailers => exact hosted (scene.hearTrailers_host scene.news)
  | clock =>
      rw [perform]
      split <;> exact agrees
  | tell event =>
      rcases scene.tell_of_agrees agrees event with
          ⟨verdict, after, told, -, rest⟩
      change (scene.tell event).scene.HostAgrees
      rw [told]
      exact rest.agrees
  | goOn begun => exact agrees

end Scene

/-- A host that agrees agrees to the end. -/
theorem Program.play_agrees {α : Type} (program : Program α) {scene : Scene}
    (agrees : scene.HostAgrees) : (program.play scene).scene.HostAgrees := by
  refine program.play_keeps ?_ agrees
  intro middle action agrees
  exact middle.perform_agrees agrees action

theorem Attempt.play_ends_agrees {α : Type} {attempt : Attempt α}
    {scene after : Scene} {result : Except Failure α}
    (agrees : scene.HostAgrees)
    (ends : attempt.play scene = .finished result after) :
    after.HostAgrees := by
  have still := Program.play_agrees attempt.run agrees
  rw [show attempt.run.play scene = .finished result after from ends] at still
  exact still

theorem Attempt.play_tell_of_agrees {scene : Scene} (agrees : scene.HostAgrees)
    (event : Event) :
    ∃ verdict after,
      (Attempt.tell event).play scene = .finished (.ok verdict) after ∧
      verdict.failed = false ∧ scene.HasTold after := by
  rcases scene.tell_of_agrees agrees event with
      ⟨verdict, after, told, passes, rest⟩
  refine ⟨verdict, after, ?_, passes, rest⟩
  rw [play_tell, told]
  rfl

namespace Protocol

variable {handling : Handling} {exchange checked : Exchange} {scene : Scene}

theorem play_tellCreated_of_agrees (agrees : scene.HostAgrees)
    (exchange : Exchange) (id : String) (length : Option Nat)
    (complete : Bool) :
    ∃ verdict after,
      (tellCreated exchange id length complete).play scene
        = .finished (.ok verdict) after ∧
      verdict.failed = false ∧ scene.HasTold after := by
  rcases Attempt.play_tell_of_agrees agrees (.createComplete id length
      exchange.metadata exchange.part exchange.headers) with
      ⟨verdict, middle, told, passes, first⟩
  rw [tellCreated, Attempt.play_bind, told, Played.finished_andThen,
    Attempt.orFailure_ok, passes, Bool.false_or]
  cases complete with
  | false => exact ⟨verdict, middle, rfl, passes, first⟩
  | true =>
      rcases Attempt.play_tell_of_agrees first.agrees (.fileComplete id) with
          ⟨last, after, told, passes, second⟩
      exact ⟨last, after, told, passes, first.trans second⟩

/-- Telling what was done changes nothing of it. -/
theorem play_tellOutcome_of_agrees (agrees : scene.HostAgrees)
    (exchange : Exchange) (outcome : Outcome) :
    ∃ verdict after,
      (tellOutcome exchange outcome).play scene
        = .finished (.ok verdict) after ∧
      verdict.failed = false ∧ scene.HasTold after := by
  cases outcome with
  | created id length complete =>
      exact play_tellCreated_of_agrees agrees exchange id length complete
  | written id complete =>
      rw [tellOutcome]
      cases complete with
      | false => exact ⟨.proceed, scene, rfl, rfl, .refl agrees⟩
      | true => exact Attempt.play_tell_of_agrees agrees (.fileComplete id)
  | deleted id => exact Attempt.play_tell_of_agrees agrees (.deleteComplete id)
  | settled => exact ⟨.proceed, scene, rfl, rfl, .refl agrees⟩

theorem play_tellBefore_of_agrees (agrees : scene.HostAgrees)
    (event? : Option Event) :
    ∃ verdict after,
      (tellBefore event?).play scene = .finished (.ok verdict) after ∧
      verdict.failed = false ∧ scene.HasTold after := by
  cases event? with
  | none => exact ⟨.proceed, scene, rfl, rfl, .refl agrees⟩
  | some event => exact Attempt.play_tell_of_agrees agrees event

/-- Once its requirements are met, a handling is carried out. -/
theorem play_afterCheck_of_agrees (agrees : scene.HostAgrees)
    (handling : Handling) (exchange checked : Exchange) :
    ∃ told, scene.HasTold told ∧
      (afterCheck handling exchange (.ok checked)).play scene
        = (carryOut handling checked).play told := by
  rcases play_tellBefore_of_agrees agrees (handling.before checked) with
      ⟨verdict, told, ends, passes, rest⟩
  refine ⟨told, rest, ?_⟩
  rw [afterCheck, Attempt.play_bind, ends, Played.finished_andThen,
    Attempt.orFailure_ok, passes]
  rfl

/-- The answer of a handling is the answer of its work. -/
theorem play_carryOut_of_agrees {done : Exchange} {outcome : Outcome}
    {left : Scene}
    (works : (handling.carryOut exchange).play scene
      = .finished (.ok (done, outcome)) left)
    (agrees : left.HostAgrees) :
    ∃ after, left.HasTold after ∧
      (carryOut handling exchange).play scene = .finished (.ok done) after := by
  rcases play_tellOutcome_of_agrees agrees done outcome with
      ⟨verdict, after, ends, passes, rest⟩
  refine ⟨after, rest, ?_⟩
  rw [carryOut, Attempt.play_bind, works, Played.finished_andThen,
    Attempt.orFailure_ok]
  simp only
  rw [Attempt.play_bind, ends, Played.finished_andThen, Attempt.orFailure_ok,
    passes]
  rfl

/-- An intent that the host agrees to is handled. -/
theorem play_handleIntent_of_agrees (agrees : scene.HostAgrees)
    (intent : Intent) (handling : Handling) (exchange : Exchange) :
    ∃ told, scene.HasTold told ∧
      (handleIntent intent handling exchange).play scene
        = (executeVersioned intent handling exchange).play told := by
  rcases Attempt.play_tell_of_agrees agrees (.authorize intent exchange.method
      exchange.id exchange.headers) with ⟨verdict, told, ends, passes, rest⟩
  refine ⟨told, rest, ?_⟩
  rw [handleIntent, Attempt.play_bind, ends, Played.finished_andThen,
    Attempt.orFailure_ok, passes]
  rfl

end Protocol

/-! ## On servers -/

/-- The host of a server lets every request go on. -/
def Server.HostAgrees (server : Server) : Prop :=
  ∀ hook reactions, server.hooks hook = some reactions →
    ∀ reaction ∈ reactions, reaction.agrees = true

theorem Played.left_agrees {α : Type} {played : Played α}
    (agrees : played.scene.HostAgrees) : played.left.HostAgrees := by
  cases played with
  | finished value scene => exact agrees
  | waiting scene | collapsed scene =>
      rw [left, Scene.part]
      split <;> exact agrees

/-- A host that agrees to a visit agrees to what comes after it. -/
theorem Server.IsQuiet.visit_agrees {server : Server} (quiet : server.IsQuiet)
    (agrees : server.HostAgrees) (visit : Visit) :
    (server.visit visit).2.2.HostAgrees := by
  rcases quiet.visit_depicts visit with ⟨-, -, news, seen⟩
  have hosted : (server.scene visit.client visit.news).HostAgrees := agrees
  have still := Played.left_agrees ((Protocol.program server.service
    visit.request).play_agrees hosted)
  rw [← seen] at still
  exact still

theorem Server.IsQuiet.sweep_agrees {server : Server} (quiet : server.IsQuiet)
    (agrees : server.HostAgrees) : (server.undergo .sweep).HostAgrees := by
  rcases quiet.sweep_depicts with ⟨client, news, seen⟩
  have hosted : (server.scene {} []).HostAgrees := agrees
  have still := (Protocol.sweep server.service).caught.play_agrees hosted
  rw [← seen] at still
  exact still

end ResumableUpload
