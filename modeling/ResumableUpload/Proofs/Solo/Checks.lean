import ResumableUpload.Proofs.Solo.Uses
import ResumableUpload.Proofs.Store.Records
/-!
# Requirements on scenes

An inquiry leaves a scene as it is, and so does a program that does nothing but
inquire: `Attempt.Asks` and `Check.Asks` say so of attempts and checks.  The
requirements of all handlings only ask, by `Handling.asks_check`; so a
requirement on a scene is a plain function of the scene.
-/

namespace ResumableUpload

/-! ## Asking -/

/-- An attempt that leaves every scene as it is. -/
def Attempt.Asks {α : Type} (attempt : Attempt α) : Prop :=
  ∀ scene, (attempt.play scene).scene = scene

/-- A check that leaves every scene as it is. -/
def Check.Asks {α : Type} (check : Check α) : Prop :=
  ∀ scene, (check.play scene).scene = scene

/-- What goes on from a scene that was left as it is leaves it so too. -/
theorem Played.andThen_scene {α β : Type} {played : Played α}
    {rest : α → Scene → Played β} {scene : Scene}
    (first : played.scene = scene)
    (second : ∀ value, (rest value scene).scene = scene) :
    (played.andThen rest).scene = scene := by
  cases played with
  | finished value after =>
      have same : after = scene := first
      subst same
      exact second value
  | waiting after => exact first
  | collapsed after => exact first

/-- A call that is not notable changes nothing in a store. -/
theorem Store.answer_of_not_isNotable (store : Store) (now : Instant)
    {asked : Call} (asks : asked.isNotable = false) :
    (store.answer now asked).2 = store := by
  cases asked with
  | has id => rfl
  | length id => simp only [answer, ask]; split <;> rfl
  | offset id => simp only [answer, ask]; split <;> rfl
  | metadata id => simp only [answer, ask]; split <;> rfl
  | part id => simp only [answer, ask]; split <;> rfl
  | expiry id => simp only [answer, ask]; split <;> rfl
  | read id => rfl
  | algorithms => rfl
  | expired => rfl
  | _ => cases asks

theorem Scene.call_scene_of_not_isNotable (scene : Scene) {asked : Call}
    (asks : asked.isNotable = false) : (scene.call asked).scene = scene := by
  rw [call]
  split
  · rfl
  · change { scene with store := (scene.store.answer scene.clock asked).2 }
      = scene
    rw [Store.answer_of_not_isNotable _ _ asks]

namespace Attempt.Asks

variable {α β : Type}

theorem pure (value : α) : (pure value : Attempt α).Asks :=
  fun _ => rfl

theorem bind {attempt : Attempt α} {rest : α → Attempt β}
    (first : attempt.Asks) (second : ∀ value, (rest value).Asks) :
    (attempt >>= rest).Asks := by
  intro scene
  rw [play_bind]
  apply Played.andThen_scene (first scene)
  intro result
  cases result with
  | ok value => exact second value scene
  | error failure => rfl

theorem call {asked : Call} (asks : asked.isNotable = false) :
    (Attempt.call asked).Asks := by
  intro scene
  rw [play_call]
  exact scene.call_scene_of_not_isNotable asks

end Attempt.Asks

namespace Check

variable {α β : Type}

@[simp]
theorem play_reject (rejection : Rejection) (scene : Scene) :
    (Check.reject rejection : Check α).play scene
      = .finished (.ok (.error rejection)) scene :=
  rfl

@[simp]
theorem play_ofExcept (result : Except Rejection α) (scene : Scene) :
    (Check.ofExcept result).play scene = .finished (.ok result) scene :=
  rfl

@[simp]
theorem play_attempt (attempt : Attempt α) (scene : Scene) :
    (Check.attempt attempt).play scene
      = (attempt.play scene).andThen
          (Attempt.orFailure fun value scene =>
            .finished (.ok (.ok value)) scene) := by
  rw [play, caught, Check.attempt, ExceptT.run_lift, map_eq_pure_bind,
    Attempt.play_bind]
  rfl

/-- After a check that ends well the rest goes on with its value. -/
theorem play_bind_of_ends {check : Check α} {scene after : Scene} {value : α}
    (ends : check.play scene = .finished (.ok (.ok value)) after)
    (rest : α → Check β) :
    (check >>= rest).play scene = (rest value).play after := by
  rw [play_bind, ends]
  rfl

/-- A check that ends well has got a value and gone on well. -/
theorem bind_ends_well {check : Check α} {rest : α → Check β}
    {scene after : Scene} {value : β}
    (ends : (check >>= rest).play scene = .finished (.ok (.ok value)) after) :
    ∃ first middle, check.play scene = .finished (.ok (.ok first)) middle ∧
      (rest first).play middle = .finished (.ok (.ok value)) after := by
  rw [play_bind] at ends
  cases played : check.play scene with
  | finished result middle =>
      rw [played, Played.finished_andThen] at ends
      rcases result with failure | rejection | first
      · cases ends
      · cases ends
      · exact ⟨first, middle, rfl, ends⟩
  | waiting middle =>
      rw [played] at ends
      cases ends
  | collapsed middle =>
      rw [played] at ends
      cases ends

/-- A check that asks and has ended has ended where it began. -/
theorem Asks.same {check : Check α} (asks : check.Asks) {scene after : Scene}
    {result : Except Failure (Except Rejection α)}
    (ends : check.play scene = .finished result after) : scene = after := by
  have here := asks scene
  rw [ends] at here
  exact here.symm

end Check

/-! ## Inquiries only ask -/

/-- An inquiry leaves a scene as it is. -/
theorem Scene.perform_scene_of_isInquiry {scene : Scene} {action : Action}
    (inquires : action.isInquiry = true) :
    (scene.perform action).scene = scene := by
  cases action with
  | call asked =>
      apply scene.call_scene_of_not_isNotable
      simpa [Action.isInquiry] using inquires
  | clock =>
      rw [perform]
      split <;> rfl
  | _ => cases inquires

theorem Attempt.Inquires.asks {α : Type} {attempt : Attempt α}
    (inquires : attempt.Inquires) : attempt.Asks := by
  intro scene
  refine Program.Uses.keeps (fun after => after = scene) inquires ?_ rfl
  rintro after action inquires rfl
  exact Scene.perform_scene_of_isInquiry inquires

theorem Check.Inquires.asks {α : Type} {check : Check α}
    (inquires : check.Inquires) : check.Asks :=
  Attempt.Inquires.asks inquires

/-- What is required of a request is found out by asking. -/
theorem Handling.asks_check {service : Service} {intent : Intent}
    {handling : Handling} (handled : ofIntent? service intent = some handling)
    (exchange : Exchange) : (handling.check exchange).Asks :=
  (check_inquires handled exchange).asks

end ResumableUpload
