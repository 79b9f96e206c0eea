import ResumableUpload.Proofs.Solo.Uses
/-!
# Disciplines

What a request does among others is known from its program alone, as long as
only the order of its actions and their answers matter.  An upshot is an action
with its answer, however often the action had to wait.  Rules are a machine that
reads upshots: they say where things stand after each of them, and which upshots
may not occur at all.

A program obeys rules if no upshot of its actions is against them, whatever is
answered, and if it ends only as it may where things stand then.  The lemmas
follow the way in which programs are put together.  `Program.Obeys.of_uses` says
that rules which do not care for some actions are obeyed by all programs that
make use of these actions only.
-/

namespace ResumableUpload

/-- What an action came to: what was done, and what was answered. -/
inductive Upshot where
  | acquired (id : String) (reply : Except Failure (Option Lease))
  | released (lease : Lease)
  | called (asked : Call) (reply : Except Failure asked.Reply)
  | appended (id : String) (reply : Except Failure Nat)
  | heard (trailers? : Option Headers)
  | looked (now : Instant)
  | told (event : Event) (verdict : Verdict)

namespace Action

/--
The upshot of an action with an answer.  An action that goes on with something
comes to what that would have come to without having to wait.
-/
def upshot : (action : Action) → action.Reply → Upshot
  | .acquire id, reply => .acquired id reply
  | .release lease, _ => .released lease
  | .call asked, reply => .called asked reply
  | .append id _, reply => .appended id reply
  | .trailers, reply => .heard reply
  | .clock, now => .looked now
  | .tell event, verdict => .told event verdict
  | .goOn (.calling _ asked), reply => .called asked reply
  | .goOn (.joining _ _ _ ids metadata), reply =>
      .called (.createJoined ids metadata) reply
  | .goOn (.beginning turn _), reply => .appended turn.id reply
  | .goOn (.appending turn _), reply => .appended turn.id reply
  | .goOn (.reading turn), verdict => .told (.fileComplete turn.id) verdict

/--
A call that waits and uses the record of one upload waits for that record.
-/
def IsSound : Action → Prop
  | .goOn (.calling turn asked) => ∀ id, asked.record? = some id → turn.id = id
  | _ => True

/-- Whether an action does not go on with what has been begun. -/
def isFresh : Action → Bool
  | .goOn _ => false
  | _ => true

theorem isSound_of_isFresh {action : Action} (fresh : action.isFresh = true) :
    action.IsSound := by
  cases action with
  | goOn begun => cases fresh
  | _ => trivial

end Action

/--
Where things stand after an upshot, given where they stood before; nothing, if
the upshot may not occur there.
-/
abbrev Rules (σ : Type) : Type := σ → Upshot → Option σ

/-- Where things stand after some upshots, one after another. -/
def Rules.after {σ : Type} (rules : Rules σ) (state : σ) (past : List Upshot) :
    Option σ :=
  past.foldlM rules state

theorem Rules.after_concat {σ : Type} (rules : Rules σ) (state : σ)
    (past : List Upshot) (last : Upshot) :
    rules.after state (past ++ [last])
      = (rules.after state past).bind fun state => rules state last := by
  rw [after, List.foldlM_append, ← after]
  cases rules.after state past with
  | none => rfl
  | some state =>
      change (rules state last).bind some = rules state last
      cases rules state last <;> rfl

/-- What can be told of each upshot alone can be told of all of them. -/
theorem Rules.foldl_of_after {σ τ : Type} {rules : Rules σ} {view : σ → τ}
    {tell : τ → Upshot → τ}
    (told : ∀ {state upshot next}, rules state upshot = some next →
      tell (view state) upshot = view next) {state after : σ}
    {past : List Upshot} (follows : rules.after state past = some after) :
    past.foldl tell (view state) = view after := by
  induction past generalizing state with
  | nil =>
      cases follows
      rfl
  | cons upshot later hypothesis =>
      rw [Rules.after, List.foldlM_cons] at follows
      rcases Option.bind_eq_some_iff.1 follows with ⟨next, first, follows⟩
      rw [List.foldl_cons, told first]
      exact hypothesis follows

/-! ## Programs -/

namespace Program

variable {σ α β : Type}

/--
A program none of whose actions has been begun, whose actions come to nothing
that is against the rules, and which ends only as it may.
-/
inductive Obeys (rules : Rules σ) (ends : σ → α → Prop) :
    σ → Program α → Prop where
  | done {state : σ} {value : α} (here : ends state value) :
      Obeys rules ends state (.done value)
  | act {state : σ} {action : Action} {next : action.Reply → Program α}
      (fresh : action.isFresh = true) (after : action.Reply → σ)
      (permitted : ∀ reply,
        rules state (action.upshot reply) = some (after reply))
      (later : ∀ reply, Obeys rules ends (after reply) (next reply)) :
      Obeys rules ends state (.act action next)

namespace Obeys

variable {rules : Rules σ} {ends : σ → α → Prop} {state : σ}

theorem mono {other : σ → α → Prop} {program : Program α}
    (obeys : program.Obeys rules ends state)
    (weaker : ∀ state value, ends state value → other state value) :
    program.Obeys rules other state := by
  induction obeys with
  | done here => exact .done (weaker _ _ here)
  | act fresh after permitted _ hypothesis =>
      exact .act fresh after permitted hypothesis

/-- A program obeys if its first part does and the other does after it. -/
theorem bind {between : σ → β → Prop} {program : Program β}
    {rest : β → Program α} (first : program.Obeys rules between state)
    (second : ∀ state value, between state value →
      (rest value).Obeys rules ends state) :
    (program.bind rest).Obeys rules ends state := by
  induction first with
  | done here => exact second _ _ here
  | act fresh after permitted _ hypothesis =>
      exact .act fresh after permitted hypothesis

theorem map {between : σ → β → Prop} {program : Program β} {change : β → α}
    (first : program.Obeys rules between state)
    (second : ∀ state value, between state value → ends state (change value)) :
    (change <$> program).Obeys rules ends state := by
  rw [map_eq_pure_bind]
  exact first.bind fun state value here => .done (second state value here)

/-- A fresh action obeys if it comes to nothing against the rules. -/
theorem perform {action : Action} {ends : σ → action.Reply → Prop}
    (fresh : action.isFresh = true)
    (permitted : ∀ reply, ∃ after,
      rules state (action.upshot reply) = some after ∧ ends after reply) :
    (Program.perform action).Obeys rules ends state := by
  exact .act fresh (fun reply => (permitted reply).choose)
    (fun reply => (permitted reply).choose_spec.1)
    fun reply => .done (permitted reply).choose_spec.2

/--
A program that only does what the rules do not care for obeys them, and things
stand in the end as they may have stood before.
-/
theorem of_uses {allowed : Action → Prop} {stable : σ → Prop}
    {program : Program α} (uses : program.Uses allowed)
    (harmless : ∀ state action, stable state → allowed action →
      action.isFresh = true ∧ ∀ reply, ∃ after,
        rules state (action.upshot reply) = some after ∧ stable after)
    (before : stable state) :
    program.Obeys rules (fun state _ => stable state) state := by
  induction uses generalizing state with
  | done value => exact .done before
  | @act action next here _ hypothesis =>
      rcases harmless state action before here with ⟨fresh, permitted⟩
      exact .act fresh (fun reply => (permitted reply).choose)
        (fun reply => (permitted reply).choose_spec.1)
        fun reply => hypothesis reply (permitted reply).choose_spec.2

end Obeys

/--
A program that obeys rules, except that its first action may have been begun
before and may have had to wait.
-/
def Pursues (rules : Rules σ) (ends : σ → α → Prop) (state : σ) :
    Program α → Prop
  | .done value => ends state value
  | .act action next =>
      action.IsSound ∧ ∀ reply, ∃ after,
        rules state (action.upshot reply) = some after ∧
          (next reply).Obeys rules ends after

theorem Obeys.pursues {rules : Rules σ} {ends : σ → α → Prop} {state : σ}
    {program : Program α} (obeys : program.Obeys rules ends state) :
    program.Pursues rules ends state := by
  cases obeys with
  | done here => exact here
  | act fresh after permitted later =>
      exact ⟨Action.isSound_of_isFresh fresh, fun reply =>
        ⟨after reply, permitted reply, later reply⟩⟩

end Program

/-! ## Attempts -/

/--
An end in a value, where `ends` holds of it, or in an error, where errors may
occur.
-/
def Ending {σ ε α : Type} (fails : σ → Prop) (ends : σ → α → Prop) (state : σ) :
    Except ε α → Prop
  | .ok value => ends state value
  | .error _ => fails state

/--
An attempt that obeys rules.  It may fail only where `fails` says so, and it
ends in a value only as `ends` says.
-/
def Attempt.Obeys {σ α : Type} (rules : Rules σ) (fails : σ → Prop)
    (ends : σ → α → Prop) (state : σ) (attempt : Attempt α) : Prop :=
  attempt.run.Obeys rules (Ending fails ends) state

namespace Attempt.Obeys

variable {σ α β : Type} {rules : Rules σ} {fails : σ → Prop}
  {ends : σ → α → Prop} {state : σ}

theorem pure {value : α} (here : ends state value) :
    (pure value : Attempt α).Obeys rules fails ends state :=
  Program.Obeys.done here

theorem fail {failure : Failure} (here : fails state) :
    (Attempt.fail failure : Attempt α).Obeys rules fails ends state :=
  Program.Obeys.done here

theorem mono {other : σ → α → Prop} {lost : σ → Prop} {attempt : Attempt α}
    (obeys : attempt.Obeys rules fails ends state)
    (weaker : ∀ state value, ends state value → other state value)
    (likelier : ∀ state, fails state → lost state) :
    attempt.Obeys rules lost other state := by
  refine Program.Obeys.mono obeys ?_
  intro state result here
  cases result with
  | ok value => exact weaker state value here
  | error failure => exact likelier state here

theorem bind {between : σ → β → Prop} {attempt : Attempt β}
    {rest : β → Attempt α} (first : attempt.Obeys rules fails between state)
    (second : ∀ state value, between state value →
      (rest value).Obeys rules fails ends state) :
    (attempt >>= rest).Obeys rules fails ends state := by
  unfold Obeys
  rw [ExceptT.run_bind]
  refine Program.Obeys.bind first ?_
  intro state result here
  cases result with
  | ok value => exact second state value here
  | error failure => exact .done here

/-- A program that cannot fail obeys as an attempt if it obeys. -/
theorem lift {program : Program α} (obeys : program.Obeys rules ends state) :
    Attempt.Obeys rules fails ends state (ExceptT.lift program) := by
  unfold Obeys
  rw [ExceptT.run_lift]
  exact obeys.map fun _ _ here => here

theorem call (asked : Call) {ends : σ → asked.Reply → Prop}
    (permitted : ∀ reply, ∃ after,
      rules state (.called asked reply) = some after ∧
        Ending fails ends after reply) :
    (Attempt.call asked).Obeys rules fails ends state :=
  @Program.Obeys.perform _ _ _ (.call asked) _ rfl permitted

/-- A call for which means may have to be refused. -/
theorem serviceCall (service : Service) (asked : Call)
    {ends : σ → asked.Reply → Prop} (here : fails state)
    (permitted : ∀ reply, ∃ after,
      rules state (.called asked reply) = some after ∧
        Ending fails ends after reply) :
    (service.call asked).Obeys rules fails ends state := by
  have granted : (service.permit asked).Obeys rules fails
      (fun other _ => other = state) state := by
    rw [Service.permit]
    split
    · rw [Service.require]
      split
      · exact .pure rfl
      · exact .fail here
    · exact .pure rfl
  refine bind granted ?_
  rintro state - rfl
  exact call asked permitted

theorem acquire (id : String) {ends : σ → Option Lease → Prop}
    (permitted : ∀ reply, ∃ after,
      rules state (.acquired id reply) = some after ∧
        Ending fails ends after reply) :
    (Attempt.acquire id).Obeys rules fails ends state :=
  @Program.Obeys.perform _ _ _ (.acquire id) _ rfl permitted

theorem append (id : String) (route : Route) {ends : σ → Nat → Prop}
    (permitted : ∀ reply, ∃ after,
      rules state (.appended id reply) = some after ∧
        Ending fails ends after reply) :
    (Attempt.append id route).Obeys rules fails ends state :=
  @Program.Obeys.perform _ _ _ (.append id route) _ rfl permitted

theorem tell (event : Event) {ends : σ → Verdict → Prop}
    (permitted : ∀ verdict, ∃ after,
      rules state (.told event verdict) = some after ∧ ends after verdict) :
    (Attempt.tell event).Obeys rules fails ends state :=
  lift (@Program.Obeys.perform _ _ _ (.tell event) _ rfl permitted)

/-- What rules do not care for is not against them. -/
theorem of_uses {allowed : Action → Prop} {stable : σ → Prop}
    {attempt : Attempt α} (uses : attempt.Uses allowed)
    (harmless : ∀ state action, stable state → allowed action →
      action.isFresh = true ∧ ∀ reply, ∃ after,
        rules state (action.upshot reply) = some after ∧ stable after)
    (before : stable state) :
    attempt.Obeys rules stable (fun state _ => stable state) state := by
  refine (Program.Obeys.of_uses uses harmless before).mono ?_
  intro state result here
  cases result <;> exact here

end Attempt.Obeys

/-! ## Checks -/

/-- A check that obeys rules; it may reject where it may fail. -/
def Check.Obeys {σ α : Type} (rules : Rules σ) (fails : σ → Prop)
    (ends : σ → α → Prop) (state : σ) (check : Check α) : Prop :=
  check.caught.Obeys rules fails (Ending fails ends) state

namespace Check.Obeys

variable {σ α β : Type} {rules : Rules σ} {fails : σ → Prop}
  {ends : σ → α → Prop} {state : σ}

theorem pure {value : α} (here : ends state value) :
    (pure value : Check α).Obeys rules fails ends state :=
  Program.Obeys.done here

theorem reject {rejection : Rejection} (here : fails state) :
    (Check.reject rejection : Check α).Obeys rules fails ends state :=
  Program.Obeys.done here

theorem ofExcept {result : Except Rejection α} (here : fails state)
    (accepted : ∀ value, result = .ok value → ends state value) :
    (Check.ofExcept result).Obeys rules fails ends state := by
  cases result with
  | ok value => exact Program.Obeys.done (accepted value rfl)
  | error rejection => exact Program.Obeys.done here

theorem attempt {attempt : Attempt α}
    (obeys : attempt.Obeys rules fails ends state) :
    (Check.attempt attempt).Obeys rules fails ends state := by
  unfold Obeys
  rw [Check.caught, Check.attempt, ExceptT.run_lift, map_eq_pure_bind]
  exact Attempt.Obeys.bind obeys fun state value here => Program.Obeys.done here

theorem call (asked : Call) {ends : σ → asked.Reply → Prop}
    (permitted : ∀ reply, ∃ after,
      rules state (.called asked reply) = some after ∧
        Ending fails ends after reply) :
    (Check.call asked).Obeys rules fails ends state :=
  attempt (.call asked permitted)

theorem bind {between : σ → β → Prop} {check : Check β} {rest : β → Check α}
    (first : check.Obeys rules fails between state)
    (second : ∀ state value, between state value →
      (rest value).Obeys rules fails ends state) :
    (check >>= rest).Obeys rules fails ends state := by
  unfold Obeys
  rw [Check.caught, ExceptT.run_bind]
  refine Attempt.Obeys.bind first ?_
  intro state result here
  cases result with
  | ok value => exact second state value here
  | error rejection => exact Program.Obeys.done here

end Check.Obeys

end ResumableUpload
