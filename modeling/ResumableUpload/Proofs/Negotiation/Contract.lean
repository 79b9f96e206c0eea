import ResumableUpload.Exchange.Protocol
/-!
# Contracts

What answers a program need not be a server: it may be any store, any table of
leases and any host, with a state of their own and with whatever answers.  Such
surroundings may also never answer, and then that was all that was done.

A contract says which actions a program may do and in which failures it may
end, as long as its surroundings fail in no other way.  The rules for keeping a
contract follow the way in which programs are put together, and a program that
keeps one keeps it among all surroundings that are fair.
-/

namespace ResumableUpload

/-! ## Surroundings -/

/-- What answers the actions of a program, with a state of its own. -/
structure Surroundings (State : Type) where
  /-- The answer to an action, unless there never is one. -/
  answer : State → (action : Action) → Option (action.Reply × State)

/-- What a program has done, and what it ended in, if it has ended. -/
structure Transcript (α : Type) where
  /-- The actions, in order. -/
  actions : List Action
  result? : Option α

namespace Program

variable {State α : Type}

/-- The transcript of a program among surroundings in a state. -/
def among (program : Program α) (surroundings : Surroundings State)
    (state : State) : Transcript α :=
  match program with
  | .done value => ⟨[], some value⟩
  | .act action next =>
      match surroundings.answer state action with
      | none => ⟨[action], none⟩
      | some (reply, state) =>
          let later := (next reply).among surroundings state
          ⟨action :: later.actions, later.result?⟩

end Program

/-! ## Keeping a contract -/

/-- What a program may do, and in which failures it may end. -/
structure Contract where
  permits : Action → Prop
  bears : Failure → Prop

/-- A result that is as it should be, or a failure that a contract allows. -/
inductive Contract.Admits (contract : Contract) {α : Type} (ends : α → Prop) :
    Except Failure α → Prop where
  | ok {value : α} (good : ends value) : Admits contract ends (.ok value)
  | error {failure : Failure} (borne : contract.bears failure) :
      Admits contract ends (.error failure)

/-- An answer that is no failure but one that the contract allows. -/
def Contract.IsFair (contract : Contract) :
    (action : Action) → action.Reply → Prop
  | .acquire _, reply => contract.Admits (fun _ => True) reply
  | .call _, reply => contract.Admits (fun _ => True) reply
  | .append _ _, reply => contract.Admits (fun _ => True) reply
  | .release _, _ | .trailers, _ | .clock, _ | .tell _, _ | .goOn _, _ => True

/-- Surroundings that fail only as a contract allows. -/
def Surroundings.AreFair {State : Type} (surroundings : Surroundings State)
    (contract : Contract) : Prop :=
  ∀ state action reply after,
    surroundings.answer state action = some (reply, after) →
      contract.IsFair action reply

/--
A program that does only what a contract permits, and ends as it should, as
long as the answers are fair.
-/
inductive Program.Honours (contract : Contract) {α : Type} (ends : α → Prop) :
    Program α → Prop where
  | done {value : α} (good : ends value) : Honours contract ends (.done value)
  | act {action : Action} {next : action.Reply → Program α}
      (permitted : contract.permits action)
      (later : ∀ reply, contract.IsFair action reply →
        Honours contract ends (next reply)) :
      Honours contract ends (.act action next)

/-- An attempt that keeps a contract and, if it does not fail, ends well. -/
def Attempt.Honours (contract : Contract) {α : Type} (ends : α → Prop)
    (attempt : Attempt α) : Prop :=
  Program.Honours contract (contract.Admits ends) attempt.run

/-- A check that keeps a contract and, if it rejects nothing, ends well. -/
def Check.Honours (contract : Contract) {α : Type} (ends : α → Prop)
    (check : Check α) : Prop :=
  Attempt.Honours contract (fun result => ∀ value, result = .ok value →
    ends value) check.caught

variable {contract : Contract} {α β : Type}

namespace Program.Honours

theorem mono {ends goals : α → Prop} {program : Program α}
    (honours : program.Honours contract ends)
    (stronger : ∀ value, ends value → goals value) :
    program.Honours contract goals := by
  induction honours with
  | done good => exact .done (stronger _ good)
  | act permitted _ hypothesis => exact .act permitted hypothesis

theorem bind {middle : α → Prop} {ends : β → Prop} {program : Program α}
    {rest : α → Program β} (first : program.Honours contract middle)
    (second : ∀ value, middle value → (rest value).Honours contract ends) :
    (program.bind rest).Honours contract ends := by
  induction first with
  | done good => exact second _ good
  | act permitted _ hypothesis => exact .act permitted hypothesis

/--
Among fair surroundings a program that keeps a contract does nothing that the
contract does not permit, and ends well if it ends.
-/
theorem among {State : Type} {ends : α → Prop} {program : Program α}
    {surroundings : Surroundings State}
    (honours : program.Honours contract ends)
    (fair : surroundings.AreFair contract) (state : State) :
    (∀ action ∈ (program.among surroundings state).actions,
        contract.permits action) ∧
      ∀ value, (program.among surroundings state).result? = some value →
        ends value := by
  induction honours generalizing state with
  | @done value good =>
      refine ⟨fun action taken => absurd taken (List.not_mem_nil), ?_⟩
      intro other ended
      cases ended
      exact good
  | @act action next permitted _ hypothesis =>
      rw [Program.among]
      cases answered : surroundings.answer state action with
      | none =>
          refine ⟨fun other taken => ?_, fun value ended => nomatch ended⟩
          rw [List.mem_singleton.1 taken]
          exact permitted
      | some answer =>
          obtain ⟨reply, after⟩ := answer
          have later := hypothesis reply (fair _ _ _ _ answered) after
          refine ⟨fun other taken => ?_, later.2⟩
          rcases List.mem_cons.1 taken with rfl | taken
          · exact permitted
          · exact later.1 other taken

end Program.Honours

namespace Attempt.Honours

theorem pure {ends : α → Prop} {value : α} (good : ends value) :
    (pure value : Attempt α).Honours contract ends :=
  Program.Honours.done (.ok good)

theorem fail {ends : α → Prop} {failure : Failure}
    (borne : contract.bears failure) :
    (Attempt.fail failure : Attempt α).Honours contract ends :=
  Program.Honours.done (.error borne)

theorem bind {middle : α → Prop} {ends : β → Prop} {attempt : Attempt α}
    {rest : α → Attempt β} (first : attempt.Honours contract middle)
    (second : ∀ value, middle value → (rest value).Honours contract ends) :
    (attempt >>= rest).Honours contract ends := by
  unfold Honours
  rw [ExceptT.run_bind]
  refine Program.Honours.bind first ?_
  intro result admitted
  cases admitted with
  | ok good => exact second _ good
  | error borne => exact fail borne

/-- A program that cannot fail ends as it does. -/
theorem lift {ends : α → Prop} {program : Program α}
    (honours : program.Honours contract ends) :
    Attempt.Honours contract ends (ExceptT.lift program) := by
  unfold Honours
  rw [ExceptT.run_lift, map_eq_pure_bind]
  exact honours.bind fun _ good => pure good

/-- A program whose result may be a failure is an attempt. -/
theorem mk {ends : α → Prop} {program : Program (Except Failure α)}
    (honours : program.Honours contract (contract.Admits ends)) :
    Attempt.Honours contract ends (ExceptT.mk program) :=
  honours

theorem call {asked : Call} (permitted : contract.permits (.call asked)) :
    (Attempt.call asked).Honours contract fun _ => True :=
  .act permitted fun _ fair => .done fair

theorem append {id : String} {route : Route}
    (permitted : contract.permits (.append id route)) :
    (Attempt.append id route).Honours contract fun _ => True :=
  .act permitted fun _ fair => .done fair

theorem acquire {id : String} (permitted : contract.permits (.acquire id)) :
    (Attempt.acquire id).Honours contract fun _ => True :=
  .act permitted fun _ fair => .done fair

theorem now (permitted : contract.permits .clock) :
    Attempt.now.Honours contract fun _ => True :=
  lift (.act permitted fun _ _ => .done trivial)

theorem trailers (permitted : contract.permits .trailers) :
    Attempt.trailers.Honours contract fun _ => True :=
  lift (.act permitted fun _ _ => .done trivial)

theorem tell {event : Event} (permitted : contract.permits (.tell event)) :
    (Attempt.tell event).Honours contract fun _ => True :=
  lift (.act permitted fun _ _ => .done trivial)

end Attempt.Honours

namespace Check.Honours

theorem pure {ends : α → Prop} {value : α} (good : ends value) :
    (pure value : Check α).Honours contract ends := by
  refine Attempt.Honours.pure ?_
  intro other same
  cases same
  exact good

theorem reject {ends : α → Prop} (rejection : Rejection) :
    (Check.reject rejection : Check α).Honours contract ends :=
  Attempt.Honours.pure fun _ same => nomatch same

theorem ofExcept {ends : α → Prop} {result : Except Rejection α}
    (good : ∀ value, result = .ok value → ends value) :
    (Check.ofExcept result).Honours contract ends :=
  Attempt.Honours.pure good

theorem attempt {ends : α → Prop} {attempt : Attempt α}
    (honours : attempt.Honours contract ends) :
    (Check.attempt attempt).Honours contract ends := by
  unfold Honours
  rw [Check.caught, Check.attempt, ExceptT.run_lift, map_eq_pure_bind]
  refine honours.bind fun value good => Attempt.Honours.pure ?_
  intro other same
  cases same
  exact good

theorem bind {middle : α → Prop} {ends : β → Prop} {check : Check α}
    {rest : α → Check β} (first : check.Honours contract middle)
    (second : ∀ value, middle value → (rest value).Honours contract ends) :
    (check >>= rest).Honours contract ends := by
  unfold Honours
  rw [Check.caught, ExceptT.run_bind]
  refine Attempt.Honours.bind first ?_
  intro result good
  cases result with
  | ok value => exact second value (good value rfl)
  | error rejection => exact reject rejection

end Check.Honours

end ResumableUpload
