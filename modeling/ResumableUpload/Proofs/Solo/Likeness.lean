import ResumableUpload.Proofs.Solo.Uses
/-!
# Programs that are alike

Two programs are alike if they do the same actions in the same order and end in
related values; only what they tell the host may differ.  A host that does not
watch lets everything pass, so there alike programs come to the same end:
`Program.Alike.play`.

The scenes on which they are played need not be the same.  It is enough that no
action tells them apart, which depends on the actions that are done: a program
that has nothing to do with its client does not notice which client it has.
-/

namespace ResumableUpload

variable {α β γ δ : Type}

/-- Results with related values, or the same error. -/
inductive SameResult {ε : Type} (related : α → β → Prop) :
    Except ε α → Except ε β → Prop where
  | ok {one : α} {two : β} (values : related one two) :
      SameResult related (.ok one) (.ok two)
  | error (error : ε) : SameResult related (.error error) (.error error)

theorem SameResult.mono {ε : Type} {related others : α → β → Prop}
    (weaker : ∀ value other, related value other → others value other)
    {one : Except ε α} {two : Except ε β}
    (results : SameResult related one two) : SameResult others one two := by
  cases results with
  | ok values => exact .ok (weaker _ _ values)
  | error error => exact .error error

theorem SameResult.of_eq {ε : Type} {one two : Except ε α} (same : one = two) :
    SameResult Eq one two := by
  subst same
  cases one with
  | ok value => exact .ok rfl
  | error error => exact .error error

namespace Program

/--
Programs that do the same actions, all of them allowed, and end in related
values, if the host lets everything pass of which it is told.
-/
inductive Alike (allowed : Action → Prop) (related : α → β → Prop) :
    Program α → Program β → Prop where
  | done {one : α} {two : β} (values : related one two) :
      Alike allowed related (.done one) (.done two)
  | act {action : Action} {first : action.Reply → Program α}
      {second : action.Reply → Program β} (here : allowed action)
      (later : ∀ reply, Alike allowed related (first reply) (second reply)) :
      Alike allowed related (.act action first) (.act action second)
  | tell {event other : Event} {first : Verdict → Program α}
      {second : Verdict → Program β}
      (later : Alike allowed related (first .proceed) (second .proceed)) :
      Alike allowed related (.act (.tell event) first)
        (.act (.tell other) second)

variable {allowed : Action → Prop} {related : α → β → Prop}
  {others : γ → δ → Prop}

theorem Alike.bind {one : Program α} {two : Program β} {first : α → Program γ}
    {second : β → Program δ} (alike : one.Alike allowed related two)
    (rest : ∀ value other, related value other →
      (first value).Alike allowed others (second other)) :
    (one.bind first).Alike allowed others (two.bind second) := by
  induction alike with
  | done values => exact rest _ _ values
  | act here _ hypothesis => exact .act here hypothesis
  | tell _ hypothesis => exact .tell hypothesis

theorem Alike.mono {more : α → β → Prop} {one : Program α} {two : Program β}
    (alike : one.Alike allowed related two)
    (weaker : ∀ value other, related value other → more value other) :
    one.Alike allowed more two := by
  induction alike with
  | done values => exact .done (weaker _ _ values)
  | act here _ hypothesis => exact .act here hypothesis
  | tell _ hypothesis => exact .tell hypothesis

theorem Uses.alike {program : Program α} (uses : program.Uses allowed) :
    program.Alike allowed Eq program := by
  induction uses with
  | done value => exact .done rfl
  | act here _ hypothesis => exact .act here hypothesis

end Program

/-- Attempts that do the same, and end in related values or the same failure. -/
def Attempt.Alike (allowed : Action → Prop) (related : α → β → Prop)
    (one : Attempt α) (two : Attempt β) : Prop :=
  Program.Alike allowed (SameResult related) one.run two.run

/-- Checks that do the same, and end in related values or the same rejection. -/
def Check.Alike (allowed : Action → Prop) (related : α → β → Prop)
    (one : Check α) (two : Check β) : Prop :=
  Attempt.Alike allowed (SameResult related) one.caught two.caught

variable {allowed : Action → Prop} {related : α → β → Prop}
  {others : γ → δ → Prop}

namespace Attempt

theorem Alike.pure {one : α} {two : β} (values : related one two) :
    Alike allowed related (Pure.pure one) (Pure.pure two) :=
  .done (.ok values)

theorem Alike.bind {one : Attempt α} {two : Attempt β} {first : α → Attempt γ}
    {second : β → Attempt δ} (alike : one.Alike allowed related two)
    (rest : ∀ value other, related value other →
      (first value).Alike allowed others (second other)) :
    (one >>= first).Alike allowed others (two >>= second) := by
  unfold Alike
  rw [ExceptT.run_bind, ExceptT.run_bind]
  refine Program.Alike.bind alike ?_
  rintro _ _ (values | failure)
  · exact rest _ _ values
  · exact .done (.error failure)

theorem Uses.alike {attempt : Attempt α} (uses : attempt.Uses allowed) :
    attempt.Alike allowed Eq attempt :=
  (Program.Uses.alike uses).mono fun _ _ => .of_eq

/-- Whatever the host is told, it lets that pass. -/
theorem Alike.tell (event other : Event) :
    Alike allowed (fun one two => one = .proceed ∧ two = .proceed)
      (Attempt.tell event) (Attempt.tell other) :=
  Program.Alike.tell (.done (.ok ⟨rfl, rfl⟩))

end Attempt

namespace Check

theorem Alike.pure {one : α} {two : β} (values : related one two) :
    Alike allowed related (Pure.pure one) (Pure.pure two) :=
  Attempt.Alike.pure (.ok values)

theorem Alike.ofExcept {one : Except Rejection α} {two : Except Rejection β}
    (results : SameResult related one two) :
    Alike allowed related (Check.ofExcept one) (Check.ofExcept two) :=
  Attempt.Alike.pure results

theorem Alike.reject (rejection : Rejection) :
    Alike allowed related (Check.reject rejection)
      (Check.reject rejection) :=
  Attempt.Alike.pure (.error rejection)

theorem Alike.bind {one : Check α} {two : Check β} {first : α → Check γ}
    {second : β → Check δ} (alike : one.Alike allowed related two)
    (rest : ∀ value other, related value other →
      (first value).Alike allowed others (second other)) :
    (one >>= first).Alike allowed others (two >>= second) := by
  unfold Alike
  rw [Check.caught, ExceptT.run_bind, Check.caught, ExceptT.run_bind]
  refine Attempt.Alike.bind alike ?_
  rintro _ _ (values | rejection)
  · exact rest _ _ values
  · exact .pure (.error rejection)

theorem Uses.alike {check : Check α} (uses : check.Uses allowed) :
    check.Alike allowed Eq check :=
  (Attempt.Uses.alike uses).mono fun _ _ => .mono fun _ _ => .of_eq

end Check

/-! ## On scenes whose host does not watch -/

namespace Scene

variable {scene : Scene}

/-- The host watches nowhere. -/
def IsUnwatched (scene : Scene) : Prop :=
  ∀ hook, scene.hooks hook = none

theorem IsUnwatched.tell (unwatched : scene.IsUnwatched) (event : Event) :
    scene.tell event = .finished .proceed scene := by
  rw [Scene.tell, unwatched]
  rfl

theorem IsUnwatched.of_host {after : Scene} (unwatched : scene.IsUnwatched)
    (same : scene.SameHost after) : after.IsUnwatched := by
  intro hook
  rw [same.hooks]
  exact unwatched hook

theorem IsUnwatched.perform (unwatched : scene.IsUnwatched) (action : Action) :
    (scene.perform action).scene.IsUnwatched := by
  cases action with
  | acquire id => exact unwatched
  | release lease => exact unwatched
  | call asked => exact unwatched.of_host (scene.call_host asked)
  | append id route => exact unwatched.of_host (scene.append_host id route)
  | trailers => exact unwatched.of_host (scene.hearTrailers_host scene.news)
  | clock =>
      rw [Scene.perform]
      split <;> exact unwatched
  | tell event =>
      change (scene.tell event).scene.IsUnwatched
      rw [unwatched.tell]
      exact unwatched
  | goOn begun => exact unwatched

end Scene

/-- Ends of the same kind, in related values and with scenes that are near. -/
inductive Played.Alike (near : Scene → Scene → Prop) (related : α → β → Prop) :
    Played α → Played β → Prop where
  | finished {one : α} {two : β} {first second : Scene}
      (values : related one two) (scenes : near first second) :
      Alike near related (.finished one first) (.finished two second)
  | waiting {first second : Scene} (scenes : near first second) :
      Alike near related (.waiting first) (.waiting second)
  | collapsed {first second : Scene} (scenes : near first second) :
      Alike near related (.collapsed first) (.collapsed second)

/-- What goes on alike after alike ends comes to alike ends. -/
theorem Played.Alike.andThen {near : Scene → Scene → Prop}
    {related : α → β → Prop} {others : γ → δ → Prop} {one : Played α}
    {two : Played β} {rest : α → Scene → Played γ} {rest' : β → Scene → Played δ}
    (alike : one.Alike near related two)
    (later : ∀ value other first second, related value other →
      near first second →
        (rest value first).Alike near others (rest' other second)) :
    (one.andThen rest).Alike near others (two.andThen rest') := by
  cases alike with
  | finished values scenes => exact later _ _ _ _ values scenes
  | waiting scenes => exact .waiting scenes
  | collapsed scenes => exact .collapsed scenes

/-- The same where a failure ends what is going on. -/
theorem Played.Alike.orFailure {near : Scene → Scene → Prop}
    {related : α → β → Prop} {others : γ → δ → Prop}
    {one : Played (Except Failure α)} {two : Played (Except Failure β)}
    {rest : α → Scene → Played (Except Failure γ)}
    {rest' : β → Scene → Played (Except Failure δ)}
    (alike : one.Alike near (SameResult related) two)
    (later : ∀ value other first second, related value other →
      near first second → (rest value first).Alike near (SameResult others)
        (rest' other second)) :
    (one.andThen (Attempt.orFailure rest)).Alike near (SameResult others)
      (two.andThen (Attempt.orFailure rest')) := by
  refine alike.andThen ?_
  rintro _ _ first second (values | failure) scenes
  · exact later _ _ first second values scenes
  · exact .finished (.error failure) scenes

/-- Scenes that no host watches and that no allowed action tells apart. -/
structure Scene.Indistinct (allowed : Action → Prop)
    (near : Scene → Scene → Prop) : Prop where
  unwatched : ∀ first second, near first second →
    first.IsUnwatched ∧ second.IsUnwatched
  perform : ∀ action first second, allowed action → near first second →
    (first.perform action).Alike near Eq (second.perform action)

/-- Alike programs come to the same end where nothing tells them apart. -/
theorem Program.Alike.play {near : Scene → Scene → Prop} {one : Program α}
    {two : Program β} (alike : one.Alike allowed related two)
    (indistinct : Scene.Indistinct allowed near) {first second : Scene}
    (scenes : near first second) :
    (one.play first).Alike near related (two.play second) := by
  induction alike generalizing first second with
  | done values => exact .finished values scenes
  | @act action first' second' here _ hypothesis =>
      have performed := indistinct.perform action _ _ here scenes
      rw [Program.play, Program.play]
      generalize first.perform action = one at performed ⊢
      generalize second.perform action = two at performed ⊢
      cases performed with
      | finished values scenes =>
          subst values
          exact hypothesis _ scenes
      | waiting scenes => exact .waiting scenes
      | collapsed scenes => exact .collapsed scenes
  | tell _ hypothesis =>
      obtain ⟨unwatched, unwatched'⟩ := indistinct.unwatched _ _ scenes
      rw [Program.play, Program.play]
      change (((first.tell _).andThen _).Alike near related
        ((second.tell _).andThen _))
      rw [unwatched.tell, unwatched'.tell]
      exact hypothesis scenes

namespace Scene

/-- The same scene, and no host that watches. -/
def IsSame (first second : Scene) : Prop :=
  second = first ∧ first.IsUnwatched

/-- No action tells a scene from itself. -/
theorem indistinct_isSame : Indistinct (fun _ => True) IsSame where
  unwatched first second := by
    rintro ⟨rfl, unwatched⟩
    exact ⟨unwatched, unwatched⟩
  perform action first second := by
    rintro - ⟨rfl, unwatched⟩
    have still := unwatched.perform action
    generalize second.perform action = played at still ⊢
    cases played with
    | finished reply after => exact .finished rfl ⟨rfl, still⟩
    | waiting after => exact .waiting ⟨rfl, still⟩
    | collapsed after => exact .collapsed ⟨rfl, still⟩

/-- The scene with another client, whom other news will reach. -/
def visitedBy (scene : Scene) (client : Client) (news : List News) : Scene :=
  { scene with client := client, news := news }

/-- The same scene but for the client, and no host that watches. -/
def IsVisitedBy (client : Client) (news : List News) (first second : Scene) :
    Prop :=
  second = first.visitedBy client news ∧ first.IsUnwatched

end Scene

/-- Whether an action has to do with the store and the time alone. -/
def Action.leavesClient : Action → Bool
  | .call _ | .clock => true
  | _ => false

theorem Action.leavesClient_of_isInquiry {action : Action}
    (inquires : action.isInquiry = true) : action.leavesClient = true := by
  cases action with
  | call asked => rfl
  | clock => rfl
  | _ => cases inquires

/-- What has to do with the store alone does not tell clients apart. -/
theorem Scene.indistinct_isVisitedBy (client : Client) (news : List News) :
    Indistinct (fun action => action.leavesClient = true)
      (IsVisitedBy client news) where
  unwatched first second := by
    rintro ⟨rfl, unwatched⟩
    exact ⟨unwatched, unwatched⟩
  perform action first second := by
    rintro leaves ⟨rfl, unwatched⟩
    have still := unwatched.perform action
    cases action with
    | call asked =>
        change (first.call asked).scene.IsUnwatched at still
        change (first.call asked).Alike _ _
          ((first.visitedBy client news).call asked)
        rw [call, call]
        change (if (asked.looksAtClock && !first.clock.isReadable) = true
          then _ else _ : Played _).Alike _ _
          (if (asked.looksAtClock && !first.clock.isReadable) = true
            then _ else _)
        split
        · exact .collapsed ⟨rfl, unwatched⟩
        · exact .finished rfl ⟨rfl, unwatched⟩
    | clock =>
        change (if first.clock.isReadable = true then _ else _ : Played _).Alike
          _ _ (if first.clock.isReadable = true then _ else _)
        split
        · exact .finished rfl ⟨rfl, unwatched⟩
        · exact .collapsed ⟨rfl, unwatched⟩
    | _ => cases leaves

end ResumableUpload
