import ResumableUpload.Proofs.Growth
import ResumableUpload.Proofs.Solo.Completion
/-!
# What is announced

The host is told that an upload is complete by an act of its own.  A chronicle
of a stretch of the life of a store lists these announcements with the store as
it was then: between them there are deeds, and what is announced has become
complete by the deeds just before.  From this alone it follows that nothing is
announced twice, by `Chronicle.nodup`.
-/

namespace ResumableUpload

variable {service : Service} {exchange checked : Exchange}
  {scene after : Scene} {id : String}

/-! ## Announcements -/

namespace Act

/-- The upload that an act calls complete, with the store at that moment. -/
def completion? (act : Act) : Option (String × Store) :=
  match act.action with
  | .tell event => event.completed?.map fun id => (id, act.store)
  | _ => none

/-- The uploads that are called complete by some acts, in order. -/
def completions (acts : List Act) : List (String × Store) :=
  acts.filterMap completion?

@[simp]
theorem completions_append (earlier later : List Act) :
    completions (earlier ++ later)
      = completions earlier ++ completions later :=
  List.filterMap_append

theorem completions_of_forall {acts : List Act}
    (silent : ∀ act ∈ acts, act.completion? = none) : completions acts = [] :=
  List.filterMap_eq_nil_iff.2 silent

/-- Nothing light calls an upload complete. -/
theorem AllLight.completions {acts : List Act} (light : AllLight acts) :
    completions acts = [] := by
  apply completions_of_forall
  rintro ⟨action, reply?, store⟩ present
  have light := light _ present
  cases action with
  | tell event =>
      have silent : event.completed? = none := Option.isNone_iff_eq_none.1 light
      exact congrArg (Option.map fun id => (id, store)) silent
  | _ => rfl

/-- Work does not call an upload complete. -/
theorem completions_of_works {α : Type} {attempt : Attempt α}
    (works : attempt.OnlyWorks) (scene : Scene) :
    completions (attempt.actsOn scene) = [] := by
  apply completions_of_forall
  rintro ⟨action, reply?, store⟩ present
  have works := Program.Uses.of_mem works present
  cases action with
  | tell event => cases works
  | _ => rfl

theorem completions_tell (event : Event) (scene : Scene) :
    completions ((Attempt.tell event).actsOn scene)
      = (event.completed?.map fun id => (id, scene.store)).toList := by
  rw [Attempt.actsOn_tell]
  cases told : event.completed? <;>
    simp [completions, completion?, told]

end Act

open Act (completions)

namespace Protocol

/-- The host is told that an upload is complete which the outcome calls so. -/
theorem completions_tellCreated (exchange : Exchange) (id : String)
    (length : Option Nat) (complete : Bool) (scene : Scene) :
    completions
        ((tellCreated exchange id length complete).actsOn scene)
      = ((Outcome.created id length complete).completed?.map
          fun id => (id, scene.store)).toList ∨
    ¬scene.HostAgrees ∧ completions
      ((tellCreated exchange id length complete).actsOn scene) = [] := by
  have told := scene.tell_told (.createComplete id length exchange.metadata
    exchange.part exchange.headers)
  have agrees (agrees : scene.HostAgrees) := scene.tell_of_agrees agrees
    (.createComplete id length exchange.metadata exchange.part exchange.headers)
  rw [tellCreated, Attempt.actsOn_bind, Act.completions_append,
    Act.completions_tell, Attempt.play_tell]
  generalize scene.tell (.createComplete id length exchange.metadata
    exchange.part exchange.headers) = played at told agrees ⊢
  cases played with
  | waiting middle | collapsed middle =>
      refine .inr ⟨fun host => ?_, rfl⟩
      rcases agrees host with ⟨_, _, contrary, -⟩
      cases contrary
  | finished verdict middle =>
      have same : middle.store = scene.store := told.store
      rw [Played.finished_andThen, Played.finished_further,
        Attempt.furtherOk_ok]
      cases failed : verdict.failed with
      | true =>
          refine .inr ⟨fun host => ?_, rfl⟩
          rcases agrees host with ⟨_, _, same, passes, -⟩
          cases same
          rw [failed] at passes
          cases passes
      | false =>
          cases complete with
          | false => exact .inl rfl
          | true =>
              left
              rw [← same]
              exact Act.completions_tell (.fileComplete id) middle

theorem completions_tellOutcome (exchange : Exchange) (outcome : Outcome)
    (scene : Scene) :
    completions ((tellOutcome exchange outcome).actsOn scene)
      = (outcome.completed?.map fun id => (id, scene.store)).toList ∨
    ¬scene.HostAgrees ∧
      completions ((tellOutcome exchange outcome).actsOn scene) = [] := by
  cases outcome with
  | created id length complete =>
      exact completions_tellCreated exchange id length complete scene
  | written id complete =>
      left
      cases complete with
      | true => exact Act.completions_tell (.fileComplete id) scene
      | false => rfl
  | deleted id => exact .inl (Act.completions_tell (.deleteComplete id) scene)
  | settled => exact .inl rfl

/-- What is announced when a handling is carried out is its outcome. -/
theorem completions_carryOut {intent : Intent} {handling : Handling}
    (handled : Handling.ofIntent? service intent = some handling)
    (checked : Exchange) (scene : Scene) :
    (completions ((carryOut handling checked).actsOn scene) = [] ∧
      ∀ done after, (carryOut handling checked).play scene
        ≠ .finished (.ok done) after) ∨
    ∃ done outcome last,
      (handling.carryOut checked).play scene
        = .finished (.ok (done, outcome)) last ∧
      completions ((carryOut handling checked).actsOn scene)
        = completions ((tellOutcome done outcome).actsOn last) := by
  have silent := Act.completions_of_works
    (Handling.carryOut_works handled checked) scene
  rw [carryOut]
  rcases Attempt.bind_cases (handling.carryOut checked) (fun done => do
      let verdict ← tellOutcome done.1 done.2
      return if verdict.failed then done.1.refuse verdict else done.1) scene
      with ⟨acts, -, fails⟩ | ⟨⟨done, outcome⟩, last, ends, acts, -⟩
  · exact .inl ⟨acts ▸ silent, fails⟩
  · refine .inr ⟨done, outcome, last, ends, ?_⟩
    rw [acts, Act.completions_append, silent, List.nil_append,
      Attempt.actsOn_bind_pure]

end Protocol

/-! ## Chronicles -/

/--
What is announced while deeds lead from one store to another, with the store as
it was at each announcement.  What is announced has just become complete.
-/
inductive Chronicle (service : Service) (before : Store) :
    List (String × Store) → Store → Prop where
  | quiet {after : Store} (deeds : Store.Deeds service before after) :
      Chronicle service before [] after
  | told {moments : List (String × Store)} {middle moment after : Store}
      {id : String} (earlier : Chronicle service before moments middle)
      (lacking : ¬middle.HasComplete id)
      (works : Store.Deeds service middle moment)
      (complete : moment.HasComplete id)
      (later : Store.Deeds service moment after) :
      Chronicle service before (moments ++ [(id, moment)]) after

namespace Chronicle

variable {before middle after : Store} {moments : List (String × Store)}

theorem of_eq (same : after = before) : Chronicle service before [] after :=
  .quiet (.of_eq same)

theorem more (chronicle : Chronicle service before moments middle)
    (deeds : Store.Deeds service middle after) :
    Chronicle service before moments after := by
  cases chronicle with
  | quiet earlier => exact .quiet (earlier.trans deeds)
  | told earlier lacking works complete later =>
      exact .told earlier lacking works complete (later.trans deeds)

theorem trans {others : List (String × Store)}
    (first : Chronicle service before moments middle)
    (second : Chronicle service middle others after) :
    Chronicle service before (moments ++ others) after := by
  induction second with
  | quiet deeds =>
      rw [List.append_nil]
      exact first.more deeds
  | told _ lacking works complete later hypothesis =>
      rw [← List.append_assoc]
      exact .told hypothesis lacking works complete later

theorem deeds (chronicle : Chronicle service before moments after) :
    Store.Deeds service before after := by
  induction chronicle with
  | quiet deeds => exact deeds
  | told _ _ works _ later hypothesis =>
      exact hypothesis.trans (works.trans later)

/-- What is announced is complete, between the deeds before and after. -/
theorem between (chronicle : Chronicle service before moments after)
    {id : String} {moment : Store} (told : (id, moment) ∈ moments) :
    Store.Deeds service before moment ∧ moment.HasComplete id ∧
      Store.Deeds service moment after := by
  induction chronicle with
  | quiet deeds => cases told
  | told earlier lacking works complete later hypothesis =>
      rcases List.mem_append.1 told with sooner | now
      · rcases hypothesis sooner with ⟨begun, there, rest⟩
        exact ⟨begun, there, rest.trans (works.trans later)⟩
      · cases List.mem_singleton.1 now
        exact ⟨earlier.deeds.trans works, complete, later⟩

end Chronicle

/-- Between two times at which an upload is complete it has always been so. -/
theorem Store.HasComplete.between {before middle after : Store}
    (all : service.AccommodatesAll before)
    (first : Store.Deeds service before middle)
    (second : Store.Deeds service middle after)
    (earlier : before.HasComplete id) (later : after.HasComplete id) :
    middle.HasComplete id := by
  rcases earlier with ⟨upload, found, complete⟩
  rcases later with ⟨written, left, -⟩
  rcases first.exists_between all.numbered second found left with ⟨kept, there⟩
  have grows := first.grows all found there
  exact ⟨kept, there,
    grows.isComplete ((all.deeds first).records id kept there) complete⟩

/-- Nothing is announced twice. -/
theorem Chronicle.nodup {before after : Store}
    {moments : List (String × Store)} (all : service.AccommodatesAll before)
    (chronicle : Chronicle service before moments after) :
    (moments.map Prod.fst).Nodup := by
  induction chronicle with
  | quiet deeds => exact List.nodup_nil
  | @told moments middle moment after id earlier lacking works complete later
      hypothesis =>
      rw [List.map_append, List.nodup_append]
      refine ⟨hypothesis, List.pairwise_singleton _ _, ?_⟩
      intro other sooner _ now same
      cases List.mem_singleton.1 now
      subst same
      rcases List.mem_map.1 sooner with ⟨⟨_, first⟩, present, rfl⟩
      -- If it had been announced before, it would have been complete all along.
      rcases earlier.between present with ⟨begun, there, rest⟩
      exact lacking (.between (all.deeds begun) rest works there complete)

/-- What an attempt does to the store and announces is a chronicle. -/
def Attempt.Chronicles {α : Type} (service : Service) (attempt : Attempt α)
    (scene : Scene) : Prop :=
  Chronicle service scene.store (completions (attempt.actsOn scene))
    (attempt.play scene).scene.store

namespace Attempt.Chronicles

variable {α β : Type}

theorem pure (value : α) (scene : Scene) :
    (pure value : Attempt α).Chronicles service scene :=
  .of_eq rfl

theorem bind {attempt : Attempt α} {rest : α → Attempt β}
    (first : attempt.Chronicles service scene)
    (second : ∀ value after, attempt.play scene = .finished (.ok value) after →
      (rest value).Chronicles service after) :
    (attempt >>= rest).Chronicles service scene := by
  rw [Chronicles] at first ⊢
  rcases Attempt.bind_cases attempt rest scene with
      ⟨acts, same, -⟩ | ⟨value, middle, ends, acts, plays⟩
  · rw [acts, same]
    exact first
  · rw [acts, plays, Act.completions_append]
    rw [ends] at first
    exact first.trans (second value middle ends)

/-- A failure that is a value is announced as before. -/
theorem lift {attempt : Attempt α}
    (chronicles : attempt.Chronicles service scene) :
    Attempt.Chronicles service (ExceptT.lift attempt.caught) scene := by
  rw [Chronicles, Attempt.actsOn_lift, Attempt.play_lift]
  rw [Chronicles] at chronicles
  change Chronicle service scene.store (completions (attempt.actsOn scene))
    ((attempt.play scene).andThen _).scene.store
  generalize attempt.play scene = played at chronicles ⊢
  cases played <;> exact chronicles

end Attempt.Chronicles

namespace Protocol

variable {intent : Intent} {handling : Handling}

theorem carryOut_chronicles
    (handled : Handling.ofIntent? service intent = some handling)
    (unchecked : Handling.IsUnchecked exchange) {asked : Scene}
    (checks : (handling.check exchange).play asked
      = .finished (.ok (.ok checked)) asked)
    (same : scene.store = asked.store) (numbered : scene.store.IsNumbered) :
    (carryOut handling checked).Chronicles service scene := by
  have deeds := Handling.carryOut_deeds handled unchecked checks same
  rw [Attempt.Chronicles, (carryOut_told handling checked scene).store]
  rcases completions_carryOut handled checked scene with
      ⟨nothing, -⟩ | ⟨done, outcome, last, ends, acts⟩
  · rw [nothing]
    exact .quiet deeds
  · rw [acts]
    have ended := Handling.carryOut_ends handled unchecked checks same numbered
      ends
    rw [ends] at deeds ⊢
    rcases completions_tellOutcome done outcome last with told | ⟨-, nothing⟩
    · rw [told]
      cases called : outcome.completed? with
      | none => exact .quiet deeds
      | some id =>
          cases ended with
          | done completes _ =>
              exact .told (.quiet .refl) (completes.lacking id called) deeds
                (completes.complete id called) .refl
          | refused _ _ silent =>
              rw [silent done outcome rfl] at called
              cases called
    · rw [nothing]
      exact .quiet deeds

theorem handleIntent_chronicles
    (handled : Handling.ofIntent? service intent = some handling)
    (unchecked : Handling.IsUnchecked exchange)
    (numbered : scene.store.IsNumbered) :
    (handleIntent intent handling exchange).Chronicles service scene := by
  have course := handleIntent_course handled exchange scene
  rw [Attempt.Chronicles]
  generalize (handleIntent intent handling exchange).actsOn scene = acts
    at course ⊢
  generalize (handleIntent intent handling exchange).play scene = played
    at course ⊢
  cases course with
  | stops light sight refused =>
      rw [light.completions]
      exact .of_eq sight.store
  | @works checked asked told earlier later finish sight checks telling _
      before after finishes =>
      have same : told.store = scene.store :=
        telling.store.trans sight.store
      have chronicle := carryOut_chronicles handled unchecked.versioned checks
        telling.store (same ▸ numbered)
      rw [Attempt.Chronicles, same] at chronicle
      rw [Act.completions_append, Act.completions_append, before.completions,
        after.completions, List.nil_append, List.append_nil]
      generalize (carryOut handling checked).play told = played
        at chronicle ⊢
      cases played with
      | waiting last | collapsed last => exact chronicle
      | finished result last =>
          have still : (finish last).store = last.store := (finishes last).store
          exact chronicle.more (.of_eq still)

theorem handleSecond_chronicles (service : Service) (exchange : Exchange)
    (second? : Option Intent) (numbered : scene.store.IsNumbered) :
    (handleSecond service exchange second?).Chronicles service scene := by
  rw [handleSecond.eq_def]
  split
  · rename_i intent handling id identified handled
    split
    · exact .bind (.lift (handleIntent_chronicles handled
        (.continueWith exchange id) numbered)) fun _ _ _ => .pure _ _
    · exact .pure _ scene
  · exact .pure _ scene

/-- What a request does and what is announced meanwhile is a chronicle. -/
theorem handle_chronicles (service : Service) (request : Request)
    (numbered : scene.store.IsNumbered) :
    (handle service request).Chronicles service scene := by
  rw [handle]
  split
  · exact .pure _ scene
  · rename_i first rest _
    split
    · exact .pure _ scene
    · rename_i handling handled
      have handles := handleIntent_chronicles handled
        (.ofRequest service request) numbered
      refine .bind handles ?_
      intro exchange after ends
      have deeds := handles.deeds
      rw [ends] at deeds
      exact .bind (handleSecond_chronicles service exchange rest.head?
        (Store.Deeds.created_le numbered deeds).1) fun _ _ _ => .pure _ _

end Protocol

end ResumableUpload
