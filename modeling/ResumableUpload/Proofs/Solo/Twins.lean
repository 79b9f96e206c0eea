import ResumableUpload.Proofs.Solo.Acceptance
import ResumableUpload.Proofs.Solo.Confinement
import ResumableUpload.Proofs.Solo.Likeness
/-!
# One upload in two stores

A request that names an upload sees nothing of a store but that upload.  Here
two scenes are followed whose stores have the same record of it and are
otherwise unlike: whatever the request does to one of them it does to the
other, which `Scene.Twins` expresses by one revision of the upload that leads
from both stores to where the scenes are.  Each way in which a program changes
its scene keeps this, so each part of the protocol does, up to
`Protocol.play_handle_twins`.
-/

namespace ResumableUpload

namespace Scene

/--
Two scenes that no host watches and that have come from two stores by the same
revision of one upload.  They differ in other uploads, in leases and in what
the host has been told.
-/
structure Twins (id : String) (first second : Store) (one two : Scene) :
    Prop where
  unwatched : one.IsUnwatched ∧ two.IsUnwatched
  service : two.service = one.service
  settings : two.settings = one.settings
  clock : two.clock = one.clock
  client : two.client = { one.client with lease := two.client.lease }
  news : two.news = one.news
  revised : ∃ change?, one.store = first.revise id change? ∧
    two.store = second.revise id change?

namespace Twins

variable {id : String} {first second : Store} {one two : Scene}

/-- Twins have the same record of the upload. -/
theorem find? (same : second.find? id = first.find? id)
    (twins : Twins id first second one two) :
    two.store.find? id = one.store.find? id := by
  obtain ⟨change?, first, second⟩ := twins.revised
  rw [first, second]
  exact Store.find?_revise_congr same change?

/-- Twins stay twins when the upload is revised on both. -/
theorem revise (twins : Twins id first second one two)
    (change? : Option (Upload → Upload)) :
    Twins id first second
      { one with store := one.store.revise id change? }
      { two with store := two.store.revise id change? } := by
  obtain ⟨earlier?, left, right⟩ := twins.revised
  refine { twins with revised := ⟨earlier?.bind fun earlier =>
    change?.map fun later => later ∘ earlier, ?_, ?_⟩ }
  · rw [left, Store.revise_revise]
  · rw [right, Store.revise_revise]

theorem modify (twins : Twins id first second one two)
    (change : Upload → Upload) :
    Twins id first second { one with store := one.store.modify id change }
      { two with store := two.store.modify id change } := by
  rw [Store.modify_eq_revise, Store.modify_eq_revise]
  exact twins.revise (some change)

/-- News reach both clients in the same way. -/
theorem hear (twins : Twins id first second one two) (earlier : News)
    (later : List News) :
    Twins id first second (one.hear earlier later)
      (two.hear earlier later) where
  unwatched := twins.unwatched
  service := twins.service
  settings := twins.settings
  clock := twins.clock
  client := by
    change earlier.reach two.client = _
    rw [twins.client]
    cases earlier <;> rfl
  news := rfl
  revised := twins.revised

/-- What is read of the two bodies is the same. -/
theorem advance (twins : Twins id first second one two)
    (appending : Appending) :
    appending.advance two.client.readable two.client.cancelled
      = appending.advance one.client.readable one.client.cancelled := by
  rw [twins.client]
  rfl

/-- A stretch of an append makes the same of both. -/
theorem stretch (twins : Twins id first second one two)
    (progress : AppendProgress) (news : List News) :
    Twins id first second { one.afterStretch id progress with news := news }
      { two.afterStretch id progress with news := news } where
  unwatched := twins.unwatched
  service := twins.service
  settings := twins.settings
  clock := twins.clock
  client := by
    change { two.client with
      body := progress.rest, mayPass := false,
      cancelled := progress.cancelled } = _
    rw [twins.client]
    rfl
  news := rfl
  revised := (twins.modify fun upload =>
    { upload with content := progress.appending.content }).revised

/-- An append goes on in the same way on both. -/
theorem advanceAppend (appending : Appending) (news : List News)
    (twins : Twins id first second one two) :
    (one.advanceAppend id appending news).Alike (Twins id first second) Eq
      (two.advanceAppend id appending news) := by
  induction news generalizing one two appending with
  | nil =>
      have stretched := twins.stretch (appending.advance one.client.readable
        one.client.cancelled) []
      rw [Scene.advanceAppend, Scene.advanceAppend]
      simp only [twins.advance]
      cases (appending.advance one.client.readable
          one.client.cancelled).result with
      | some result => exact .finished rfl stretched
      | none => exact .waiting stretched
  | cons earlier later hypothesis =>
      have stretched := twins.stretch (appending.advance one.client.readable
        one.client.cancelled) (earlier :: later)
      rw [Scene.advanceAppend, Scene.advanceAppend]
      simp only [twins.advance]
      cases (appending.advance one.client.readable
          one.client.cancelled).result with
      | some result => exact .finished rfl stretched
      | none => exact hypothesis _ (stretched.hear earlier later)

/-- An append does the same to both. -/
theorem append (same : second.find? id = first.find? id) (route : Route)
    (twins : Twins id first second one two) :
    (one.append id route).Alike (Twins id first second) Eq
      (two.append id route) := by
  rw [Scene.append, Scene.append, twins.find? same]
  cases one.store.find? id with
  | none => exact .finished rfl twins
  | some upload =>
      have begun := twins.modify Upload.beginChunk
      simp only [twins.settings, twins.news] at begun ⊢
      cases Appending.begin? one.settings route upload with
      | none => exact .collapsed begun
      | some appending => exact begun.advanceAppend appending one.news

/-- The fields after the body are the same for both. -/
theorem hearTrailers (news : List News)
    (twins : Twins id first second one two) :
    (one.hearTrailers news).Alike (Twins id first second) Eq
      (two.hearTrailers news) := by
  induction news generalizing one two with
  | nil =>
      have late : Twins id first second { one with news := [] }
          { two with news := [] } := { twins with news := rfl }
      have heard : two.client.heard? = one.client.heard? := by
        rw [twins.client]
        rfl
      rw [Scene.hearTrailers, Scene.hearTrailers]
      simp only [heard]
      cases one.client.heard? with
      | some heard => exact .finished rfl late
      | none => exact .waiting late
  | cons earlier later hypothesis =>
      have late : Twins id first second { one with news := earlier :: later }
          { two with news := earlier :: later } := { twins with news := rfl }
      have heard : two.client.heard? = one.client.heard? := by
        rw [twins.client]
        rfl
      rw [Scene.hearTrailers, Scene.hearTrailers]
      simp only [heard]
      cases one.client.heard? with
      | some heard => exact .finished rfl late
      | none => exact hypothesis (late.hear earlier later)

/-- A call that concerns the upload does the same to both. -/
theorem call (same : second.find? id = first.find? id) {asked : Call}
    (concerns : asked.Concerns id) (twins : Twins id first second one two) :
    (one.call asked).Alike (Twins id first second) Eq (two.call asked) := by
  have blind : asked.looksAtClock = false := by
    cases asked with
    | expired | removeExpired => cases concerns
    | _ => rfl
  obtain ⟨reply, change?, answers⟩ := Store.answer_isLocal concerns
    (one.store.find? id) one.clock
  have left : one.store.answer one.clock asked = _ := answers one.store rfl
  have right : two.store.answer two.clock asked = _ :=
    twins.clock ▸ answers two.store (twins.find? same)
  rw [Scene.call, Scene.call, blind, left, right]
  exact .finished rfl (twins.revise change?)

/-- No action that concerns one upload tells twins apart. -/
theorem indistinct (same : second.find? id = first.find? id) :
    Indistinct (Action.Concerns id) (Twins id first second) where
  unwatched _ _ twins := twins.unwatched
  perform action one two concerns twins := by
    cases action with
    | call asked => exact twins.call same concerns
    | append other route =>
        cases concerns
        exact twins.append same route
    | trailers =>
        change (one.hearTrailers one.news).Alike _ _
          (two.hearTrailers two.news)
        rw [twins.news]
        exact twins.hearTrailers one.news
    | clock =>
        change (if one.clock.isReadable = true then _ else _ : Played _).Alike
          _ _ (if two.clock.isReadable = true then _ else _)
        rw [twins.clock]
        split
        · exact .finished rfl twins
        · exact .collapsed twins
    | tell event =>
        change (one.tell event).Alike _ _ (two.tell event)
        rw [twins.unwatched.1.tell, twins.unwatched.2.tell]
        exact .finished rfl twins
    | _ => cases concerns

end Twins

end Scene

section Alike

variable {α : Type} {id : String} {ends : α → Prop}

theorem Contract.isFair_about (id : String) (action : Action)
    (reply : action.Reply) : (Contract.about id).IsFair action reply := by
  have admits {β : Type} (result : Except Failure β) :
      (Contract.about id).Admits (fun _ => True) result := by
    cases result with
    | ok value => exact .ok trivial
    | error failure => exact .error trivial
  cases action with
  | acquire _ | call _ | append _ _ => exact admits reply
  | _ => trivial

/-- A program that is confined to one upload is like itself. -/
theorem Program.Honours.alike {program : Program α}
    (honours : program.Honours (.about id) ends) :
    program.Alike (Action.Concerns id) Eq program := by
  induction honours with
  | done good => exact .done rfl
  | act permitted _ hypothesis =>
      exact .act permitted fun reply =>
        hypothesis reply (Contract.isFair_about id _ reply)

end Alike

/-! ## The protocol on twins -/

variable {id : String} {first second : Store} {one two : Scene}
  {service : Service} {exchange : Exchange} {handling : Handling}

namespace Scene.Twins

/-- What is confined to the upload comes to the same end on twins. -/
theorem play {α : Type} (same : second.find? id = first.find? id)
    {attempt : Attempt α} (keeps : attempt.KeepsTo id)
    (twins : Twins id first second one two) :
    (attempt.play one).Alike (Twins id first second) Eq (attempt.play two) :=
  (Program.Honours.alike keeps).play (indistinct same) twins

/-- Leases do not count. -/
theorem withLeases (twins : Twins id first second one two)
    (locks locks' : LockTable) (lease lease' : Option Lease) :
    Twins id first second
      { one with locks := locks, client := { one.client with lease := lease } }
      { two with
        locks := locks', client := { two.client with lease := lease' } } where
  unwatched := twins.unwatched
  service := twins.service
  settings := twins.settings
  clock := twins.clock
  client := by rw [twins.client]
  news := twins.news
  revised := twins.revised

end Scene.Twins

namespace Protocol

open Scene (Twins)

theorem play_executeSettled_twins (same : second.find? id = first.find? id)
    (confined : handling.IsConfined) (about : exchange.IsAbout id)
    (twins : Twins id first second one two) :
    ((executeSettled handling exchange).play one).Alike
      (Twins id first second) Eq
      ((executeSettled handling exchange).play two) := by
  rw [play_executeSettled, play_executeSettled]
  refine (twins.play same (execute_keepsTo confined about)).andThen ?_
  rintro result _ _ _ rfl twins
  exact .finished rfl twins

/-- A lease is granted for both or for none, and is given back. -/
theorem play_executeLeased_twins (same : second.find? id = first.find? id)
    (locked : two.locks.isLocked id = one.locks.isLocked id)
    (confined : handling.IsConfined) (about : exchange.IsAbout id)
    (twins : Twins id first second one two) :
    ((executeLeased handling exchange).play one).Alike (Twins id first second)
      Eq ((executeLeased handling exchange).play two) := by
  have leased : Twins id first second (one.leased exchange.fileId)
      (two.leased exchange.fileId) := twins.withLeases _ _ _ _
  have named : exchange.fileId = id := about
  rw [← named] at locked
  cases free : one.locks.isLocked exchange.fileId with
  | true =>
      have held {scene : Scene}
          (locked : scene.locks.isLocked exchange.fileId = true) :
          (scene.locks.acquire exchange.fileId).1 = none := by
        rw [LockTable.acquire, locked]
        rfl
      rw [play_executeLeased_of_held (held free),
        play_executeLeased_of_held (held (locked.trans free))]
      exact .finished rfl leased
  | false =>
      obtain ⟨lease, granted⟩ := LockTable.exists_acquire free
      obtain ⟨other, granted'⟩ := LockTable.exists_acquire (locked.trans free)
      rw [play_executeLeased granted, play_executeLeased granted']
      refine (play_executeSettled_twins same confined about leased).andThen ?_
      intro _ _ _ _ values twins
      exact .finished values (twins.withLeases _ _ none none)

/-- An intent that is about one upload is handled in the same way on twins. -/
theorem play_handleIntent_twins (same : second.find? id = first.find? id)
    (locked : two.locks.isLocked id = one.locks.isLocked id)
    (confined : handling.IsConfined) (about : exchange.IsAbout id)
    (intent : Intent) (twins : Twins id first second one two) :
    ((handleIntent intent handling exchange).play one).Alike
      (Twins id first second) Eq
      ((handleIntent intent handling exchange).play two) := by
  have about : (versioned exchange).IsAbout id := about
  have passes {scene : Scene} (unwatched : scene.IsUnwatched) :
      (handleIntent intent handling exchange).play scene
        = (executeVersioned intent handling exchange).play scene := by
    rw [handleIntent, Attempt.play_bind, Attempt.play_tell, unwatched.tell]
    rfl
  rw [passes twins.unwatched.1, passes twins.unwatched.2, executeVersioned]
  split
  · exact .finished rfl twins
  · split
    · exact play_executeLeased_twins same locked confined about twins
    · exact play_executeSettled_twins same confined about twins

/-- A request that names an upload asks for one thing, which is about it. -/
theorem intentsOf_of_upload {request : Request}
    (named : Address.uploadId? service.config.urlPath request.path = some id) :
    intentsOf service request = [.notApplicable] ∨
      ∃ intent handling, intentsOf service request = [intent] ∧
        intent.namesUpload = true ∧
        Handling.ofIntent? service intent = some handling := by
  have address : Address.ofPath service.config.urlPath request.path
      = .upload id := by
    rw [Address.uploadId?] at named
    split at named
    · cases named
      assumption
    · cases named
  rw [intentsOf, Intent.ofRequest, address]
  split
  · exact .inl rfl
  · cases request.method.effective request.headers with
    | patch => exact .inr ⟨.writeFile, _, rfl, rfl, rfl⟩
    | head => exact .inr ⟨.fileInfo, _, rfl, rfl, rfl⟩
    | delete =>
        cases terminates : service.terms.supports .termination with
        | true =>
            refine .inr ⟨.deleteFile, _, ?_, rfl, rfl⟩
            simp [Intent.primary, terminates, Intent.creates]
        | false =>
            left
            simp [Intent.primary, terminates, Intent.creates]
    | _ => exact .inl rfl

/-- A request that names an upload is handled in the same way on twins. -/
theorem play_handle_twins {request : Request}
    (named : Address.uploadId? service.config.urlPath request.path = some id)
    (same : second.find? id = first.find? id)
    (locked : two.locks.isLocked id = one.locks.isLocked id)
    (twins : Twins id first second one two) :
    ((handle service request).play one).Alike (Twins id first second) Eq
      ((handle service request).play two) := by
  have about : (Exchange.ofRequest service request).IsAbout id :=
    congrArg (Option.getD · "") named
  rcases intentsOf_of_upload named with
      nothing | ⟨intent, handling, asked, names, handled⟩
  · rw [play_handle_of_notApplicable nothing,
      play_handle_of_notApplicable nothing]
    exact .finished rfl twins
  · have confined := Handling.isConfined_of_namesUpload names handled
    rw [play_handle_of_single asked handled,
      play_handle_of_single asked handled]
    refine (play_handleIntent_twins same locked confined about intent
      twins).andThen ?_
    rintro result _ _ _ rfl twins
    cases result with
    | ok done => exact .finished rfl twins
    | error failure => exact .finished rfl twins

end Protocol

end ResumableUpload
