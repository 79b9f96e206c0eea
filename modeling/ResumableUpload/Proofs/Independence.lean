import ResumableUpload.Proofs.Leasing
import ResumableUpload.Proofs.Solo.Alone
import ResumableUpload.Proofs.Solo.Twins
/-!
# Requests about different uploads

A request that names an upload in its path looks at that upload alone and
changes no other, whatever it asks for and however it ends.  So two requests
that name different uploads do not notice each other: in either order each of
them is answered in the same way, and what they leave is the same.
`Server.visits_commute` says so of every server on which nobody waits, nothing
fails and no host watches, whatever is stored there and whoever holds leases.
-/

namespace ResumableUpload

/-- However alike programs have ended, their scenes are near. -/
theorem Played.Alike.scenes {α β : Type} {near : Scene → Scene → Prop}
    {related : α → β → Prop} {one : Played α} {two : Played β}
    (alike : one.Alike near related two) : near one.scene two.scene := by
  cases alike <;> assumption

namespace Server

/--
What is said of two requests is the same.  Of requests that are given up
nothing is said but that they waited.
-/
inductive Handled.Same : Handled → Handled → Prop where
  | answered (answer : Answer) : Same (.answered answer) (.answered answer)
  | failed (failure : Failure) : Same (.failed failure) (.failed failure)
  | collapsed : Same .collapsed .collapsed
  | waiting (one two : Program (Except Failure Answer)) :
      Same (.waiting one) (.waiting two)

theorem Handled.Tells.same {near : Scene → Scene → Prop}
    {one two : Played (Except Failure Answer)} {first second : Handled}
    (told : first.Tells one) (told' : second.Tells two)
    (alike : one.Alike near Eq two) : first.Same second := by
  cases alike with
  | finished values _ =>
      subst values
      cases told with
      | answered answer _ =>
          cases told'
          exact .answered answer
      | failed failure _ =>
          cases told'
          exact .failed failure
  | waiting _ =>
      cases told
      cases told'
      exact .waiting _ _
  | collapsed _ =>
      cases told
      cases told'
      exact .collapsed

end Server

/-- The upload that the path of a request names. -/
def Visit.uploadId? (visit : Visit) (service : Service) : Option String :=
  Address.uploadId? service.config.urlPath visit.request.path

namespace Server

/-- Two servers do not differ in what matters to requests about one upload. -/
structure AgreeAbout (id : String) (one two : Server) : Prop where
  service : two.service = one.service
  settings : two.settings = one.settings
  clock : two.clock = one.clock
  record : two.store.find? id = one.store.find? id
  locked : two.locks.isLocked id = one.locks.isLocked id

/--
A request that names an upload is answered in the same way on servers that
agree about that upload, and revises it in the same way on both.
-/
theorem AgreeAbout.visit {one two : Server} {id : String} {visit : Visit}
    (agree : AgreeAbout id one two) (alone : one.IsAlone) (alone' : two.IsAlone)
    (named : visit.uploadId? one.service = some id) :
    (one.visit visit).1.Same (two.visit visit).1 ∧
      ∃ change?, (one.visit visit).2.2.store = one.store.revise id change? ∧
        (two.visit visit).2.2.store = two.store.revise id change? := by
  have twins : Scene.Twins id one.store two.store
      (one.scene visit.client visit.news)
      (two.scene visit.client visit.news) :=
    { unwatched := ⟨alone.unwatched, alone'.unwatched⟩
      service := agree.service
      settings := agree.settings
      clock := agree.clock
      client := rfl
      news := rfl
      revised := ⟨some fun upload => upload, (Store.revise_same _ _).symm,
        (Store.revise_same _ _).symm⟩ }
  have handled := Protocol.play_handle_twins named agree.record agree.locked
    twins
  have depicts := alone.quiet.visit_depicts visit
  have depicts' := alone'.quiet.visit_depicts visit
  rw [agree.service] at depicts'
  refine ⟨depicts.tells.same depicts'.tells handled, ?_⟩
  rw [depicts.store, depicts'.store, Played.left_store, Played.left_store]
  exact handled.scenes.revised

/-- A request that names an upload keeps what matters to those about others. -/
theorem IsAlone.agreeAbout_of_visit {server : Server} {id other : String}
    {visit : Visit} (alone : server.IsAlone)
    (named : visit.uploadId? server.service = some id) (apart : other ≠ id)
    (fresh : visit.client.lease = none) :
    AgreeAbout other server (server.visit visit).2.2 := by
  have same : AgreeAbout id server server := ⟨rfl, rfl, rfl, rfl, rfl⟩
  obtain ⟨-, change?, revised, -⟩ := same.visit alone alone named
  have succeeds := alone.quiet.visit_succeeds visit
  have held := visit_gives_back (alone.quiet.faultless .release) visit fresh
  refine ⟨succeeds.service, succeeds.settings, alone.quiet.visit_clock visit,
    ?_, ?_⟩
  · rw [revised, Store.find?_revise_of_ne _ apart]
  · rw [LockTable.isLocked, LockTable.isLocked, LockTable.holder?,
      LockTable.holder?, held]

/--
Two requests that name different uploads can be handled in either order: what
is said of each of them is the same, and so are the store and the leases in
force in the end.  The leases are those that were in force before, and no
upload but the two is touched.
-/
theorem visits_commute {server : Server} (alone : server.IsAlone)
    {first second : Visit} {id other : String}
    (named : first.uploadId? server.service = some id)
    (named' : second.uploadId? server.service = some other)
    (apart : id ≠ other) (fresh : first.client.lease = none)
    (fresh' : second.client.lease = none) :
    let one := server.visit first
    let two := one.2.2.visit second
    let before := server.visit second
    let after := before.2.2.visit first
    one.1.Same after.1 ∧ before.1.Same two.1 ∧
      two.2.2.store = after.2.2.store ∧
      two.2.2.locks.held = server.locks.held ∧
      after.2.2.locks.held = server.locks.held ∧
      ∀ third, third ≠ id → third ≠ other →
        two.2.2.store.find? third = server.store.find? third := by
  intro one two before after
  have between : one.2.2.IsAlone := alone.visit first
  have between' : before.2.2.IsAlone := alone.visit second
  have agree := alone.agreeAbout_of_visit named' apart fresh'
  have agree' := alone.agreeAbout_of_visit named (Ne.symm apart) fresh
  obtain ⟨said, change?, left, left'⟩ := agree.visit alone between' named
  obtain ⟨said', change?', right, right'⟩ := agree'.visit alone between named'
  have ends : two.2.2.store
      = (server.store.revise id change?).revise other change?' := by
    rw [← left]
    exact right'
  have ends' : after.2.2.store
      = (server.store.revise other change?').revise id change? := by
    rw [← right]
    exact left'
  refine ⟨said, said', ?_, ?_, ?_, ?_⟩
  · rw [ends, ends', Store.revise_comm _ apart]
  · exact (visit_gives_back (between.quiet.faultless .release) second
      fresh').trans (visit_gives_back (alone.quiet.faultless .release) first
        fresh)
  · exact (visit_gives_back (between'.quiet.faultless .release) first
      fresh).trans (visit_gives_back (alone.quiet.faultless .release) second
        fresh')
  · intro third apart apart'
    rw [ends, Store.find?_revise_of_ne _ apart',
      Store.find?_revise_of_ne _ apart]

/-- A server with two uploads whose lengths are not known. -/
def awaitingTwo : Server :=
  (awaitingSomething.visit
    (.creating [(HeaderName.uploadDeferLength, "1")])).2.2

/-- A visit that deletes the second upload of a store. -/
def deletingSecond : Visit where
  request :=
    { method := .delete
      path := "/files/~1~"
      headers := .ofTexts [(HeaderName.tusResumable, protocolVersion)] }

/-- So a write to one upload and the deletion of another do not meet. -/
theorem visits_commute_on_two :
    let writing := Visit.writing "0" "hello" []
    let one := awaitingTwo.visit writing
    let two := one.2.2.visit deletingSecond
    let before := awaitingTwo.visit deletingSecond
    let after := before.2.2.visit writing
    one.1.response?.map (·.status) = some 204 ∧
      before.1.response?.map (·.status) = some 204 ∧
      one.1.Same after.1 ∧ before.1.Same two.1 ∧
      two.2.2.store = after.2.2.store ∧
      two.2.2.store.ids = ["~0~"] := by
  have empty : IsAlone {} := ⟨⟨rfl, fun _ => rfl⟩, fun _ => rfl⟩
  have awaiting : awaitingSomething.IsAlone := empty.visit _
  have alone := awaiting.visit
    (.creating [(HeaderName.uploadDeferLength, "1")])
  change awaitingTwo.IsAlone at alone
  have named : (Visit.writing "0" "hello" []).uploadId? awaitingTwo.service
      = some "~0~" := by decide +kernel
  have named' : deletingSecond.uploadId? awaitingTwo.service = some "~1~" := by
    decide +kernel
  have commute := visits_commute alone named named' (by decide) rfl rfl
  exact ⟨by decide +kernel, by decide +kernel, commute.1, commute.2.1,
    commute.2.2.1, by decide +kernel⟩

end Server

end ResumableUpload
