import ResumableUpload.Proofs.Solo.Deeds
/-!
# The life of a quiet server

A request may carry out two intents, the second on what the first created; each
of them does deeds.  With `Server.IsQuiet.visit_depicts` this passes to visits,
and by induction to every list of occurrences: `Server.live_succeeds` says that
a quiet server stays quiet, keeps its configuration, and that deeds lead from
its store to the store it has in the end.
-/

namespace ResumableUpload

variable {service : Service} {exchange : Exchange}

namespace Handling.IsUnchecked

/-- Nothing has been checked of a request that has just arrived. -/
theorem ofRequest (service : Service) (request : Request) :
    IsUnchecked (.ofRequest service request) :=
  ⟨rfl, rfl, rfl⟩

/-- What a creation has checked does not count for the write that follows. -/
theorem continueWith (exchange : Exchange) (id : String) :
    IsUnchecked (exchange.continueWith id) :=
  ⟨rfl, rfl, rfl⟩

theorem versioned (unchecked : IsUnchecked exchange) :
    IsUnchecked (Protocol.versioned exchange) :=
  ⟨unchecked.length, unchecked.part, unchecked.pledge⟩

end Handling.IsUnchecked

/-! ## Requests -/

namespace Protocol

theorem handleIntent_deeds {intent : Intent} {handling : Handling}
    (handled : Handling.ofIntent? service intent = some handling)
    (unchecked : Handling.IsUnchecked exchange) (scene : Scene) :
    Store.Deeds service scene.store
      ((handleIntent intent handling exchange).play scene).scene.store := by
  rcases handleIntent_store (Handling.asks_check handled (versioned exchange))
      intent scene with
      same | ⟨checked, asked, later, first, second, checks, left⟩
  · exact .of_eq same
  · rw [← left, ← second.store]
    exact Handling.carryOut_deeds handled unchecked.versioned checks
      (second.store.trans first.store.symm)

/-- What the body of a creation does is what a write does. -/
theorem play_handleBody_store (intent : Intent) (handling : Handling)
    (exchange : Exchange) (id : String) (scene : Scene) :
    ((handleBody intent handling exchange id).play scene).scene.store
      = ((handleIntent intent handling (exchange.continueWith id)).play
          scene).scene.store := by
  rw [handleBody, (Attempt.OnlyTells.play_bind_told (fun _ => .pure _) _
    scene).store, Attempt.play_lift]
  change (((handleIntent intent handling (exchange.continueWith id)).play
    scene).andThen fun result scene => _).scene.store = _
  cases (handleIntent intent handling (exchange.continueWith id)).play
    scene <;> rfl

theorem handleSecond_deeds (service : Service) (exchange : Exchange)
    (second? : Option Intent) (scene : Scene) :
    Store.Deeds service scene.store
      ((handleSecond service exchange second?).play scene).scene.store := by
  rw [handleSecond.eq_def]
  split
  · rename_i intent handling id identified handled
    split
    · rw [play_handleBody_store]
      exact handleIntent_deeds handled (.continueWith exchange id) scene
    · exact .of_asks (.pure _) scene
  · exact .of_asks (.pure _) scene

/-- A request does deeds, and nothing else, to the store. -/
theorem handle_deeds (service : Service) (request : Request) (scene : Scene) :
    Store.Deeds service scene.store
      ((handle service request).play scene).scene.store := by
  rw [handle]
  split
  · exact .of_asks (.pure _) scene
  · rename_i first rest _
    split
    · exact .of_asks (.pure _) scene
    · rename_i handling handled
      refine .bind (handleIntent_deeds handled (.ofRequest service request)
          scene) ?_
      intro exchange after _
      refine .bind (handleSecond_deeds service exchange rest.head? after) ?_
      intro response after _
      exact .of_asks (.pure _) after

theorem sweep_deeds (service : Service) (scene : Scene) :
    Store.Deeds service scene.store
      ((sweep service).play scene).scene.store := by
  refine .serviceCall rfl ?_
  intro _
  rw [Scene.call]
  split
  · exact .refl
  · exact .single (.sweeps scene.clock)

end Protocol

/-! ## Occurrences -/

namespace Played

variable {α : Type}

theorem left_store (played : Played α) :
    played.left.store = played.scene.store := by
  cases played with
  | finished value scene => rfl
  | waiting scene | collapsed scene =>
      rw [left, Scene.part]
      split <;> rfl

theorem left_ground {scene : Scene} {played : Played α}
    (same : scene.SameGround played.scene) :
    scene.SameGround played.left := by
  cases played with
  | finished value scene => exact same
  | waiting scene | collapsed scene =>
      apply same.trans
      rw [left, Scene.part]
      split
      · exact ⟨rfl, rfl, rfl⟩
      · exact .refl _

end Played

namespace Server

/-- A quiet server keeps its configuration, and deeds are done to its store. -/
structure Succeeds (before after : Server) : Prop where
  quiet : after.IsQuiet
  service : after.service = before.service
  settings : after.settings = before.settings
  deeds : Store.Deeds before.service before.store after.store

theorem Succeeds.trans {first second third : Server}
    (earlier : first.Succeeds second) (later : second.Succeeds third) :
    first.Succeeds third where
  quiet := later.quiet
  service := later.service.trans earlier.service
  settings := later.settings.trans earlier.settings
  deeds := earlier.deeds.trans (earlier.service ▸ later.deeds)

namespace IsQuiet

variable {server : Server}

/-- A visit leaves the store as its request does. -/
theorem visit_store (quiet : server.IsQuiet) (visit : Visit) :
    (server.visit visit).2.2.store
      = ((Protocol.handle server.service visit.request).play
          (server.scene visit.client visit.news)).scene.store := by
  rcases quiet.visit_depicts visit with ⟨-, -, news, seen⟩
  have left := Played.left_store ((Protocol.program server.service
    visit.request).play (server.scene visit.client visit.news))
  rw [← seen] at left
  exact left

theorem visit_succeeds (quiet : server.IsQuiet) (visit : Visit) :
    server.Succeeds (server.visit visit).2.2 := by
  rcases quiet.visit_depicts visit with ⟨-, still, news, seen⟩
  have ground := Played.left_ground (Program.play_ground
    (Protocol.program server.service visit.request)
    (server.scene visit.client visit.news))
  rw [← seen] at ground
  refine ⟨still, ground.service, ground.settings, ?_⟩
  rw [quiet.visit_store]
  exact Protocol.handle_deeds server.service visit.request
    (server.scene visit.client visit.news)

/-- A sweep leaves the store as its program does. -/
theorem sweep_store (quiet : server.IsQuiet) :
    (server.undergo .sweep).store
      = ((Protocol.sweep server.service).play
          (server.scene {} [])).scene.store := by
  rcases quiet.sweep_depicts with ⟨client, news, seen⟩
  exact congrArg Scene.store seen

/-- What is found after a sweep was there before it. -/
theorem find?_of_sweep (quiet : server.IsQuiet)
    (numbered : server.store.IsNumbered) {id : String} {upload : Upload}
    (found : (server.undergo .sweep).store.find? id = some upload) :
    server.store.find? id = some upload := by
  rw [quiet.sweep_store, Protocol.sweep] at found
  cases granted : server.service.terms.grants .expiration with
  | false =>
      rw [Attempt.play_serviceCall_of_not_granted rfl granted] at found
      exact found
  | true =>
      rw [Attempt.play_serviceCall rfl granted, Scene.call] at found
      split at found
      · exact found
      · change (server.store.sweep server.clock).find? id = some upload at found
        rw [Store.find?_sweep numbered.distinct] at found
        exact (Option.filter_eq_some_iff.1 found).1

theorem sweep_succeeds (quiet : server.IsQuiet) :
    server.Succeeds
      ((Protocol.sweep server.service).caught.run {} server).server := by
  have conducted := quiet.conduct_depicts
    (Protocol.sweep server.service).caught {} []
  have ground := Program.play_ground (Protocol.sweep server.service).caught
    (server.scene {} [])
  have deeds := Protocol.sweep_deeds server.service (server.scene {} [])
  have ends : ∀ scene, (Protocol.sweep server.service).caught.play
      (server.scene {} []) ≠ .waiting scene := by
    intro scene waits
    change (server.service.call .removeExpired).play _ = _ at waits
    cases granted : server.service.terms.grants .expiration with
    | false =>
        rw [Attempt.play_serviceCall_of_not_granted rfl granted] at waits
        cases waits
    | true =>
        rw [Attempt.play_serviceCall rfl granted, Scene.call] at waits
        split at waits <;> cases waits
  change ((Protocol.sweep server.service).caught.run {} server).Depicts _
    at conducted
  change Store.Deeds _ _ ((Protocol.sweep server.service).caught.play
    (server.scene {} [])).scene.store at deeds
  generalize (Protocol.sweep server.service).caught.run {} server = ran
    at conducted ⊢
  generalize (Protocol.sweep server.service).caught.play
    (server.scene {} []) = played at conducted ground deeds ends
  cases conducted with
  | finished quiet seen | collapsed quiet seen =>
      subst seen
      exact ⟨quiet, ground.service, ground.settings, deeds⟩
  | waiting quiet seen => exact absurd rfl (ends _)

/-- Every occurrence leaves a quiet server quiet, and does deeds. -/
theorem undergo_succeeds (quiet : server.IsQuiet) (occurrence : Occurrence) :
    server.Succeeds (server.undergo occurrence) := by
  cases occurrence with
  | visit visit => exact quiet.visit_succeeds visit
  | elapse milliseconds =>
      exact ⟨⟨quiet.idle, quiet.faultless⟩, rfl, rfl, .refl⟩
  | sweep => exact quiet.sweep_succeeds

/-- Deeds lead from the store of a quiet server to its store after its life. -/
theorem live_succeeds (quiet : server.IsQuiet)
    (occurrences : List Occurrence) :
    server.Succeeds (server.live occurrences) := by
  refine @live_induction server.Succeeds server occurrences
    ⟨quiet, rfl, rfl, .refl⟩ ?_
  intro later occurrence succeeds
  exact succeeds.trans (succeeds.quiet.undergo_succeeds occurrence)

end IsQuiet

/-- A server on which an upload has been created whose length is not known. -/
def awaitingSomething : Server :=
  (Server.visit {} (.creating [(HeaderName.uploadDeferLength, "1")])).2.2

theorem awaitingSomething_isQuiet : awaitingSomething.IsQuiet := by
  have quiet : IsQuiet {} := ⟨rfl, fun _ => rfl⟩
  exact (quiet.visit_succeeds _).quiet

end Server

end ResumableUpload
