import ResumableUpload.Proofs.Lifetimes
import ResumableUpload.Proofs.Responses
/-!
# Where uploads come from

Whatever is stored has been created by a request at some time, and what is then
true of an upload remains so if growing does not change it.  So a property of
all uploads has to be looked at for creations only: `Protocol.handle_gains`
goes from them to requests, and `Server.IsQuiet.live_gains` to everything that
may happen to a server that began empty.
-/

namespace ResumableUpload

variable {service : Service} {scene : Scene} {holds : Upload → Prop}

/-- Every upload that is new in a store has a property. -/
def Store.Gains (holds : Upload → Prop) (before after : Store) : Prop :=
  ∀ id upload, before.find? id = none → after.find? id = some upload →
    holds upload

namespace Store.Gains

variable {before middle after : Store}

/-- Where there are no more uploads than before nothing is new. -/
theorem of_fewer (fewer : after.ids.Sublist before.ids) :
    Gains holds before after := by
  intro id upload absent found
  obtain ⟨earlier, there⟩ :=
    exists_find?_of_mem_ids (fewer.subset (mem_ids_of_find? found))
  rw [absent] at there
  cases there

theorem of_eq (same : after = before) : Gains holds before after :=
  of_fewer (same ▸ .refl _)

theorem insert {upload : Upload} (has : holds upload) :
    Gains holds before (before.insert upload).2 := by
  intro id other absent found
  rw [find?_insert, absent, Option.none_or] at found
  split at found
  · cases found
    exact has
  · cases found

theorem mono {other : Upload → Prop} (gains : Gains holds before after)
    (implies : ∀ upload, holds upload → other upload) :
    Gains other before after :=
  fun id upload absent found => implies upload (gains id upload absent found)

/-- What was new remains what it was while no more uploads come. -/
theorem later (stable : ∀ earlier later, Upload.Grows earlier later →
      holds earlier → holds later)
    (gains : Gains holds before middle)
    (all : service.AccommodatesAll middle)
    (deeds : Store.Deeds service middle after)
    (fewer : after.ids.Sublist middle.ids) : Gains holds before after := by
  intro id upload absent found
  obtain ⟨earlier, there⟩ :=
    exists_find?_of_mem_ids (fewer.subset (mem_ids_of_find? found))
  exact stable earlier upload (deeds.grows all there found)
    (gains id earlier absent there)

end Store.Gains

namespace Protocol

/-- What is new after a request is what its creation has brought. -/
theorem handle_gains (stable : ∀ earlier later, Upload.Grows earlier later →
      holds earlier → holds later)
    (all : service.AccommodatesAll scene.store) (request : Request)
    (creation : ∀ intent handling rest,
      intentsOf service request = intent :: rest →
      Handling.ofIntent? service intent = some handling →
      intent.creates = true →
      Store.Gains holds scene.store ((handleIntent intent handling
        (.ofRequest service request)).play scene).scene.store) :
    Store.Gains holds scene.store
      ((handle service request).play scene).scene.store := by
  have handles := handle_handles service request scene
  generalize (handle service request).play scene = played at handles ⊢
  cases handles with
  | passed => exact .of_eq rfl
  | @first intent handling rest asked handled =>
      rw [Played.respond_store]
      cases creates : intent.creates with
      | true => exact creation intent handling rest asked handled creates
      | false =>
          exact .of_fewer (handleIntent_fewer handled creates
            (.ofRequest service request) scene)
  | @both intent handling done middle id asked creates handled handles created
      identified =>
      have gains := creation intent handling _ asked handled creates
      have deeds := handleIntent_deeds handled (.ofRequest service request)
        scene
      rw [handles] at gains deeds
      have writes : Handling.ofIntent? service .writeFile
          = some (.write service) := rfl
      -- The body is written to what has just been created, and adds no upload.
      rw [Played.respond_store, play_handleBody_store]
      exact gains.later stable (all.deeds deeds)
        (handleIntent_deeds writes (.continueWith done id) middle)
        (handleIntent_fewer writes rfl (.continueWith done id) middle)

end Protocol

namespace Server

/-- What every creation brings is true of all that a server ever stores. -/
theorem IsQuiet.live_gains {start : Server} (quiet : start.IsQuiet)
    (empty : start.store = {}) (holds : Upload → Prop)
    (stable : ∀ earlier later, Upload.Grows earlier later →
      holds earlier → holds later)
    (creation : ∀ request scene intent handling rest,
      scene.store.IsNumbered →
      Protocol.intentsOf start.service request = intent :: rest →
      Handling.ofIntent? start.service intent = some handling →
      intent.creates = true →
      Store.Gains holds scene.store ((Protocol.handleIntent intent handling
        (.ofRequest start.service request)).play scene).scene.store)
    (occurrences : List Occurrence) {id : String} {upload : Upload}
    (found : (start.live occurrences).store.find? id = some upload) :
    holds upload := by
  refine (@live_induction (fun server => start.Succeeds server ∧
    ∀ id upload, server.store.find? id = some upload → holds upload) start
    occurrences ⟨⟨quiet, rfl, rfl, .refl⟩, ?_⟩ ?_).2 id upload found
  · rw [empty]
    rintro id upload ⟨⟩
  · rintro server occurrence ⟨lives, all⟩
    have within : server.service.AccommodatesAll server.store := by
      rw [lives.service]
      exact (empty ▸ .empty start.service : start.service.AccommodatesAll
        start.store).deeds lives.deeds
    refine ⟨lives.trans (lives.quiet.undergo_succeeds occurrence), ?_⟩
    intro id upload found
    cases occurrence with
    | elapse milliseconds => exact all id upload found
    | sweep =>
        exact all id upload
          (lives.quiet.find?_of_sweep within.numbered found)
    | visit visit =>
        -- What was there before has grown at most, and all else is new.
        cases earlier : server.store.find? id with
        | some kept =>
            have deeds := (lives.quiet.visit_succeeds visit).deeds
            exact stable kept upload (deeds.grows within earlier found)
              (all id kept earlier)
        | none =>
            rw [undergo, lives.quiet.visit_store] at found
            refine Protocol.handle_gains stable within visit.request ?_ id
              upload earlier found
            rw [lives.service]
            intro intent handling rest asked handled creates
            exact creation visit.request _ intent handling rest within.numbered
              asked handled creates

end Server

end ResumableUpload
