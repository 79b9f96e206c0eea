import ResumableUpload.Proofs.CreationWithBody
import ResumableUpload.Proofs.Solo.Form
/-!
# Responses are well formed

Whatever a request asks for, and however it comes out, a response to it has one
of a few statuses, says which version of the protocol the server follows, and
explains what was wrong if there is something to explain.  A creation is
answered as one exactly if the store has an upload more, and then the answer
tells its address; a write that is accepted is answered with the place where
the upload ends now.  `Server.visit_responds` says so of every request that the
host does not stop.
-/

namespace ResumableUpload

variable {service : Service} {exchange checked done : Exchange}
  {scene after : Scene} {intent : Intent} {handling : Handling}

/-! ## The work of a handling -/

namespace Handling

/-- The work of what creates nothing leaves no upload more. -/
theorem carryOut_fewer (creates : intent.creates = false)
    (handled : ofIntent? service intent = some handling)
    (unchecked : IsUnchecked exchange) {asked : Scene}
    (checks : (handling.check exchange).play asked
      = .finished (.ok (.ok checked)) asked)
    (same : scene.store = asked.store) :
    ((handling.carryOut checked).play scene).scene.store.ids.Sublist
      scene.store.ids := by
  have asking {attempt : Attempt (Exchange × Outcome)} (asks : attempt.Asks) :
      (attempt.play scene).scene.store.ids.Sublist scene.store.ids := by
    rewrite [asks scene]
    exact .refl _
  cases intent with
  | createFile | concatenate => cases creates
  | notApplicable => cases handled
  | writeFile =>
      cases handled
      obtain ⟨upload, found, may⟩ := write_check_ends_well checks
      rw [← may.fileId, ← same] at found
      obtain ⟨written, -, -, -, rewrites, -⟩ :=
        write_carryOut_spec found may unchecked.length unchecked.pledge
      rewrite [rewrites.alters.ids]
      exact .refl _
  | deleteFile =>
      cases handled
      rcases delete_store service checked scene with left | left
      · rewrite [left]
        exact .refl _
      · rw [left]
        exact Store.ids_erase_sublist
  | fileInfo =>
      cases handled
      exact asking (info_carryOut_inquires service checked).asks
  | options =>
      cases handled
      exact asking (options_carryOut_inquires service checked).asks

end Handling

/-! ## Intents -/

namespace Protocol

/-- What creates nothing leaves no upload more. -/
theorem handleIntent_fewer
    (handled : Handling.ofIntent? service intent = some handling)
    (creates : intent.creates = false)
    (unchecked : Handling.IsUnchecked exchange) (scene : Scene) :
    ((handleIntent intent handling exchange).play
      scene).scene.store.ids.Sublist scene.store.ids := by
  rcases handleIntent_store (Handling.asks_check handled (versioned exchange))
      intent scene with
      same | ⟨checked, asked, later, first, second, checks, left⟩
  · rewrite [same]
    exact .refl _
  · have fewer := Handling.carryOut_fewer creates handled unchecked.versioned
      checks (second.store.trans first.store.symm)
    rw [← left, ← second.store]
    exact fewer

/-- Whose write is accepted is told where the upload ends in the store. -/
theorem handleIntent_write_offset
    (unchecked : Handling.IsUnchecked exchange)
    (passes : (handleIntent .writeFile (.write service) exchange).Passes scene)
    (ends : (handleIntent .writeFile (.write service) exchange).play scene
      = .finished (.ok done) after) (status : done.response.status = 204) :
    ∃ upload, after.store.find? exchange.fileId = some upload ∧
      done.response.headers.first? HeaderName.uploadOffset
        = some (Bytes.ofString (toString upload.offset)) := by
  have handled : Handling.ofIntent? service .writeFile
      = some (.write service) := rfl
  obtain ⟨checked, outcome, asked, told, last, sight, checks, telling, works,
    left⟩ := handleIntent_done handled passes ends (by omega)
  obtain ⟨upload, found, may⟩ := Handling.write_check_ends_well checks
  rw [← may.fileId, ← telling.store] at found
  have about : checked.fileId = exchange.fileId := may.fileId
  have writing := Handling.write_carryOut_writing found may unchecked.versioned
  rw [works] at writing
  rw [left, ← about]
  cases writing with
  | @accepted received middle _ lasting rewrites accepts =>
      cases accepts with
      | stays stays =>
          exact ⟨received, rewrites.found, Handling.offset_written _ _ _⟩
      | @moves policy expiry outcome slides limited dated =>
          refine ⟨received.renewed expiry, ?_, Handling.offset_written _ _ _⟩
          rw [Store.find?_modify_self, rewrites.found]
          rfl
  | mismatched lasting rewrites => cases status
  | broken lasting rewrites fails => exact absurd rfl (fails _ _)

/-! ## Requests -/

variable {request : Request} {response : Response}

/-- A request of which nothing is stopped has a first intent without stops. -/
theorem handle_passes_first {rest : List Intent}
    (asked : intentsOf service request = intent :: rest)
    (handled : Handling.ofIntent? service intent = some handling)
    (passes : (handle service request).Passes scene) :
    (handleIntent intent handling (.ofRequest service request)).Passes
      scene := by
  rw [handle, asked] at passes
  simp only [handled] at passes
  exact passes.first

/-- The answer to a creation stays one when the body has been written. -/
theorem adopt_isWellFormed {first : Response} (second : Response)
    (wellFormed : first.IsWellFormed) : (adopt first second).IsWellFormed := by
  have updates := adopt_updates first second
  have kept {name : String}
      (apart : name ∉ [HeaderName.uploadOffset, HeaderName.uploadExpires]) :
      (adopt first second).headers.first? name
        = first.headers.first? name := by
    rw [Headers.first?_eq_head?, Headers.first?_eq_head?,
      updates.kept name fun present => absurd present apart]
  exact {
    status := updates.status ▸ wellFormed.status
    version := (kept (by decide)).trans wellFormed.version
    message := by
      rw [updates.message, updates.status]
      exact wellFormed.message
    versions := fun status => (kept (by decide)).trans
      (wellFormed.versions (updates.status ▸ status)) }

end Protocol

/--
What a response to a request tells of the store: an upload that is there now
and was not before, and where, and how far the upload is that was written.
-/
structure Response.Reports (service : Service) (request : Request)
    (before after : Store) (response : Response) : Prop where
  created : response.status = 201 ↔ ∃ id, after.ids = before.ids ++ [id]
  location : (∀ c ∈ service.config.urlPath.toList, Field.isPlain c = true) →
    ∀ id, after.ids = before.ids ++ [id] →
      response.headers.first? HeaderName.location
        = some (Bytes.ofString (addressOf service.config.urlPath id))
  written : request.method.effective request.headers = .patch →
    response.status = 204 → ∃ id upload,
      Address.uploadId? service.config.urlPath request.path = some id ∧
      after.find? id = some upload ∧
      response.headers.first? HeaderName.uploadOffset
        = some (Bytes.ofString (toString upload.offset))

namespace Protocol

variable {request : Request} {response : Response}

/-- What creates reports what it has created. -/
theorem handleIntent_reports_of_creates
    (handled : Handling.ofIntent? service intent = some handling)
    (creates : intent.creates = true) (numbered : scene.store.IsNumbered)
    (apart : request.method.effective request.headers ≠ .patch)
    (passes : (handleIntent intent handling exchange).Passes scene)
    (ends : (handleIntent intent handling exchange).play scene
      = .finished (.ok done) after) :
    done.response.Reports service request scene.store after.store := by
  rcases handleIntent_adds handled creates numbered passes ends with
      ⟨status, -, added, location⟩ | ⟨status, same⟩
  · exact {
      created := ⟨fun _ => ⟨_, added⟩, fun _ => status⟩
      location := by
        intro plain id more
        rw [added] at more
        cases List.append_cancel_left more
        exact location plain
      written := fun method => absurd method apart }
  · have none (id : String) : after.store.ids ≠ scene.store.ids ++ [id] := by
      rw [same]
      simp
    exact {
      created := ⟨fun created => absurd created status,
        fun ⟨id, more⟩ => absurd more (none id)⟩
      location := fun _ id more => absurd more (none id)
      written := fun method => absurd method apart }

/-- What creates nothing reports how far the upload is, if it is a write. -/
theorem handleIntent_reports_of_not_creates {request : Request}
    (asked : intentsOf service request = intent :: [])
    (handled : Handling.ofIntent? service intent = some handling)
    (creates : intent.creates = false)
    (passes : (handleIntent intent handling (.ofRequest service
      request)).Passes scene)
    (ends : (handleIntent intent handling (.ofRequest service request)).play
      scene = .finished (.ok done) after) :
    done.response.Reports service request scene.store after.store := by
  have status : done.response.status ≠ 201 :=
    (handleIntent_closes handled rfl passes ends).2 creates
  have fewer := handleIntent_fewer handled creates
    (.ofRequest service request) scene
  rw [ends] at fewer
  have none (id : String) : after.store.ids ≠ scene.store.ids ++ [id] := by
    intro more
    have shorter := fewer.length_le
    change after.store.ids.length ≤ _ at shorter
    rw [more, List.length_append, List.length_singleton] at shorter
    omega
  exact {
    created := ⟨fun created => absurd created status,
      fun ⟨id, more⟩ => absurd more (none id)⟩
    location := fun _ id more => absurd more (none id)
    written := by
      intro method written
      rcases intentsOf_of_patch method service with writes | nothing
      · rcases (method_of_write writes).2 with ⟨id, named⟩
        cases writes.symm.trans asked
        cases handled
        obtain ⟨upload, found, told⟩ := handleIntent_write_offset
          (.ofRequest service request) passes ends written
        have about : (Exchange.ofRequest service request).fileId = id :=
          congrArg (Option.getD · "") named
        exact ⟨id, upload, named, about ▸ found, told⟩
      · cases nothing.symm.trans asked
        cases handled }

/-- Writing the body of a creation changes no ids and little of the answer. -/
theorem handleBody_ends {first : Exchange} {middle : Scene} {id : String}
    (ends : (handleBody .writeFile (.write service) first id).play middle
      = .finished (.ok response) after) :
    after.store.ids = middle.store.ids ∧
      (response = first.response ∨
        ∃ second, response = adopt first.response second) := by
  have ids := (handleIntent_write_alters (.continueWith first id) service
    middle).ids
  rw [play_handleBody] at ends
  rcases Played.andThen_ends ends with ⟨result, last, writes, ends⟩
  rw [writes] at ids
  change last.store.ids = middle.store.ids at ids
  cases result with
  | error failure =>
      cases ends
      exact ⟨ids, Or.inl rfl⟩
  | ok written =>
      cases ends
      exact ⟨ids, Or.inr ⟨written.response, rfl⟩⟩

theorem location_adopt (first second : Response) :
    (adopt first second).headers.first? HeaderName.location
      = first.headers.first? HeaderName.location := by
  rw [Headers.first?_eq_head?, (adopt_updates first second).kept _
    (fun present => absurd present (by decide)), ← Headers.first?_eq_head?]

/-- Writing the body of a creation changes nothing of what is reported. -/
theorem handleBody_reports {first : Exchange} {middle : Scene} {id : String}
    {before : Store} (apart : request.method.effective request.headers ≠ .patch)
    (wellFormed : first.response.IsWellFormed)
    (reports : first.response.Reports service request before middle.store)
    (ends : (handleBody .writeFile (.write service) first id).play middle
      = .finished (.ok response) after) :
    response.IsWellFormed ∧
      response.Reports service request before after.store := by
  obtain ⟨ids, rfl | ⟨second, rfl⟩⟩ := handleBody_ends ends
  · refine ⟨wellFormed, {
      created := ?_
      location := ?_
      written := fun method => absurd method apart }⟩
    · rw [ids]
      exact reports.created
    · rw [ids]
      exact reports.location
  · refine ⟨adopt_isWellFormed second wellFormed, {
      created := ?_
      location := ?_
      written := fun method => absurd method apart }⟩
    · rw [ids, (adopt_updates first.response second).status]
      exact reports.created
    · intro plain id more
      rw [ids] at more
      rw [location_adopt]
      exact reports.location plain id more

/-- Every request that is not stopped is answered well. -/
theorem handle_responds (numbered : scene.store.IsNumbered)
    (passes : (handle service request).Passes scene)
    (ends : (handle service request).play scene
      = .finished (.ok (.respond response)) after) :
    response.IsWellFormed ∧
      response.Reports service request scene.store after.store := by
  have apart {intent : Intent} {rest : List Intent}
      (asked : intentsOf service request = intent :: rest)
      (creates : intent.creates = true) :
      request.method.effective request.headers ≠ .patch := by
    intro method
    rcases intentsOf_of_patch method service with same | same <;>
      cases same.symm.trans asked <;> cases creates
  have handles := handle_handles service request scene
  generalize (handle service request).play scene = played at handles ends
  cases handles with
  | passed => cases ends
  | @first intent handling rest asked handled =>
      have passes := handle_passes_first asked handled passes
      rcases Played.andThen_ends ends with ⟨result, last, handles, ends⟩
      cases result with
      | error failure => cases ends
      | ok done =>
          cases ends
          refine ⟨(handleIntent_closes handled rfl passes handles).1, ?_⟩
          cases creates : intent.creates with
          | true =>
              exact handleIntent_reports_of_creates handled creates numbered
                (apart asked creates) passes handles
          | false =>
              rcases intentsOf_cons asked with rfl | ⟨contrary, -⟩
              · exact handleIntent_reports_of_not_creates asked handled creates
                  passes handles
              · rw [creates] at contrary
                cases contrary
  | @both intent handling done middle id asked creates handled handles created
      identified =>
      have passes := handle_passes_first asked handled passes
      rcases Played.andThen_ends ends with ⟨result, last, writes, ends⟩
      cases result with
      | error failure => cases ends
      | ok answer =>
          cases ends
          exact handleBody_reports (apart asked creates)
            (handleIntent_closes handled rfl passes handles).1
            (handleIntent_reports_of_creates handled creates numbered
              (apart asked creates) passes handles) writes

end Protocol

namespace Server

/--
A response to a request of which the host stops nothing is well formed, and
reports what the store has become, whatever happened to the server before.
-/
theorem visit_responds {start : Server} (quiet : start.IsQuiet)
    (numbered : start.store.IsNumbered) (occurrences : List Occurrence)
    (visit : Visit)
    (unstopped : ∀ act ∈ (start.live occurrences).acts visit,
      act.stops = false)
    {response : Response}
    (answered : ((start.live occurrences).visit visit).1.response?
      = some response) :
    response.IsWellFormed ∧
      response.Reports (start.live occurrences).service visit.request
        (start.live occurrences).store
        ((start.live occurrences).visit visit).2.2.store := by
  have lived := quiet.live_succeeds occurrences
  have quiet := lived.quiet
  have numbered := (Store.Deeds.created_le numbered lived.deeds).1
  generalize start.live occurrences = server at *
  obtain ⟨after, ends⟩ := quiet.play_of_response? answered
  rw [quiet.visit_store, ends]
  rw [quiet.acts_eq] at unstopped
  have numbered : (server.scene visit.client visit.news).store.IsNumbered :=
    numbered
  exact Protocol.handle_responds numbered unstopped ends

/-- A server whose host watches everywhere and lets everything go on. -/
def attended : Server where
  hooks _ := some []

/-- So it is with a write, after a creation, that the host has watched. -/
theorem visit_responds_to_write :
    let occurrences : List Occurrence :=
      [.visit (.creating [(HeaderName.uploadLength, "5")])]
    let server := attended.live occurrences
    ∃ response,
      (server.visit (.writing "0" "hello" [])).1.response? = some response ∧
      response.status = 204 ∧ response.IsWellFormed ∧
      response.Reports server.service
        (Visit.writing "0" "hello" []).request server.store
        (server.visit (.writing "0" "hello" [])).2.2.store := by
  intro occurrences server
  have quiet : attended.IsQuiet := ⟨rfl, fun _ => rfl⟩
  have accepted : (server.visit (.writing "0" "hello" [])).1.response?.map
      Response.status = some 204 := by
    decide +kernel
  rcases Option.map_eq_some_iff.1 accepted with ⟨response, answered, status⟩
  have unstopped : ∀ act ∈ server.acts (.writing "0" "hello" []),
      act.stops = false := by
    decide +kernel
  exact ⟨response, answered, status, visit_responds quiet .empty occurrences _
    unstopped answered⟩

end Server

end ResumableUpload
