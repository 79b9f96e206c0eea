import ResumableUpload.Proofs.Solo.Excess
/-!
# Bodies that are too long

A write whose body brings more bytes than the upload has room for is refused,
but the upload need not have the content then that it had before.  The bytes are
looked at delivery by delivery; and when a delivery is refused, those before it
have been taken, and may be behind the content already.

`Server.visit_overruns` says which bytes these are, and when there are none: on
the way through a write buffer, if the buffer has not had to make room; in a
stream, only if it is the first delivery that is refused.  A body that arrives
in two parts is enough for bytes to be left: `Server.visit_leaves_spill`.
-/

namespace ResumableUpload.Server

variable {server : Server}

/--
The uploads of which a visit is refused bytes because there are too many, each
with the way they came and the excess.
-/
def excesses (server : Server) (visit : Visit) :
    List (String × Route × Excess) :=
  (server.acts visit).filterMap Act.excess?

/--
A quiet server that refuses bytes of a write because there are too many answers
that this is so.  Of the upload it leaves the content it had, and behind it what
the route has put there of the deliveries for which there was room.  So the
content is as it was if and only if the route has retained them.
-/
theorem visit_overruns (quiet : server.IsQuiet) {visit : Visit}
    (method : visit.request.method.effective visit.request.headers = .patch)
    {id : String} {route : Route} {excess : Excess}
    (refuses : (id, route, excess) ∈ server.excesses visit) :
    id = (Exchange.ofRequest server.service visit.request).fileId ∧
    (∃ response, (server.visit visit).1.response? = some response ∧
      response.status = 400 ∧ response.message = some excess.message) ∧
    ∃ upload left taken bytes rest,
      server.store.find? id = some upload ∧
      (server.visit visit).2.2.store.find? id = some left ∧
      visit.client.deliveries server.settings route visit.news
        = taken ++ bytes :: rest ∧
      { upload with length := left.length }.Refuses taken.flatten bytes
        excess ∧
      left.content = upload.content ++ route.spilled server.settings taken ∧
      (left.content = upload.content ↔
        route.Retains server.settings taken) := by
  rcases List.mem_filterMap.1 refuses with ⟨act, refuses, is_excess⟩
  rw [Act.eq_of_excess?_eq_some is_excess, quiet.acts_eq] at refuses
  rcases Protocol.intentsOf_of_patch method server.service with asked | asked
  · rw [Protocol.actsOn_handle_of_single asked rfl] at refuses
    rcases Protocol.handleIntent_refused (.ofRequest server.service
        visit.request) refuses with
      ⟨same, rfl, after, left, ends, leaves, upload, checked, found, -,
        taken, bytes, rest, split, beyond, shape⟩
    have plays := Protocol.play_handle_of_single asked rfl
      (server.scene visit.client visit.news)
    rw [ends, Played.finished_andThen, Attempt.orFailure_ok] at plays
    have split : visit.client.deliveries server.settings
        (Handling.route server.service) visit.news
          = taken ++ bytes :: rest := split
    have content : left.content = upload.content
        ++ (Handling.route server.service).spilled server.settings taken := by
      rw [shape]
      rfl
    refine ⟨same, ⟨_, quiet.visit_response? plays, rfl, rfl⟩, upload, left,
      taken, bytes, rest, found, ?_, split, ?_, content, ?_⟩
    · rw [quiet.visit_store, plays]
      exact leaves
    · rw [shape]
      exact beyond
    · rcases Handling.exists_reads_route server.service server.settings with
          ⟨limit, limited⟩
      have carry : ∀ bytes ∈ taken, bytes ≠ [] := by
        intro bytes present
        apply Client.ne_nil_of_mem_deliveries limited
        rw [split]
        exact List.mem_append_left _ present
      rw [← Route.spilled_eq_nil_iff server.settings _ carry, content]
      exact List.append_right_eq_self
  · rw [Protocol.handle, asked] at refuses
    cases refuses

/-- A server on which an upload of three bytes has been created. -/
def awaitingThree (config : Config) (settings : BufferSettings) : Server :=
  (Server.visit { service := { config := config }, settings := settings }
    (.creating [(HeaderName.uploadLength, "3")])).2.2

theorem awaitingThree_isQuiet (config : Config) (settings : BufferSettings) :
    (awaitingThree config settings).IsQuiet := by
  have quiet : IsQuiet
      { service := { config := config }, settings := settings } :=
    ⟨rfl, fun _ => rfl⟩
  exact (quiet.visit_succeeds _).quiet

/-- So it is with a buffer that has room for one byte. -/
theorem visit_overruns_of_small_buffer :
    ∃ response left taken bytes rest,
      ((awaitingThree {} { writeSize := 1 }).visit
        (.writingParts ["a", "b", "cd"])).1.response? = some response ∧
      response.status = 400 ∧
      ((awaitingThree {} { writeSize := 1 }).visit
        (.writingParts ["a", "b", "cd"])).2.2.store.find? "~0~" = some left ∧
      ["a", "b", "cd"].map Bytes.ofString = taken ++ bytes :: rest ∧
      left.content
        = BufferSettings.spilled { writeSize := 1 } taken := by
  have excesses : ("~0~", Route.buffered, ⟨4, 3⟩)
      ∈ (awaitingThree {} { writeSize := 1 }).excesses
          (.writingParts ["a", "b", "cd"]) := by
    decide +kernel
  have before : ((awaitingThree {} { writeSize := 1 }).store.find?
      "~0~").map Upload.content = some [] := by
    decide +kernel
  have delivers : (Visit.writingParts ["a", "b", "cd"]).client.deliveries
      (awaitingThree {} { writeSize := 1 }).settings .buffered []
        = ["a", "b", "cd"].map Bytes.ofString := by
    decide +kernel
  rcases visit_overruns (awaitingThree_isQuiet {} { writeSize := 1 })
      (by decide +kernel) excesses with
    ⟨-, ⟨response, answered, status, -⟩, upload, left, taken, bytes, rest,
      found, leaves, split, -, content, -⟩
  rw [found] at before
  rw [Option.some.inj before] at content
  exact ⟨response, left, taken, bytes, rest, answered, status, leaves,
    delivers.symm.trans split, content⟩

/--
So a body that is too long need not leave the content alone: the first part of
this one stays behind.
-/
theorem visit_leaves_spill :
    ("~0~", Route.streamed (some Handling.streamReadSize), ⟨4, 3⟩)
      ∈ (awaitingThree { preferPipelines := true } {}).excesses
          (.writingParts ["ab", "cd"]) ∧
    ((awaitingThree { preferPipelines := true } {}).visit
      (.writingParts ["ab", "cd"])).1.response?.map Response.status
        = some 400 ∧
    ((awaitingThree { preferPipelines := true } {}).store.find?
      "~0~").map Upload.content = some [] ∧
    (((awaitingThree { preferPipelines := true } {}).visit
      (.writingParts ["ab", "cd"])).2.2.store.find? "~0~").map Upload.content
        = some (Bytes.ofString "ab") := by
  decide +kernel

end ResumableUpload.Server
