import ResumableUpload.Proofs.Solo.Course
import ResumableUpload.Proofs.Solo.Life
import ResumableUpload.Proofs.Solo.Refusal
/-!
# Lengths that writes declare

The length of an upload may be left open when it is created, and be declared by
a later write.  It is fixed then as soon as all requirements of the write are
met, before any of the body is read; so it stays fixed even if the body turns
out to be too long, or not to have its checksum.  Apart from this no write
changes a length: `Server.visit_fixes_length`.
-/

namespace ResumableUpload

variable {service : Service} {exchange checked : Exchange}
  {scene after : Scene} {id : String} {upload left : Upload}

/-! ## Changes of a length -/

/--
The answer to a write that has been carried out: it was accepted, or the body
was not what had been promised, or it was too long.
-/
inductive Response.ConcludesWrite (response : Response) : Prop where
  | accepted (status : response.status = 204)
  | mismatched (status : response.status = 460)
  | excessive (status : response.status = 400) (excess : Excess)
      (message : response.message = some excess.message)

/-- A write may declare a length for an upload whose length is not known. -/
structure Exchange.Declares (exchange : Exchange) (service : Service)
    (upload : Upload) (length : Nat) : Prop where
  unknown : upload.length = none
  reads : Requirement.lengthOf
    (exchange.headers.text? HeaderName.uploadLength) service.config.maxSize
      = .ok length
  offset_le : upload.offset ≤ length

namespace Handling

theorem declares_of_fixedBy (may : MayWrite service exchange checked upload)
    (fresh : exchange.declared.length = none) :
    (upload.fixedBy checked).length = upload.length ∨
      ∃ length, exchange.Declares service upload length ∧
        (upload.fixedBy checked).length = some length := by
  rcases may.length with same | ⟨length, fixes, given⟩
  · left
    rw [fresh] at same
    rw [Upload.fixedBy, same]
    rfl
  · right
    refine ⟨length,
      ⟨fixes.unknown, may.reads fresh length given, fixes.offset_le⟩, ?_⟩
    rw [Upload.fixedBy, given]
    rfl

end Handling

namespace Protocol

open Handling (write)

/-- A write that has been carried out is answered in one of three ways. -/
theorem carryOut_concludes
    (found : scene.store.find? checked.fileId = some upload)
    (may : Handling.MayWrite service exchange checked upload)
    (unchecked : Handling.IsUnchecked exchange) (agrees : scene.HostAgrees)
    {result : Except Failure Exchange} {answered done : Exchange}
    (ends : (carryOut (write service) checked).play scene
      = .finished result after)
    (settled : settle answered result = .ok done) :
    done.response.ConcludesWrite := by
  rcases Attempt.bind_ends ends with
      ⟨failure, rfl, failed⟩ | ⟨⟨worked, outcome⟩, last, works, -, -⟩
  · cases Handling.write_carryOut_result found may unchecked.length
        unchecked.pledge failed with
    | excessive excess refuses =>
        cases settled
        exact .excessive rfl excess rfl
    | endless cause endless => cases settled
  · have still := Attempt.play_ends_agrees agrees works
    rcases play_carryOut_of_agrees works still with ⟨_, -, same⟩
    rw [ends] at same
    cases same
    cases settled
    cases Handling.write_carryOut_result found may unchecked.length
        unchecked.pledge works with
    | mismatched refuses => exact .mismatched rfl
    | accepted status left => exact .accepted status

/--
Handling a write leaves all lengths as they are, or it fixes that of its upload;
then it is answered as a write is that has been carried out, if at all.
-/
theorem handleIntent_lengths (unchecked : Handling.IsUnchecked exchange)
    (agrees : scene.HostAgrees) (found : scene.store.find? id = some upload) :
    ∃ left, ((handleIntent .writeFile (write service) exchange).play
        scene).scene.store.find? id = some left ∧
      (left.length = upload.length ∨
        id = exchange.fileId ∧ ∃ length,
          exchange.Declares service upload length ∧
          left.length = some length ∧
          ∀ done after,
            (handleIntent .writeFile (write service) exchange).play scene
              = .finished (.ok done) after → done.response.ConcludesWrite) := by
  have handled : Handling.ofIntent? service .writeFile
      = some (write service) := rfl
  have course := handleIntent_course handled exchange scene
  generalize (handleIntent .writeFile (write service) exchange).actsOn scene
    = acts at course
  generalize (handleIntent .writeFile (write service) exchange).play scene
    = played at course ⊢
  cases course with
  | stops light sight refused =>
      rw [sight.store]
      exact ⟨upload, found, .inl rfl⟩
  | @works checked asked told earlier later finish sight checks telling
      agreeing before after finishes =>
      have sees := sight.trans (.of_told telling)
      have unchecked := unchecked.versioned
      rcases Handling.write_check_ends_well checks with
          ⟨addressed, there, may⟩
      rw [← telling.store, ← may.fileId] at there
      rcases Handling.write_carryOut_spec there may unchecked.length
          unchecked.pledge with ⟨written, -, length, -, rewrites, -⟩
      rw [Played.andThen_finish_store finishes,
        (carryOut_told _ checked told).store]
      by_cases here : id = checked.fileId
      · subst here
        rw [← sees.store, there] at found
        cases found
        refine ⟨written, rewrites.found, ?_⟩
        rw [length]
        rcases Handling.declares_of_fixedBy may unchecked.length with
            same | ⟨length, declares, fixed⟩
        · exact .inl same
        · refine .inr ⟨may.fileId, length, ?_, fixed, ?_⟩
          · exact ⟨declares.unknown, declares.reads, declares.offset_le⟩
          · intro done after ends
            rcases Played.andThen_ends ends with ⟨result, last, carries, same⟩
            injection same with settled
            exact carryOut_concludes there may unchecked (agreeing agrees)
              carries settled
      · rw [rewrites.alters.others id here, sees.store]
        exact ⟨upload, found, .inl rfl⟩

end Protocol

namespace Server

variable {server : Server}

/--
On a quiet server whose host agrees a write leaves all lengths as they are, but
for one: if the length of its upload is not known, and the request declares one
that is accepted and has room for the content, this may be the length from then
on.  Then the write has been carried out, and is answered so, if at all.
-/
theorem visit_fixes_length (quiet : server.IsQuiet)
    (agrees : server.HostAgrees) {visit : Visit}
    (method : visit.request.method.effective visit.request.headers = .patch)
    (found : server.store.find? id = some upload) :
    ∃ left, (server.visit visit).2.2.store.find? id = some left ∧
      (left.length = upload.length ∨
        id = (Exchange.ofRequest server.service visit.request).fileId ∧
        ∃ length,
          (Exchange.ofRequest server.service visit.request).Declares
            server.service upload length ∧
          left.length = some length ∧
          ∀ response, (server.visit visit).1.response? = some response →
            response.ConcludesWrite) := by
  have hosted : (server.scene visit.client visit.news).HostAgrees := agrees
  rw [quiet.visit_store]
  rcases Protocol.intentsOf_of_patch method server.service with asked | asked
  · rw [Protocol.play_handle_store_of_single asked rfl]
    rcases Protocol.handleIntent_lengths (.ofRequest server.service
        visit.request) hosted found with
      ⟨left, leaves, same | ⟨addressed, length, declares, fixed, concludes⟩⟩
    · exact ⟨left, leaves, .inl same⟩
    · refine ⟨left, leaves, .inr ⟨addressed, length, declares, fixed, ?_⟩⟩
      intro response answered
      rcases quiet.play_of_response? answered with ⟨after, plays⟩
      rcases Protocol.handle_ends_of_patch method plays with ⟨done, rfl, ends⟩
      exact concludes done after ends
  · rw [Protocol.play_handle_of_notApplicable asked]
    exact ⟨upload, found, .inl rfl⟩

/-- A write that declares five bytes, which do not have their checksum. -/
def brokenVisit : Visit :=
  .writing "0" "hello"
    [(HeaderName.uploadLength, "5"),
      (HeaderName.uploadChecksum, "sha1 AAAAAAAAAAAAAAAAAAAAAAAAAAA=")]

/-- So it is with a write that takes all bytes away again that it has put. -/
theorem visit_fixes_length_of_mismatch :
    ∃ response left,
      (awaitingSomething.visit brokenVisit).1.response? = some response ∧
      response.ConcludesWrite ∧
      (awaitingSomething.visit brokenVisit).2.2.store.find? "~0~"
        = some left ∧
      left.length = some 5 := by
  have method : brokenVisit.request.method.effective brokenVisit.request.headers
      = .patch := by
    decide +kernel
  have before : (awaitingSomething.store.find? "~0~").map Upload.length
      = some none := by
    decide +kernel
  have length : ((awaitingSomething.visit brokenVisit).2.2.store.find?
      "~0~").map Upload.length = some (some 5) := by
    decide +kernel
  have answered : (awaitingSomething.visit brokenVisit).1.response?.isSome
      = true := by
    decide +kernel
  rcases Option.map_eq_some_iff.1 before with ⟨upload, found, unknown⟩
  rcases Option.isSome_iff_exists.1 answered with ⟨response, answered⟩
  rcases visit_fixes_length awaitingSomething_isQuiet
      (fun _ _ watched => by cases watched) method found with
    ⟨left, leaves, still⟩
  rw [leaves] at length
  have length : left.length = some 5 := Option.some.inj length
  rcases still with same | ⟨-, _, -, -, concludes⟩
  · rw [length, unknown] at same
    cases same
  · exact ⟨response, left, answered, concludes response answered, leaves,
      length⟩

/--
So a write that is refused may change the length of its upload: this one brings
more bytes than it declares.
-/
theorem visit_fixes_length_of_refused :
    (awaitingSomething.store.find? "~0~").map Upload.length = some none ∧
    (awaitingSomething.visit (.writing "0" "hello"
      [(HeaderName.uploadLength, "3")])).1.response?.map Response.status
        = some 400 ∧
    ((awaitingSomething.visit (.writing "0" "hello"
      [(HeaderName.uploadLength, "3")])).2.2.store.find? "~0~").map
        Upload.length = some (some 3) := by
  decide +kernel

end Server

end ResumableUpload
