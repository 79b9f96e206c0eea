import ResumableUpload.Proofs.CreationWithBody
import ResumableUpload.Proofs.Lifetimes
/-!
# Failures

A failure that is nobody's answer is handed to the host instead of a response.
Such a request has left the store as it was, with one exception.  The end of a
life is computed after the effect: when an upload has been created, and when a
body has been appended where lives slide.  If there is no such end, because the
timeout is too long or leads beyond the calendar, the request fails and its
effect stays.

`Store.FailsTo` lists what a request that fails may leave, and
`Server.visit_fails` says so of every visit in every state of a server.
-/

namespace ResumableUpload

variable {service : Service} {exchange checked : Exchange}
  {scene after : Scene} {upload : Upload} {failure : Failure} {begins : Prop}
  {writes : String → Prop}

/--
What is left by a request that fails: the store as it was, unless there is no
end of life to be given to an upload that the request creates or writes to.
-/
inductive Store.FailsTo (service : Service) (now : Instant) (begins : Prop)
    (writes : String → Prop) (before : Store) : Failure → Store → Prop where
  | untouched (failure : Failure) :
      FailsTo service now begins writes before failure before
  /-- A new upload stays, without an end of its life. -/
  | created {policy : Policy} {cause : Policy.Overflow} {upload : Upload}
      (begun : begins)
      (limited : Lifetime.policy? service = some policy)
      (endless : policy.endFrom now = .error cause)
      (empty : upload.content = []) (immortal : upload.expiry = none)
      (apart : upload.part.isJoined = false) :
      FailsTo service now begins writes before (.overflow cause)
        (before.insert upload).2
  /-- What was written stays, under the end of life that there was. -/
  | written {policy : Policy} {cause : Policy.Overflow} {id : String}
      {upload written : Upload} {after : Store}
      (limited : Lifetime.policy? service = some policy)
      (slides : policy.isSliding = true)
      (endless : policy.endFrom now = .error cause) (named : writes id)
      (found : before.find? id = some upload)
      (wrote : service.Writes upload written)
      (lasting : written.expiry = upload.expiry)
      (alters : before.AltersAt id after)
      (left : after.find? id = some written) :
      FailsTo service now begins writes before (.overflow cause) after

/-! ## The host -/

namespace Attempt

/-- An attempt that comes to no failure. -/
def IsSafe {α : Type} (attempt : Attempt α) : Prop :=
  ∀ (scene : Scene) (failure : Failure) (after : Scene),
    attempt.play scene ≠ .finished (.error failure) after

namespace IsSafe

variable {α β : Type}

theorem pure (value : α) : (pure value : Attempt α).IsSafe := by
  intro scene failure after fails
  cases fails

theorem tell (event : Event) : (Attempt.tell event).IsSafe := by
  intro scene failure after fails
  rw [play_tell] at fails
  rcases Played.andThen_ends fails with ⟨verdict, last, -, ends⟩
  cases ends

theorem bind {attempt : Attempt α} {rest : α → Attempt β}
    (first : attempt.IsSafe) (second : ∀ value, (rest value).IsSafe) :
    (attempt >>= rest).IsSafe := by
  intro scene failure after fails
  rcases bind_ends fails with ⟨_, -, here⟩ | ⟨value, middle, -, later, -⟩
  · exact first scene _ after here
  · exact second value middle failure after later

end IsSafe

end Attempt

/-- The host is told without a failure of what was done. -/
theorem Protocol.tellOutcome_isSafe (exchange : Exchange) (outcome : Outcome) :
    (tellOutcome exchange outcome).IsSafe := by
  cases outcome with
  | created id length complete =>
      refine (Attempt.IsSafe.tell _).bind fun verdict => ?_
      split
      · exact .pure verdict
      · exact .tell _
  | written id complete =>
      cases complete with
      | false => exact .pure _
      | true => exact .tell _
  | deleted id => exact .tell _
  | settled => exact .pure _

/-! ## The work -/

namespace Handling

/-- A creation that fails has created nothing, or an upload without an end. -/
theorem carryOut_fails_of_creates {intent : Intent} {handling : Handling}
    (begun : begins) (creates : intent.creates = true)
    (handled : ofIntent? service intent = some handling)
    (numbered : scene.store.IsNumbered)
    (fails : (handling.carryOut checked).play scene
      = .finished (.error failure) after) :
    scene.store.FailsTo service scene.clock begins writes failure
      after.store := by
  have origin := carryOut_origin creates handled numbered checked
  rw [fails] at origin
  cases origin with
  | failed failure => exact .untouched failure
  | born empty immortal declared apart whole birth =>
      cases birth with
      | failed failure => exact .untouched failure
      | endless limited endless =>
          exact .created begun limited endless empty immortal apart

/-- An accepted write fails only where lives slide and have no end. -/
theorem answerWritten_fails
    (found : scene.store.find? checked.fileId = some upload)
    (fails : (answerWritten service checked).play scene
      = .finished (.error failure) after) :
    ∃ policy cause, Lifetime.policy? service = some policy ∧
      policy.isSliding = true ∧ policy.endFrom scene.clock = .error cause ∧
      failure = .overflow cause ∧ after = scene := by
  have sliding := Lifetime.play_afterWrite service found
  rw [answerWritten, Attempt.play_bind] at fails
  generalize (Lifetime.afterWrite service checked.fileId).play scene = played
    at sliding fails
  cases sliding with
  | stays stays =>
      rw [Played.finished_andThen, Attempt.orFailure_ok,
        Attempt.play_call_bind (Scene.call_offset found),
        Attempt.play_call_bind (Scene.call_length found)] at fails
      cases fails
  | moves slides renewal =>
      cases renewal with
      | unlimited free =>
          rw [Lifetime.slides, free] at slides
          cases slides
      | @dated policy expiry limited dated =>
          have renewed : Scene.Rewrites checked.fileId (upload.renewed expiry)
              scene _ :=
            .modify found (Upload.renewed expiry)
          have there := renewed.found
          rw [Played.finished_andThen, Attempt.orFailure_ok,
            Attempt.play_call_bind (Scene.call_offset there),
            Attempt.play_call_bind (Scene.call_length there)] at fails
          cases fails
      | @endless policy cause limited endless =>
          rw [Lifetime.slides, limited] at slides
          cases fails
          exact ⟨policy, cause, limited, slides, endless, rfl, rfl⟩
      | timeless => cases fails

/-- A write that fails is refused by the store, or there is no end of life. -/
theorem write_carryOut_fails
    (found : scene.store.find? checked.fileId = some upload)
    (may : MayWrite service exchange checked upload)
    (unchecked : IsUnchecked exchange) (named : writes checked.fileId)
    (fails : ((write service).carryOut checked).play scene
      = .finished (.error failure) after) :
    (∃ cause, failure = .refused cause) ∨
      scene.store.FailsTo service scene.clock begins writes failure
      after.store := by
  rcases play_write found may unchecked.length unchecked.pledge with
    ⟨kept, admits, -, course⟩
  generalize ((write service).carryOut checked).play scene = played
    at course fails
  cases course with
  | broken rewrites breaks =>
      rcases breaks _ _ fails with ⟨excess, same⟩
      cases same
      exact .inl ⟨_, rfl⟩
  | mismatched rewrites => cases fails
  | answered chunkStart rewrites vouched =>
      rcases answerWritten_fails rewrites.found fails with
        ⟨policy, cause, limited, slides, endless, rfl, rfl⟩
      rw [rewrites.host.clock] at endless
      have wrote := may.writes unchecked.length admits chunkStart fun _ => rfl
      exact .inr (.written limited slides endless named found wrote rfl
        rewrites.alters rewrites.found)

/-- A deletion that fails has deleted nothing. -/
theorem delete_carryOut_fails
    (fails : ((delete service).carryOut checked).play scene
      = .finished (.error failure) after) :
    after.store = scene.store := by
  rcases Attempt.bind_ends fails with
    ⟨_, same, failed⟩ | ⟨_, middle, -, contrary, -⟩
  · rcases Attempt.serviceCall_ends rfl failed with ⟨-, rfl⟩ | called
    · rfl
    · have answered : scene.call (.delete checked.fileId)
          = .finished (scene.store.answer scene.clock
              (.delete checked.fileId)).1
            { scene with store := (scene.store.answer scene.clock
                (.delete checked.fileId)).2 } := rfl
      rw [answered, Store.answer] at called
      split at called
      · cases called
      · cases called
        rfl
  · cases contrary

/--
Work that fails has left the store as it was, or there is no end of life.
What the store refuses is not asked about: it is the client's to know.
-/
theorem carryOut_fails {intent : Intent} {handling : Handling}
    (handled : ofIntent? service intent = some handling)
    (unchecked : IsUnchecked exchange) {asked : Scene}
    (checks : (handling.check exchange).play asked
      = .finished (.ok (.ok checked)) asked)
    (same : scene.store = asked.store) (numbered : scene.store.IsNumbered)
    (begun : intent.creates = true → begins)
    (named : intent = .writeFile → writes exchange.fileId)
    (fails : (handling.carryOut checked).play scene
      = .finished (.error failure) after) :
    (∃ cause, failure = .refused cause) ∨
      scene.store.FailsTo service scene.clock begins writes failure
      after.store := by
  have untouched (left : after.store = scene.store) :
      scene.store.FailsTo service scene.clock begins writes failure
      after.store :=
    left ▸ .untouched failure
  cases intent with
  | createFile | concatenate =>
      exact .inr (carryOut_fails_of_creates (begun rfl) rfl handled numbered
        fails)
  | writeFile =>
      cases handled
      rcases write_check_ends_well checks with ⟨upload, found, may⟩
      rw [← may.fileId, ← same] at found
      exact write_carryOut_fails found may unchecked (may.fileId ▸ named rfl)
        fails
  | deleteFile =>
      cases handled
      exact .inr (untouched (delete_carryOut_fails fails))
  | fileInfo =>
      cases handled
      have asks := (info_carryOut_inquires service checked).asks scene
      rw [fails] at asks
      exact .inr (untouched (congrArg Scene.store asks))
  | options =>
      cases handled
      have asks := (options_carryOut_inquires service checked).asks scene
      rw [fails] at asks
      exact .inr (untouched (congrArg Scene.store asks))
  | notApplicable => cases handled

end Handling

/-! ## Requests -/

namespace Protocol

variable {intent : Intent} {handling : Handling} {request : Request}

/-- What fails while a handling is carried out is its work. -/
theorem carryOut_failed
    (fails : (carryOut handling checked).play scene
      = .finished (.error failure) after) :
    (handling.carryOut checked).play scene
      = .finished (.error failure) after := by
  rcases Attempt.bind_ends fails with
    ⟨_, same, failed⟩ | ⟨⟨done, outcome⟩, middle, -, tells, -⟩
  · cases same
    exact failed
  · rcases Attempt.bind_ends tells with
      ⟨_, -, failed⟩ | ⟨verdict, last, -, contrary, -⟩
    · exact absurd failed (tellOutcome_isSafe done outcome _ _ _)
    · cases contrary

/-- A failure that is left when a result is settled is no refusal. -/
theorem of_settle_error {result : Except Failure Exchange}
    (settled : settle exchange result = .error failure) :
    result = .error failure ∧ ∀ cause, failure ≠ .refused cause := by
  cases result with
  | ok done => cases settled
  | error first =>
      cases first with
      | refused cause | missing id => cases settled
      | _ =>
          cases settled
          exact ⟨rfl, nofun⟩

/-- An intent that fails has left the store, or there is no end of life. -/
theorem handleIntent_fails
    (handled : Handling.ofIntent? service intent = some handling)
    (unchecked : Handling.IsUnchecked exchange)
    (numbered : scene.store.IsNumbered)
    (begun : intent.creates = true → begins)
    (named : intent = .writeFile → writes exchange.fileId)
    (fails : (handleIntent intent handling exchange).play scene
      = .finished (.error failure) after) :
    scene.store.FailsTo service scene.clock begins writes failure
      after.store := by
  have course := handleIntent_course handled exchange scene
  rw [fails] at course
  cases course.ended with
  | stopped same refused => exact same ▸ .untouched failure
  | carried checks same sight agrees carries does closes left =>
      rcases of_settle_error closes.symm with ⟨rfl, unrefused⟩
      rw [left, ← sight.store, ← sight.ground.clock]
      rcases Handling.carryOut_fails handled unchecked.versioned checks same
          (sight.store ▸ numbered) begun named (carryOut_failed carries) with
        ⟨cause, refused⟩ | fails
      · exact absurd refused (unrefused cause)
      · exact fails

/-- A request that fails has left the store, or there is no end of life. -/
theorem handle_fails (numbered : scene.store.IsNumbered)
    (fails : (handle service request).play scene
      = .finished (.error failure) after) :
    scene.store.FailsTo service scene.clock
      (request.method.effective request.headers = .post)
      (request.IsWriteTo service) failure after.store := by
  have handles := handle_handles service request scene
  generalize (handle service request).play scene = played at fails handles
  cases handles with
  | passed => cases fails
  | @first intent handling rest asked handled =>
      rcases Played.andThen_ends fails with ⟨result, last, handles, ends⟩
      cases result with
      | ok done => cases ends
      | error first =>
          cases ends
          refine handleIntent_fails handled (.ofRequest service request)
            numbered (method_of_creates asked) ?_ handles
          rintro rfl
          exact (isWriteTo_iff asked handled scene.store _).1 ⟨rfl, rfl⟩
  | both asked creates handled handles created identified =>
      rw [play_handleBody, Played.andThen_assoc] at fails
      rcases Played.andThen_ends fails with ⟨result, last, -, ends⟩
      cases ends

end Protocol

/-- Where there are ends of lives, nothing is left by a request that fails. -/
theorem Store.FailsTo.eq_of_canDate {before left : Store} {now : Instant}
    (fails : before.FailsTo service now begins writes failure left)
    (dates : service.CanDate now) : left = before := by
  cases fails with
  | untouched failure => rfl
  | created begun limited endless empty immortal apart =>
      rw [dates.endFrom limited] at endless
      cases endless
  | written limited slides endless named found wrote lasting alters left =>
      rw [dates.endFrom limited] at endless
      cases endless

namespace Server

/-- The failure of a request, if it has failed. -/
def Handled.failure? : Handled → Option Failure
  | .failed failure => some failure
  | _ => none

theorem Handled.eq_of_failure? {handled : Handled}
    (failed : handled.failure? = some failure) : handled = .failed failure := by
  cases handled with
  | failed first =>
      cases failed
      rfl
  | _ => cases failed

/-- A visit that has failed is one whose request has. -/
theorem IsQuiet.play_of_failed {server : Server} (quiet : server.IsQuiet)
    {visit : Visit} (failed : (server.visit visit).1 = .failed failure) :
    ∃ after, (Protocol.handle server.service visit.request).play
        (server.scene visit.client visit.news)
          = .finished (.error failure) after := by
  have tells := (quiet.visit_depicts visit).tells
  rw [failed] at tells
  change Handled.Tells (.failed failure) ((Protocol.handle server.service
    visit.request).play (server.scene visit.client visit.news)) at tells
  generalize (Protocol.handle server.service visit.request).play
    (server.scene visit.client visit.news) = played at tells ⊢
  cases tells with
  | failed failure after => exact ⟨after, rfl⟩

/--
A request that fails has left the store as it was, whatever happened to the
server before; but if there is no end of life to be given, what it has created
stays, or what it has written where lives slide.
-/
theorem visit_fails {start : Server} (quiet : start.IsQuiet)
    (numbered : start.store.IsNumbered) (occurrences : List Occurrence)
    (visit : Visit)
    (failed : ((start.live occurrences).visit visit).1.failure?
      = some failure) :
    let server := start.live occurrences
    server.store.FailsTo server.service server.clock
        (visit.request.method.effective visit.request.headers = .post)
        (visit.request.IsWriteTo server.service) failure
        (server.visit visit).2.2.store ∧
      (server.service.CanDate server.clock →
        (server.visit visit).2.2.store = server.store) := by
  intro server
  have lived := quiet.live_succeeds occurrences
  have still : server.IsQuiet := lived.quiet
  have numbered : (server.scene visit.client visit.news).store.IsNumbered :=
    (Store.Deeds.created_le numbered lived.deeds).1
  obtain ⟨after, ends⟩ :=
    still.play_of_failed (Handled.eq_of_failure? failed)
  have fails := Protocol.handle_fails numbered ends
  rw [still.visit_store, ends]
  exact ⟨fails, fails.eq_of_canDate⟩

/-- A server where lives slide, and soon are to end beyond the calendar. -/
def late : Server where
  service := { config := { expiration := some (.sliding 8210266876799) } }

/-- There an upload is created, and a second passes. -/
def lately : Server :=
  late.live [.visit (.creating [(HeaderName.uploadLength, "5")]),
    .elapse 1000]

/-- So a write fails then, and what it has written stays. -/
theorem visit_fails_of_late :
    (lately.visit (.writing "0" "hello" [])).1.failure?
        = some (.overflow .calendar) ∧
      lately.store.FailsTo lately.service lately.clock
        ((Visit.writing "0" "hello" []).request.method.effective
          (Visit.writing "0" "hello" []).request.headers = .post)
        ((Visit.writing "0" "hello" []).request.IsWriteTo lately.service)
        (.overflow .calendar)
        (lately.visit (.writing "0" "hello" [])).2.2.store ∧
      ((lately.visit (.writing "0" "hello" [])).2.2.store.find? "~0~").map
        Upload.content = some (Bytes.ofString "hello") := by
  have quiet : late.IsQuiet := ⟨rfl, fun _ => rfl⟩
  have failed : (lately.visit (.writing "0" "hello" [])).1.failure?
      = some (.overflow .calendar) := by
    decide +kernel
  refine ⟨failed, ?_, by decide +kernel⟩
  exact (visit_fails quiet .empty _ (.writing "0" "hello" []) failed).1

/-- A server where lives are to end so late that there never is such a date. -/
def endless : Server where
  service :=
    { config := { expiration := some (.absolute 18446744073709551615) } }

/-- There a creation fails, and the upload that nobody is told of stays. -/
theorem visit_fails_and_creates :
    (endless.visit (.creating [(HeaderName.uploadLength, "5")])).1.failure?
        = some (.overflow .timeout) ∧
      endless.store.ids = [] ∧
      (endless.visit (.creating [(HeaderName.uploadLength, "5")])
        ).2.2.store.find? "~0~" = some { length := some 5 } :=
  ⟨by decide +kernel, rfl, by decide +kernel⟩

end Server

end ResumableUpload
