import ResumableUpload.Proofs.Solo.Host
import ResumableUpload.Proofs.Solo.Life
/-!
# Checksums

A write that gives or announces a checksum is accepted only if the bytes that
it has appended have the digest of that checksum, and if it is refused for its
checksum, the content of every upload is what it was before.
`Server.write_keeps_promise` says so for every write that is handled by a quiet
server, whichever way its body takes, wherever the body is cut, and whatever
becomes of the fields after it.

A checksum that was announced and did not arrive is not forgotten: the write is
then held against a checksum that stands for it, `Checksum.sentinel`.
-/

namespace ResumableUpload

variable {service : Service} {exchange checked : Exchange}

/--
The checksum that the body of a write has to have: the one before the body, if
there is one, and otherwise the one that the client has sent after it, as far
as it can be used.  A client whose request is cancelled before the fields after
the body are looked at has sent none.
-/
def Exchange.promised (exchange : Exchange) (client : Client) : Checksum :=
  match exchange.headers.first? HeaderName.uploadChecksum with
  | some value =>
      (Checksum.parse? ((Field.textOf? value).getD "")).getD .sentinel
  | none => .heard client.heard?.join

/-- What is held against the body is what was promised. -/
theorem Exchange.claimed_eq_promised {pledge : Pledge}
    (supported : service.terms.supports .checksum = true)
    (promises : exchange.headers.promiseChecksum = true)
    (agreed : Requirement.pledgeOf service exchange = .ok pledge)
    (client : Client) :
    pledge.claimed? client = some (exchange.promised client) := by
  rw [Requirement.pledgeOf, supported] at agreed
  rw [Headers.promiseChecksum, Headers.has_eq_isSome] at promises
  rw [Exchange.promised]
  simp only [Bool.not_true, Bool.false_eq_true, if_false] at agreed
  cases given : exchange.headers.first? HeaderName.uploadChecksum with
  | some value =>
      rw [given] at agreed
      cases announced : Requirement.announcesChecksum exchange.headers with
      | true =>
          rw [announced] at agreed
          cases agreed
      | false =>
          rw [announced] at agreed
          cases parsed : Checksum.parse? ((Field.textOf? value).getD "") with
          | none =>
              simp only [parsed] at agreed
              cases agreed
          | some checksum =>
              simp only [parsed] at agreed ⊢
              split at agreed
              · cases agreed
                rfl
              · cases agreed
  | none =>
      rw [given, Option.isSome_none, Bool.false_or] at promises
      rw [given, promises] at agreed
      simp only at agreed
      split at agreed
      · cases agreed
      · cases agreed
        rfl

/-! ## Answers -/

/-- What the answer to a write says of the content that it has left. -/
structure Exchange.KeepsPromise (exchange : Exchange) (before after : Store)
    (client : Client) (status : Nat) : Prop where
  accepted : status = 204 →
    ∃ upload written appended algorithm,
      before.find? exchange.fileId = some upload ∧
      after.find? exchange.fileId = some written ∧
      written.content = upload.content ++ appended ∧
      Algorithm.ofName? (exchange.promised client).algorithm = some algorithm ∧
      algorithm.digest appended = (exchange.promised client).hash
  mismatched : status = 460 → ∀ id,
    (after.find? id).map Upload.content = (before.find? id).map Upload.content

namespace Exchange.KeepsPromise

variable {before after : Store} {client : Client} {done : Exchange}

/-- A rejection that leaves the store as it is breaks no promise. -/
theorem reject (rejection : Rejection) :
    exchange.KeepsPromise before before client rejection.status where
  accepted status := by
    have refused := rejection.le_status
    omega
  mismatched _ _ := rfl

/-- A failure that becomes an answer is neither of the two. -/
theorem of_settle_error {failure : Failure}
    (settled : Protocol.settle exchange (.error failure) = .ok done)
    (asked : Exchange) :
    asked.KeepsPromise before after client done.response.status := by
  rcases Protocol.status_of_settle_error settled with status | status
  · exact ⟨fun other => by omega, fun other => by omega⟩
  · exact ⟨fun other => by omega, fun other => by omega⟩

end Exchange.KeepsPromise

namespace Handling

/-- How the work of a write ends is no more than was promised. -/
theorem WriteEnds.keepsPromise {upload written : Upload}
    {done : Exchange} {outcome : Outcome} {before after : Store} {left : Scene}
    (ends : WriteEnds checked upload written
      (.finished (.ok (done, outcome)) left))
    (found : before.find? exchange.fileId = some upload)
    (rewritten : after.find? exchange.fileId = some written)
    (alters : before.AltersAt exchange.fileId after)
    (writes : service.Writes upload written)
    (claimed : checked.pledge.claimed? left.client
      = some (exchange.promised left.client)) :
    exchange.KeepsPromise before after left.client done.response.status := by
  cases ends with
  | accepted status vouched =>
      refine ⟨fun _ => ?_, fun other => by omega⟩
      rcases writes.content with ⟨appended, content, -⟩
      have vouches := vouched _ claimed
      rw [content, List.drop_left] at vouches
      rcases Checksum.digest_of_vouches vouches with ⟨algorithm, named, agrees⟩
      exact ⟨upload, written, appended, algorithm, found, rewritten, content,
        named, agrees⟩
  | mismatched same =>
      -- The bytes were taken away again, and no other record was touched.
      refine ⟨fun status => (by cases status), ?_⟩
      intro _ id
      by_cases here : id = exchange.fileId
      · rw [here, found, rewritten]
        exact congrArg some same
      · rw [alters.others id here]

end Handling

namespace Protocol

open Handling

variable {scene after : Scene} {done : Exchange}

/-- The work of a write keeps its promise, once all requirements are met. -/
theorem carryOut_keepsPromise {result : Except Failure Exchange}
    {answered : Exchange}
    (supported : service.terms.supports .checksum = true)
    (promises : exchange.headers.promiseChecksum = true)
    (unchecked : IsUnchecked exchange) (agrees : scene.HostAgrees)
    {upload : Upload}
    (found : scene.store.find? exchange.fileId = some upload)
    (may : MayWrite service exchange checked upload)
    (ends : (carryOut (write service) checked).play scene
      = .finished result after)
    (settled : settle answered result = .ok done) :
    exchange.KeepsPromise scene.store after.store after.client
      done.response.status := by
  rw [← may.fileId] at found
  rcases write_carryOut_spec found may unchecked.length unchecked.pledge with
      ⟨written, writes, -, -, rewrites, worked⟩
  rw [may.fileId] at found
  cases played : ((write service).carryOut checked).play scene with
  | waiting left | collapsed left =>
      rw [carryOut, Attempt.play_bind, played] at ends
      cases ends
  | finished worked' left =>
      rw [played] at rewrites worked
      change scene.Rewrites checked.fileId written left at rewrites
      rw [may.fileId] at rewrites
      cases worked' with
      | error failure =>
          rw [carryOut, Attempt.play_bind, played] at ends
          cases ends
          exact .of_settle_error settled exchange
      | ok answer =>
          rcases answer with ⟨answer, outcome⟩
          have still : left.HostAgrees := by
            rw [Scene.HostAgrees, rewrites.host.hooks]
            exact agrees
          rcases play_carryOut_of_agrees played still with ⟨last, told, same⟩
          rw [same] at ends
          cases ends
          cases settled
          rw [told.told.store, told.told.client]
          exact worked.keepsPromise found rewrites.found rewrites.alters writes
            (Exchange.claimed_eq_promised supported promises may.pledge _)

theorem execute_keepsPromise {result : Except Failure Exchange}
    {answered : Exchange}
    (supported : service.terms.supports .checksum = true)
    (promises : exchange.headers.promiseChecksum = true)
    (unchecked : IsUnchecked exchange) (agrees : scene.HostAgrees)
    (ends : (execute (write service) exchange).play scene
      = .finished result after)
    (settled : settle answered result = .ok done) :
    exchange.KeepsPromise scene.store after.store after.client
      done.response.status := by
  have handled : ofIntent? service .writeFile = some (write service) := rfl
  have asks := asks_check handled exchange scene
  rw [play_execute] at ends
  cases checks : ((write service).check exchange).play scene with
  | waiting left | collapsed left =>
      rw [checks] at ends
      cases ends
  | finished checked left =>
      rw [checks] at ends asks
      have same : left = scene := asks
      subst same
      rcases checked with failure | rejection | checked
      · cases ends
        exact .of_settle_error settled exchange
      · cases ends
        cases settled
        exact .reject rejection
      · rcases write_check_ends_well checks with ⟨upload, found, may⟩
        rcases play_afterCheck_of_agrees agrees (write service) exchange checked
            with ⟨told, rest, same⟩
        rw [Played.finished_andThen, Attempt.orFailure_ok, same] at ends
        rw [← rest.told.store] at found ⊢
        exact carryOut_keepsPromise supported promises unchecked rest.agrees
          found may ends settled

theorem executeLeased_keepsPromise
    (supported : service.terms.supports .checksum = true)
    (promises : exchange.headers.promiseChecksum = true)
    (unchecked : IsUnchecked exchange) (agrees : scene.HostAgrees)
    (ends : (executeLeased (write service) exchange).play scene
      = .finished (.ok done) after) :
    exchange.KeepsPromise scene.store after.store after.client
      done.response.status := by
  cases free : (scene.locks.acquire exchange.fileId).1 with
  | none =>
      rw [play_executeLeased_of_held free] at ends
      cases ends
      exact .reject (.leased exchange.fileId)
  | some lease =>
      rw [play_executeLeased free, play_executeSettled] at ends
      cases played : (execute (write service) exchange).play
          (scene.leased exchange.fileId) with
      | waiting left | collapsed left =>
          rw [played] at ends
          cases ends
      | finished result left =>
          rw [played, Played.finished_andThen, Played.finished_andThen] at ends
          injection ends with settled released
          subst released
          have still : (scene.leased exchange.fileId).HostAgrees := agrees
          have kept :=
            execute_keepsPromise supported promises unchecked still played
              settled
          exact ⟨kept.accepted, kept.mismatched⟩

/-- A write that is handled where the host agrees keeps its promise. -/
theorem handleIntent_keepsPromise
    (supported : service.terms.supports .checksum = true)
    (promises : exchange.headers.promiseChecksum = true)
    (unchecked : IsUnchecked exchange) (agrees : scene.HostAgrees)
    (ends : (handleIntent .writeFile (write service) exchange).play scene
      = .finished (.ok done) after) :
    exchange.KeepsPromise scene.store after.store after.client
      done.response.status := by
  rcases play_handleIntent_of_agrees agrees .writeFile (write service) exchange
      with ⟨told, rest, same⟩
  rw [same] at ends
  rw [← rest.told.store]
  by_cases version : versionOf exchange = protocolVersion
  · have leases : Intent.writeFile.needsLease = true := rfl
    rw [executeVersioned_of_version version, if_pos leases] at ends
    have promised : (versioned exchange).headers.promiseChecksum = true :=
      promises
    have kept := executeLeased_keepsPromise supported promised
      unchecked.versioned rest.agrees ends
    exact ⟨kept.accepted, kept.mismatched⟩
  · rw [executeVersioned_of_not_version .writeFile nofun version] at ends
    cases ends
    exact .reject (.version (versionOf exchange))

end Protocol

namespace Server

variable {server : Server}

/--
A quiet server whose host does not watch accepts a write only if the bytes it
has appended have the digest that was promised, and leaves the content of every
upload as it was if it finds that they have not.  That holds for requests that
are sent as writes, and for the write of the body that came with a creation.
-/
theorem write_keeps_promise (quiet : server.IsQuiet)
    (unwatched : ∀ hook, server.hooks hook = none)
    (supported : server.service.terms.supports .checksum = true) :
    (∀ visit response,
      visit.request.method.effective visit.request.headers = .patch →
      visit.request.headers.promiseChecksum = true →
      (server.visit visit).1.response? = some response →
      (Exchange.ofRequest server.service visit.request).KeepsPromise
        server.store (server.visit visit).2.2.store (server.visit visit).2.1
        response.status) ∧
    ∀ created id client news done client' server',
      (Exchange.continueWith created id).headers.promiseChecksum = true →
      (Protocol.handleIntent .writeFile (Handling.write server.service)
        (created.continueWith id)).caught.conduct client server news
          = ⟨.finished (.ok done), client', server'⟩ →
      (created.continueWith id).KeepsPromise server.store server'.store client'
        done.response.status := by
  refine ⟨fun visit response method promises answered => ?_,
    fun created id client news done client' server' promises ran => ?_⟩
  · rcases quiet.visit_depicts visit with ⟨tells, -, news, seen⟩
    have agrees : (server.scene visit.client visit.news).HostAgrees :=
      Scene.hostAgrees_of_unwatched unwatched
    rw [Handled.eq_of_response? answered] at tells
    cases played : (Protocol.program server.service visit.request).play
        (server.scene visit.client visit.news) with
    | waiting after | collapsed after =>
        rw [played] at tells
        cases tells
    | finished result after =>
        rw [played] at tells seen
        cases tells
        rcases Protocol.handle_ends_of_patch method played with
            ⟨done, same, ends⟩
        have promised : (Exchange.ofRequest server.service
            visit.request).headers.promiseChecksum = true := promises
        have kept := Protocol.handleIntent_keepsPromise supported promised
          (.ofRequest server.service visit.request) agrees ends
        rw [← same]
        have left : (server.visit visit).2.2.scene (server.visit visit).2.1 news
          = after := seen
        rw [← left] at kept
        exact kept
  · have conducted := quiet.conduct_depicts
      (Protocol.handleIntent .writeFile (Handling.write server.service)
        (created.continueWith id)).caught client news
    have agrees : (server.scene client news).HostAgrees :=
      Scene.hostAgrees_of_unwatched unwatched
    rw [ran] at conducted
    generalize played : (Protocol.handleIntent .writeFile
      (Handling.write server.service) (created.continueWith id)).caught.play
        (server.scene client news) = ended at conducted
    cases conducted with
    | finished quiet seen =>
        subst seen
        exact Protocol.handleIntent_keepsPromise supported promises
          (.continueWith created id) agrees played

/-- A write whose body has the SHA-1 digest that its fields give. -/
def vouchedVisit : Visit :=
  .writing "0" "hello"
    [(HeaderName.uploadChecksum, "sha1 qvTGHdzF6KLavt4PO0gs2a6pQ00=")]

/-- So it is with a write that is accepted, and with one that is not. -/
theorem write_keeps_promise_of_sha1 :
    ∃ response,
      (awaitingSomething.visit vouchedVisit).1.response? = some response ∧
      response.status = 204 ∧
      (Exchange.ofRequest awaitingSomething.service
        vouchedVisit.request).KeepsPromise awaitingSomething.store
          (awaitingSomething.visit vouchedVisit).2.2.store
          (awaitingSomething.visit vouchedVisit).2.1 204 := by
  have quiet : awaitingSomething.IsQuiet :=
    ((⟨rfl, fun _ => rfl⟩ : IsQuiet {}).visit_succeeds _).quiet
  have accepted : (awaitingSomething.visit vouchedVisit).1.response?.map
      Response.status = some 204 := by
    decide +kernel
  rcases Option.map_eq_some_iff.1 accepted with ⟨response, answered, status⟩
  obtain ⟨keeps, -⟩ := write_keeps_promise quiet (fun _ => rfl)
    (by decide +kernel)
  have kept := keeps vouchedVisit response (by decide +kernel)
    (by decide +kernel) answered
  rw [status] at kept
  exact ⟨response, answered, status, kept⟩

end Server

end ResumableUpload
