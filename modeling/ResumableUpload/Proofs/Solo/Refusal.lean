import ResumableUpload.Proofs.Solo.Acts
import ResumableUpload.Proofs.Solo.Effects
/-!
# How a write comes to its end

A write whose requirements are met can still be refused: its body may be too
long, or may not have the checksum that was promised.  Both are seen from its
acts, by `Act.Refuses`.  If it is not refused, it is accepted, unless its upload
cannot be given a new end of its life.  `Handling.write_carryOut_result` says
that there are no other ends.
-/

namespace ResumableUpload

variable {service : Service} {exchange checked : Exchange}
  {scene after : Scene} {id : String} {upload : Upload}

/-- An act by which a store refuses bytes of an upload. -/
inductive Act.Refuses (id : String) : Act → Prop where
  /-- There are too many. -/
  | excess (route : Route) (excess : Excess) (store : Store) :
      Refuses id
        ⟨.append id route, some (.error (.refused (.excess excess))), store⟩
  /-- They do not have their checksum, and are taken away again. -/
  | mismatch (algorithm : String) (hash : Bytes) (store : Store) :
      Refuses id ⟨.call (.verify id algorithm hash), some (.ok false), store⟩

/-! ## Renewing a life -/

namespace Lifetime

/-- Whether a life can be given an end now, if it is to have one. -/
def CanRenew (service : Service) (now : Instant) : Prop :=
  ∀ policy, policy? service = some policy →
    ∃ expiry, policy.endFrom now = .ok expiry

/-- A life is given an end, unless there is none to be given. -/
theorem renew_ends {result : Except Failure (Option Instant)}
    (present : scene.store.has id = true)
    (ends : (renew service id).play scene = .finished result after) :
    (∃ expiry, result = .ok expiry ∧ CanRenew service scene.clock) ∨
      ∃ cause, result = .error (.overflow cause) ∧
        ¬CanRenew service scene.clock := by
  rw [renew] at ends
  cases limited : policy? service with
  | none =>
      rw [limited] at ends
      cases ends
      exact .inl ⟨none, rfl, fun policy given => by simp [limited] at given⟩
  | some policy =>
      have supported := supports_of_policy? limited
      simp only [limited, Attempt.play_bind, Attempt.play_now] at ends
      split at ends
      · rw [Played.finished_andThen, Attempt.orFailure_ok] at ends
        cases dated : policy.endFrom scene.clock with
        | error cause =>
            rw [dated] at ends
            cases ends
            refine .inr ⟨cause, rfl, fun renews => ?_⟩
            rcases renews policy limited with ⟨expiry, same⟩
            rw [dated] at same
            cases same
        | ok expiry =>
            have called : (service.call (.setExpiry id expiry)).play scene
                = .finished (.ok ()) { scene with
                    store := scene.store.modify id fun upload =>
                      { upload with expiry := some expiry } } := by
              rw [Attempt.play_serviceCall rfl
                (Terms.grants_of_supports rfl supported)]
              simp [Scene.call, Call.looksAtClock, Store.answer, Store.change,
                present]
            rw [dated] at ends
            simp only [Attempt.play_bind, called] at ends
            cases ends
            refine .inl ⟨some expiry, rfl, ?_⟩
            intro other same
            rw [limited] at same
            cases same
            exact ⟨expiry, dated⟩
      · cases ends

/-- The end of a life is known where there is one to be known. -/
theorem current_ends {result : Except Failure (Option Instant)}
    (found : scene.store.find? id = some upload)
    (ends : (current service id).play scene = .finished result after) :
    ∃ expiry, result = .ok expiry := by
  rw [current] at ends
  cases limited : policy? service with
  | none =>
      rw [limited] at ends
      cases ends
      exact ⟨none, rfl⟩
  | some policy =>
      have supported := supports_of_policy? limited
      rw [limited] at ends
      simp only at ends
      rw [Attempt.play_serviceCall rfl
        (Terms.grants_of_supports rfl supported), Scene.call_expiry found]
        at ends
      cases ends
      exact ⟨upload.expiry, rfl⟩

theorem afterWrite_ends {result : Except Failure (Option Instant)}
    (found : scene.store.find? id = some upload)
    (ends : (afterWrite service id).play scene = .finished result after) :
    (∃ expiry, result = .ok expiry) ∨
      ∃ cause, result = .error (.overflow cause) ∧
        ¬CanRenew service scene.clock := by
  rw [afterWrite.eq_def] at ends
  split at ends
  · rcases renew_ends (Store.has_of_find? found) ends with
        ⟨expiry, same, -⟩ | failed
    · exact .inl ⟨expiry, same⟩
    · exact .inr failed
  · exact .inl (current_ends found ends)

end Lifetime

/-! ## The end of a write -/

namespace Handling

/-- An accepted write is answered with how far the upload is. -/
theorem answerWritten_ends {result : Except Failure (Exchange × Outcome)}
    (found : scene.store.find? checked.fileId = some upload)
    (ends : (answerWritten service checked).play scene
      = .finished result after) :
    (∃ done last, result
        = .ok (done, .written checked.fileId last.isComplete) ∧
      done.response.status = 204 ∧
      after.store.find? checked.fileId = some last) ∨
    ∃ cause, result = .error (.overflow cause) ∧
      ¬Lifetime.CanRenew service scene.clock := by
  have renews := Lifetime.afterWrite_renews service checked.fileId scene
  rw [answerWritten] at ends
  rcases Attempt.bind_ends ends with
      ⟨failure, rfl, failed⟩ | ⟨expiry, middle, renewed, ends, -⟩
  · rcases Lifetime.afterWrite_ends found failed with
        ⟨_, contrary⟩ | ⟨cause, same, endless⟩
    · cases contrary
    · cases same
      exact .inr ⟨cause, rfl, endless⟩
  · rw [renewed] at renews
    rcases renews.rewrites found with ⟨_, -, rewrites, -⟩
    have there : middle.store.find? checked.fileId = some _ := rewrites.found
    rw [Attempt.play_call_bind (Scene.call_offset there),
      Attempt.play_call_bind (Scene.call_length there)] at ends
    cases ends
    refine .inl ⟨_, _, rfl, ?_, there⟩
    cases expiry <;> rfl

/-- What was appended has been found not to have its checksum. -/
theorem refuses_of_keepsPledge
    (ends : (keepsPledge service checked).play scene
      = .finished (.ok false) after) :
    ∃ act ∈ (keepsPledge service checked).actsOn scene,
      act.Refuses checked.fileId := by
  rw [keepsPledge] at ends ⊢
  rcases Attempt.bind_ends ends with
      ⟨failure, contrary, -⟩ | ⟨checksum, middle, -, ends, acts⟩
  · cases contrary
  · rw [acts]
    cases checksum with
    | none => cases ends
    | some checksum =>
        exact ⟨_, List.mem_append_right _ (Attempt.actsOn_serviceCall ends),
          .mismatch checksum.algorithm checksum.hash middle.store⟩

/-- What the work of a write comes to in the end, and what its acts show. -/
inductive WriteResult (service : Service) (checked : Exchange) (scene : Scene)
    (acts : List Act) :
    Except Failure (Exchange × Outcome) → Scene → Prop where
  /-- The body is too long. -/
  | excessive {after : Scene} (excess : Excess)
      (refuses : ∃ act ∈ acts, act.Refuses checked.fileId) :
      WriteResult service checked scene acts
        (.error (.refused (.excess excess))) after
  /-- The body does not have its checksum. -/
  | mismatched {after : Scene}
      (refuses : ∃ act ∈ acts, act.Refuses checked.fileId) :
      WriteResult service checked scene acts
        (.ok (checked.reject .checksumMismatch, .settled)) after
  | accepted {after : Scene} {done : Exchange} {last : Upload}
      (status : done.response.status = 204)
      (left : after.store.find? checked.fileId = some last) :
      WriteResult service checked scene acts
        (.ok (done, .written checked.fileId last.isComplete)) after
  /-- There is no end of life to be given. -/
  | endless {after : Scene} (cause : Policy.Overflow)
      (endless : ¬Lifetime.CanRenew service scene.clock) :
      WriteResult service checked scene acts (.error (.overflow cause)) after

/-- Whatever was done before at the same time, a write comes to the same. -/
theorem WriteResult.lead {result : Except Failure (Exchange × Outcome)}
    {middle : Scene} {acts : List Act} (earlier : List Act)
    (clock : middle.clock = scene.clock)
    (ends : WriteResult service checked middle acts result after) :
    WriteResult service checked scene (earlier ++ acts) result after := by
  cases ends with
  | excessive excess refuses =>
      rcases refuses with ⟨act, present, refuses⟩
      exact .excessive excess ⟨act, List.mem_append_right _ present, refuses⟩
  | mismatched refuses =>
      rcases refuses with ⟨act, present, refuses⟩
      exact .mismatched ⟨act, List.mem_append_right _ present, refuses⟩
  | accepted status left => exact .accepted status left
  | endless cause endless => exact .endless cause (clock ▸ endless)

/-- Bytes that have been appended are accepted, or are taken away again. -/
theorem keepsPledge_result {result : Except Failure (Exchange × Outcome)}
    {kept : Bytes}
    (found : scene.store.find? checked.fileId = some (upload.appended kept))
    (supports : checked.pledge ≠ .none →
      service.terms.supports .checksum = true)
    (ends : (do
      if ← keepsPledge service checked then answerWritten service checked
      else return (checked.reject .checksumMismatch, .settled)).play scene
        = .finished result after) :
    WriteResult service checked scene
      ((do
        if ← keepsPledge service checked then answerWritten service checked
        else return (checked.reject .checksumMismatch, .settled)).actsOn scene)
      result after := by
  have pledged := keepsPledge_ends found supports
  rcases Attempt.bind_ends ends with
      ⟨failure, -, contrary⟩ | ⟨keeps, middle, held, ends, acts⟩
  · rw [contrary] at pledged
    cases pledged
  · rw [held] at pledged
    cases keeps with
    | false =>
        rcases refuses_of_keepsPledge held with ⟨act, present, refuses⟩
        rw [acts]
        cases ends
        exact .mismatched ⟨act, List.mem_append_left _ present, refuses⟩
    | true =>
        have answered (acts : List Act) {written : Upload}
            (rewrites : scene.Rewrites checked.fileId written middle) :
            WriteResult service checked scene acts result after := by
          refine .lead [] rewrites.host.clock ?_
          rcases answerWritten_ends rewrites.found ends with
              ⟨done, last, rfl, status, left⟩ | ⟨cause, rfl, endless⟩
          · exact .accepted status left
          · exact .endless cause endless
        cases pledged with
        | unpledged free => exact answered _ (.refl found)
        | held claimed vouches rewrites => exact answered _ rewrites

/-- A write whose requirements are met comes to one of four ends. -/
theorem write_carryOut_result {result : Except Failure (Exchange × Outcome)}
    (found : scene.store.find? checked.fileId = some upload)
    (may : MayWrite service exchange checked upload)
    (fresh : exchange.declared.length = none)
    (unpledged : exchange.pledge = .none)
    (ends : ((write service).carryOut checked).play scene
      = .finished result after) :
    WriteResult service checked scene
      (((write service).carryOut checked).actsOn scene) result after := by
  rcases play_fixLength found may fresh with ⟨middle, fixed, prepared, -⟩
  rcases Scene.append_spec prepared.found (route service) with
      ⟨kept, -, -, appended, appends⟩
  rw [write] at ends ⊢
  simp only at ends ⊢
  rcases Attempt.bind_ends ends with
      ⟨failure, -, failed⟩ | ⟨_, _, same, ends, acts⟩
  · rw [fixed] at failed
    cases failed
  rw [fixed] at same
  cases same
  rw [acts]
  refine .lead _ prepared.host.clock ?_
  rw [Attempt.actsOn_bind, Attempt.play_append]
  rcases Attempt.bind_ends ends with
      ⟨failure, rfl, refused⟩ | ⟨count, next, done, ends, -⟩
  · rw [Attempt.play_append] at refused
    rw [refused] at appends
    rcases appends with appends | ⟨-, _, contrary⟩
    · cases appends with
      | refused excess =>
          refine .excessive excess ⟨_, ?_,
            .excess (route service) excess middle.store⟩
          rw [Attempt.actsOn_append, refused]
          exact List.mem_append_left _ (List.mem_singleton_self _)
    · cases contrary
  · rw [Attempt.play_append] at done
    rw [done] at appended ⊢
    have clock : next.clock = middle.clock := appended.host.clock
    exact .lead _ clock (keepsPledge_result appended.found
      (supports_of_pledgeOf unpledged may.pledge) ends)

end Handling

end ResumableUpload
