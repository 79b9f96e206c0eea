import ResumableUpload.Proofs.Remains
/-!
# The greatest length

A copy may not lead beyond the length of the upload.  It is stopped by the first
read for which there is no room, so what is true of the number of bytes read is
true of the number of bytes written when it has succeeded.  But the size that a
read leads to is counted up to a ceiling only, and at a length that is this
ceiling no excess is ever seen: `Transfer.run_stays_within_length` says that a
successful copy is within every other length, and `Transfer.run_passes_ceiling`
that it need not be within this one.
-/

namespace ResumableUpload

namespace Budget

variable {budget : Budget} {total length : Nat}

/-- There is room as long as the size, as far as it is counted, is no excess. -/
theorem excess?_eq_none_iff (known : budget.length = some length) :
    budget.excess? total = none ↔
      min (budget.offset + total) ceiling ≤ length := by
  simp only [excess?, known]
  split <;> simp <;> omega

/-- Below the ceiling the size that is counted is the size. -/
theorem le_of_excess?_eq_none (known : budget.length = some length)
    (below : length < ceiling) (room : budget.excess? total = none) :
    budget.offset + total ≤ length := by
  have counted := (excess?_eq_none_iff known).1 room
  omega

/-- At the ceiling nothing is an excess. -/
theorem excess?_ceiling (known : budget.length = some ceiling) (total : Nat) :
    budget.excess? total = none :=
  (excess?_eq_none_iff known).2 (Nat.min_le_right _ _)

end Budget

namespace Transfer

variable {budget : Budget} {before read bytes : Bytes}
  {transfer after : Transfer}

/-- A copy that has read some bytes, for which there was room. -/
structure Spares (budget : Budget) (before : Bytes) (transfer : Transfer)
    (read : Bytes) : Prop where
  passes : transfer.Passes budget before read
  room : budget.excess? read.length = none

/-- A read is taken only if there is room for it. -/
theorem Spares.accept (spares : transfer.Spares budget before read)
    (consumed : transfer.consume bytes = (after, none)) :
    after.Spares budget before (read ++ bytes) := by
  refine ⟨spares.passes.accept consumed, ?_⟩
  rw [consume] at consumed
  simp only [spares.passes.budget, spares.passes.total] at consumed
  rw [List.length_append]
  cases beyond : budget.excess? (read.length + bytes.length) with
  | none => rfl
  | some excess =>
      rw [beyond] at consumed
      cases consumed

/-- So there was room for all that a copy that ends well has written. -/
theorem Spares.finish (spares : transfer.Spares budget before read)
    {disconnected : Bool} {copied : Copied}
    (ends : (transfer.finish disconnected).2 = .ok copied) :
    budget.excess? copied.written = none := by
  have finished := spares.passes.finish disconnected
  generalize transfer.finish disconnected = result at finished ends
  rcases result with ⟨after, reason | done⟩
  · cases ends
  · cases ends
    rw [finished.2]
    exact spares.room

/-- What has been written by a copy that succeeds is no excess. -/
theorem Spares.run (spares : transfer.Spares budget before []) {body : Body}
    {cancelled : Bool} {copied : Copied}
    (succeeds : (transfer.run body cancelled).result = some (.ok copied)) :
    budget.excess? copied.written = none := by
  have fed := Body.feed_holds (Spares budget before) (fun _ _ _ _ => True)
    Spares.accept (fun _ _ => trivial) spares cancelled false
    (body.inReads transfer.settings.readSize)
  rw [Transfer.run] at succeeds
  simp only at succeeds
  generalize Body.feed Transfer.consume transfer cancelled false _ = stopped
    at fed succeeds
  rcases stopped with ⟨after, rest, noticed, stop⟩
  cases stop with
  | ended | cancelled | disconnected =>
      exact Spares.finish fed (Option.some.inj succeeds)
  | paused => cases succeeds
  | refused reason => cases succeeds

/-- A copy fails because of an excess only if there is one. -/
theorem excess?_of_refused (passes : transfer.Passes budget before [])
    {body : Body} {cancelled : Bool} {excess : Excess}
    (refused : (transfer.run body cancelled).result
      = some (.error (.excess excess))) :
    ∃ total, budget.excess? total = some excess := by
  have fed := Body.feed_holds (Passes budget before) (Fails budget before)
    Passes.accept Passes.refuse passes cancelled false
    (body.inReads transfer.settings.readSize)
  rw [Transfer.run] at refused
  simp only at refused
  generalize Body.feed Transfer.consume transfer cancelled false _ = stopped
    at fed refused
  rcases stopped with ⟨after, rest, noticed, stop⟩
  have ended {disconnected : Bool} {read : Bytes}
      (passes : after.Passes budget before read) :
      (after.finish disconnected).2 ≠ .error (.excess excess) := by
    have finished := passes.finish disconnected
    generalize after.finish disconnected = result at finished
    rcases result with ⟨last, reason | done⟩
    · obtain ⟨failure, -, rfl, -⟩ := finished
      intro contrary
      cases contrary
    · intro contrary
      cases contrary
  cases stop with
  | ended | cancelled | disconnected =>
      exact absurd (Option.some.inj refused) (ended fed)
  | paused => cases refused
  | refused reason =>
      cases refused
      obtain ⟨more, last, -, fails⟩ := fed
      cases fails with
      | excess _ _ beyond => exact ⟨_, beyond⟩

/--
A copy to an upload that has no more bytes than its length, and that succeeds,
does not lead beyond the length, unless the length is the ceiling of the count.
At the ceiling it does not matter how many bytes come: no copy is refused for
that.  Both are true of every sink, body and buffer; and the copy in the loops
of the bucketed layout has the same results.
-/
theorem run_stays_within_length {settings : BufferSettings} {sink : Sink}
    (begun : begin? settings budget sink = some transfer) {length : Nat}
    (known : budget.length = some length) (starts : budget.offset ≤ length)
    (counted : length ≤ Budget.ceiling) (body : Body) (cancelled : Bool) :
    (∀ copied, (transfer.run body cancelled).result = some (.ok copied) →
      budget.offset + copied.written ≤ length ∨ length = Budget.ceiling) ∧
    (length = Budget.ceiling → ∀ excess,
      (transfer.run body cancelled).result ≠ some (.error (.excess excess))) ∧
    (settings.layout = .bucketed →
      ((BucketCopy.ofSettings settings budget sink).run body
        cancelled).SameAs (transfer.run body cancelled)) := by
  have passes := passes_begin begun
  refine ⟨?_, ?_, ?_⟩
  · intro copied succeeds
    have spares : transfer.Spares budget sink.received [] :=
      ⟨passes, (Budget.excess?_eq_none_iff known).2
        (Nat.le_trans (Nat.min_le_left _ _) starts)⟩
    have room := spares.run succeeds
    rcases Nat.lt_or_eq_of_le counted with below | ceiling
    · exact .inl (Budget.le_of_excess?_eq_none known below room)
    · exact .inr ceiling
  · rintro rfl excess refused
    obtain ⟨total, beyond⟩ := excess?_of_refused passes refused
    rw [Budget.excess?_ceiling known] at beyond
    cases beyond
  · intro bucketed
    rw [begin?] at begun
    split at begun
    · cases begun
      exact BucketCopy.run_sameAs bucketed budget sink body cancelled
    · cases begun

/-- So it is with the last bytes of the longest upload but one. -/
theorem run_stays_within_length_of_longest :
    ∃ transfer copied,
      begin? ⟨3, 4, .bucketed⟩ ⟨18446744073709551609, some 18446744073709551614⟩
        (.limited (some 2) none) = some transfer ∧
      (transfer.run [.data [104, 101, 108, 108, 111]] false).result
        = some (.ok copied) ∧
      18446744073709551609 + copied.written ≤ 18446744073709551614 := by
  have begun : begin? ⟨3, 4, .bucketed⟩
      ⟨18446744073709551609, some 18446744073709551614⟩
      (.limited (some 2) none) = some
        { settings := ⟨3, 4, .bucketed⟩
          budget := ⟨18446744073709551609, some 18446744073709551614⟩
          sink := .limited (some 2) none } := rfl
  have done : ((run
      { settings := ⟨3, 4, .bucketed⟩
        budget := ⟨18446744073709551609, some 18446744073709551614⟩
        sink := .limited (some 2) none }
      [.data [104, 101, 108, 108, 111]] false).result.bind
        Except.toOption).isSome = true := by
    decide +kernel
  obtain ⟨copied, done⟩ := Option.isSome_iff_exists.1 done
  obtain ⟨result, ends, is_ok⟩ := Option.bind_eq_some_iff.1 done
  cases result with
  | error reason => cases is_ok
  | ok copied =>
      have within := (run_stays_within_length begun rfl (by decide) (by decide)
        [.data [104, 101, 108, 108, 111]] false).1 _ ends
      exact ⟨_, _, begun, ends, within.resolve_right (by decide)⟩

/--
At the ceiling a copy to a sink that never fails and always takes something
takes all reads, however far they lead.
-/
theorem run_at_ceiling (settings : BufferSettings) (offset : Nat) {sink : Sink}
    (willing : sink.IsWilling) {body : Body} (flows : .pause ∉ body)
    (cancelled : Bool) :
    let reading := body.reading settings.readSize cancelled
    (run { settings := settings, budget := ⟨offset, some Budget.ceiling⟩,
           sink := sink } body cancelled).result
      = some (.ok ⟨reading.reads.flatten.length, reading.broken⟩) := by
  have admits : Budget.Admits ⟨offset, some Budget.ceiling⟩
      (body.reading settings.readSize cancelled).reads := by
    intro length known earlier _ _
    cases known
    exact Nat.min_le_right _ _
  exact (run_follows settings _ willing body cancelled).result.trans
    (referenceCopy_of_admits settings flows admits).1

/--
So where the length is the ceiling and all its bytes are there, one byte more is
taken, whatever the layout.
-/
theorem run_passes_ceiling :
    (∃ transfer copied,
      begin? { layout := .contiguous } ⟨Budget.ceiling, some Budget.ceiling⟩
        (.limited none none) = some transfer ∧
      (transfer.run [.data [97]] false).result = some (.ok copied) ∧
      ¬Budget.ceiling + copied.written ≤ Budget.ceiling) ∧
    ∃ transfer copied,
      begin? { layout := .bucketed } ⟨Budget.ceiling, some Budget.ceiling⟩
        (.limited none none) = some transfer ∧
      (transfer.run [.data [97]] false).result = some (.ok copied) ∧
      ¬Budget.ceiling + copied.written ≤ Budget.ceiling := by
  have willing : (Sink.limited none none).IsWilling :=
    Sink.isWilling_limited fun _ absent => by cases absent
  have takes (settings : BufferSettings) :=
    run_at_ceiling settings Budget.ceiling willing
      (show Arrival.pause ∉ [.data [97]] by decide) false
  exact ⟨⟨_, _, rfl, takes _, by decide +kernel⟩,
    ⟨_, _, rfl, takes { layout := .bucketed }, by decide +kernel⟩⟩

end Transfer

end ResumableUpload
