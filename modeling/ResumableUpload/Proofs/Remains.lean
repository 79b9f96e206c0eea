import ResumableUpload.Proofs.Copies
/-!
# What a copy leaves in its sink

A copy may break off anywhere: a read may lead beyond the length of the upload,
and the sink may fail between two blocks, in the middle of one, or when it is
flushed in the end.  Of every copy it is kept true that what its sink has
received and what its buffer holds is what has been read, in order and once:
`Transfer.Passes`.  So the sink never holds anything but a first part of what
has been read: `Transfer.run_keeps_first`.
-/

namespace ResumableUpload.Transfer

variable {budget : Budget} {before kept read bytes : Bytes}
  {transfer after : Transfer}

/-! ## Reads and blocks -/

/--
A copy that has read some bytes: the first of them are in the sink, after what
was there before, and the buffer holds the others.
-/
structure Passes (budget : Budget) (before : Bytes) (transfer : Transfer)
    (read : Bytes) : Prop where
  budget : transfer.budget = budget
  total : transfer.total = read.length
  passed : ∃ kept, transfer.sink.received = before ++ kept ∧
    kept ++ transfer.held.bytes = read ∧ transfer.written = kept.length

/--
What a copy leaves that has failed after reading some bytes, the last of them
in one read: a read that leads beyond the length is not in the sink at all.
-/
inductive Fails (budget : Budget) (before : Bytes) (transfer : Transfer)
    (read last : Bytes) : CopyError → Prop where
  | excess {excess : Excess} {kept : Bytes}
      (received : transfer.sink.received = before ++ kept)
      (within : kept <+: read)
      (beyond : budget.excess? (read.length + last.length) = some excess) :
      Fails budget before transfer read last (.excess excess)
  | sink {reason : SinkError} {kept : Bytes}
      (received : transfer.sink.received = before ++ kept)
      (within : kept <+: read ++ last) :
      Fails budget before transfer read last (.sink reason)

theorem passes_begin {settings : BufferSettings} {sink : Sink}
    (begun : begin? settings budget sink = some transfer) :
    transfer.Passes budget sink.received [] := by
  rw [begin?] at begun
  split at begun
  · cases begun
    exact ⟨rfl, rfl, [], (List.append_nil _).symm, rfl, rfl⟩
  · cases begun

/-- What writing some blocks behind some bytes leaves. -/
inductive Writes (before : Bytes) (transfer : Transfer) (kept bytes : Bytes) :
    Transfer × Option CopyError → Prop where
  | done {sink : Sink} (received : sink.received = before ++ (kept ++ bytes)) :
      Writes before transfer kept bytes
        ({ transfer with
            sink := sink
            written := transfer.written + bytes.length }, none)
  | failed {sink : Sink} {reason : SinkError} {more : Bytes}
      (received : sink.received = before ++ (kept ++ more))
      (within : more <+: bytes) :
      Writes before transfer kept bytes
        ({ transfer with sink := sink }, some (.sink reason))

theorem writes_writeBlocks (received : transfer.sink.received = before ++ kept)
    (blocks : List Bytes) :
    transfer.Writes before kept blocks.flatten
      (transfer.writeBlocks blocks) := by
  have takes := transfer.sink.takes_writeAll blocks
  rcases writes : transfer.sink.writeAll blocks with ⟨sink, none | reason⟩
  · rw [writes] at takes
    rw [writeBlocks_of_done writes]
    refine .done ?_
    rw [takes.whole rfl, received, List.append_assoc]
  · rw [writes] at takes
    rw [writeBlocks_of_failed writes]
    rcases takes.received with ⟨more, within, taken⟩
    refine .failed ?_ within
    rw [taken, received, List.append_assoc]

namespace Passes

/-- The sink holds a first part of what has been read. -/
theorem received (passes : transfer.Passes budget before read) :
    ∃ kept, transfer.sink.received = before ++ kept ∧ kept <+: read := by
  rcases passes.passed with ⟨kept, received, whole, -⟩
  exact ⟨kept, received, ⟨_, whole⟩⟩

/-- A read that the budget has room for goes through the buffer. -/
theorem consume (passes : transfer.Passes budget before read)
    (bytes : Bytes) :
    match transfer.consume bytes with
    | (after, none) => after.Passes budget before (read ++ bytes)
    | (after, some reason) => after.Fails budget before read bytes reason := by
  rcases passes.passed with ⟨kept, received, whole, written⟩
  rw [Transfer.consume]
  simp only [passes.budget, passes.total]
  cases beyond : budget.excess? (read.length + bytes.length) with
  | some excess => exact .excess received ⟨_, whole⟩ beyond
  | none =>
      have absorbed := transfer.settings.flatten_absorb transfer.held bytes
      simp only
      generalize transfer.settings.absorb transfer.held bytes = absorption
        at absorbed ⊢
      rcases absorption with ⟨blocks, held⟩
      have all : kept ++ (blocks.flatten ++ held.bytes) = read ++ bytes := by
        rw [absorbed, ← List.append_assoc, whole]
      have writes := @writes_writeBlocks before kept
        { transfer with
          budget := budget
          total := read.length + bytes.length
          held := held } received blocks
      generalize writeBlocks _ blocks = written at writes ⊢
      cases writes with
      | done received =>
          exact
            { budget := rfl
              total := List.length_append.symm
              passed := ⟨kept ++ blocks.flatten, received,
                (List.append_assoc _ _ _).trans all,
                by rw [List.length_append, written]⟩ }
      | failed received within =>
          refine .sink received ?_
          rw [← all, List.prefix_append_right_inj]
          exact within.trans (List.prefix_append _ _)

theorem accept (passes : transfer.Passes budget before read)
    (consumed : transfer.consume bytes = (after, none)) :
    after.Passes budget before (read ++ bytes) := by
  have done := passes.consume bytes
  rwa [consumed] at done

theorem refuse {reason : CopyError}
    (passes : transfer.Passes budget before read)
    (consumed : transfer.consume bytes = (after, some reason)) :
    after.Fails budget before read bytes reason := by
  have done := passes.consume bytes
  rwa [consumed] at done

/-- In the end the buffer is written out and the sink is flushed. -/
theorem finish (passes : transfer.Passes budget before read)
    (disconnected : Bool) :
    match transfer.finish disconnected with
    | (after, .ok copied) =>
        after.sink.received = before ++ read ∧ copied.written = read.length
    | (after, .error reason) => ∃ failure kept, reason = .sink failure ∧
        after.sink.received = before ++ kept ∧ kept <+: read := by
  rcases passes.passed with ⟨kept, received, whole, written⟩
  have writes := writes_writeBlocks received
    (transfer.settings.drain transfer.held)
  rw [BufferSettings.flatten_drain] at writes
  rw [Transfer.finish]
  generalize transfer.writeBlocks _ = written at writes ⊢
  cases writes with
  | @done sink received =>
      rw [whole] at received
      -- The flush takes nothing, so all is there even if it fails.
      cases flushed : sink.flush with
      | mk after failed =>
          have received : after.received = before ++ read := by
            rw [← received, ← sink.received_flush, flushed]
          simp only [flushed]
          cases failed with
          | none =>
              refine ⟨received, ?_⟩
              simp only [← whole, List.length_append, ← written]
          | some reason =>
              exact ⟨reason, read, rfl, received, List.prefix_rfl⟩
  | failed received within =>
      refine ⟨_, _, rfl, received, ?_⟩
      rwa [← whole, List.prefix_append_right_inj]

end Passes

/-! ## Whole copies -/

/-- What a copy leaves in its sink that has read some of a body. -/
structure Progress.Keeps (progress : Progress) (budget : Budget)
    (before : Bytes) (read : Body) (kept : Bytes) : Prop where
  received : progress.transfer.sink.received = before ++ kept
  within : kept <+: read.data
  /-- Nothing of a read that leads beyond the length is in the sink. -/
  excess : ∀ excess, progress.result = some (.error (.excess excess)) →
    ∃ earlier last, read = earlier ++ [.data last] ∧
      kept <+: Body.data earlier ∧ budget.length = some excess.length ∧
      excess.length < budget.offset + (Body.data earlier ++ last).length
  done : ∀ copied, progress.result = some (.ok copied) →
    kept = read.data ∧ copied.written = kept.length

theorem Passes.closes {read rest : Body} {cancelled : Bool}
    (passes : transfer.Passes budget before read.data) (disconnected : Bool) :
    ∃ kept, Progress.Keeps
      { transfer := (transfer.finish disconnected).1
        rest := rest
        cancelled := cancelled
        result := some (transfer.finish disconnected).2 }
      budget before read kept := by
  have finished := passes.finish disconnected
  generalize transfer.finish disconnected = result at finished ⊢
  rcases result with ⟨after, reason | copied⟩
  · rcases finished with ⟨failure, kept, rfl, received, within⟩
    exact ⟨kept,
      { received := received
        within := within
        excess := fun _ fails => by cases fails
        done := fun _ succeeds => by cases succeeds }⟩
  · rcases finished with ⟨received, written⟩
    exact ⟨read.data,
      { received := received
        within := List.prefix_rfl
        excess := fun _ fails => by cases fails
        done := fun _ succeeds => by
          cases succeeds
          exact ⟨rfl, written⟩ }⟩

theorem Fails.breaks {earlier rest : Body} {last : Bytes} {reason : CopyError}
    {cancelled : Bool}
    (fails : transfer.Fails budget before (Body.data earlier) last reason)
    (whole : Body.data (earlier ++ [.data last]) = Body.data earlier ++ last) :
    ∃ kept, Progress.Keeps ⟨transfer, rest, cancelled, some (.error reason)⟩
      budget before (earlier ++ [.data last]) kept := by
  cases fails with
  | @excess excess kept received within beyond =>
      rw [← List.length_append] at beyond
      exact ⟨kept,
        { received := received
          within := by
            rw [whole]
            exact within.trans (List.prefix_append _ _)
          excess := fun _ fails => by
            cases fails
            exact ⟨earlier, last, rfl, within,
              Budget.length_of_excess?_eq_some beyond⟩
          done := fun _ succeeds => by cases succeeds }⟩
  | @sink reason kept received within =>
      exact ⟨kept,
        { received := received
          within := by rwa [whole]
          excess := fun _ fails => by cases fails
          done := fun _ succeeds => by cases succeeds }⟩

/-- Where a body keeps a copy waiting it has written a part of what it read. -/
theorem Passes.waits {read rest : Body} {cancelled : Bool}
    (passes : transfer.Passes budget before read.data) :
    ∃ kept, Progress.Keeps ⟨transfer, rest, cancelled, none⟩ budget before read
      kept := by
  rcases passes.received with ⟨kept, received, within⟩
  exact ⟨kept,
    { received := received
      within := within
      excess := fun _ fails => by cases fails
      done := fun _ succeeds => by cases succeeds }⟩

/-- A copy that has not read anything yet, run on a body. -/
theorem Passes.run (passes : transfer.Passes budget before [])
    (body : Body) (cancelled : Bool) :
    ∃ read kept,
      body.inReads transfer.settings.readSize
        = read ++ (transfer.run body cancelled).rest ∧
      (transfer.run body cancelled).Keeps budget before read kept := by
  rcases Body.feed_reads (Passes budget before) (Fails budget before)
    Passes.accept Passes.refuse passes cancelled false
    (body.inReads transfer.settings.readSize) with ⟨read, split, ends⟩
  refine ⟨read, ?_⟩
  rw [Transfer.run]
  simp only
  generalize Body.feed Transfer.consume transfer cancelled false _ = fed
    at split ends ⊢
  rcases fed with ⟨after, rest, noticed, stop⟩
  cases stop with
  | ended =>
      rcases Passes.closes ends false with ⟨kept, keeps⟩
      exact ⟨kept, split, keeps⟩
  | cancelled =>
      rcases Passes.closes ends false with ⟨kept, keeps⟩
      exact ⟨kept, split, keeps⟩
  | disconnected =>
      rcases Passes.closes ends true with ⟨kept, keeps⟩
      exact ⟨kept, split, keeps⟩
  | paused =>
      rcases Passes.waits ends with ⟨kept, keeps⟩
      exact ⟨kept, split, keeps⟩
  | refused reason =>
      rcases ends with ⟨earlier, last, rfl, whole, fails⟩
      rcases Fails.breaks fails whole with ⟨kept, keeps⟩
      exact ⟨kept, split, keeps⟩

/-- A willing sink is never the cause of a failure. -/
theorem not_isWilling_of_failed {settings : BufferSettings} {sink : Sink}
    {body : Body} {cancelled : Bool} {reason : SinkError}
    (failed : (run { settings := settings, budget := budget, sink := sink } body
      cancelled).result = some (.error (.sink reason))) :
    ¬sink.IsWilling := by
  intro willing
  have follows := run_follows settings budget willing body cancelled
  rw [follows.result, Body.Fed.outcome?] at failed
  split at failed <;> cases failed

/--
Whatever the sizes and the layout of the write buffer, the budget, the body and
the sink are, and however a copy ends or is kept waiting, the sink has received
a first part of the data that has been read of the body.  If a read leads beyond
the length of the upload, nothing of it is in the sink, and if the copy succeeds
everything is; it fails for no other cause than such a read, or a sink that takes
nothing, or fails when it is written to or flushed.  The copy in the loops of
the bucketed layout does the same to the sink.
-/
theorem run_keeps_first {settings : BufferSettings} {sink : Sink}
    (begun : begin? settings budget sink = some transfer) (body : Body)
    (cancelled : Bool) :
    ∃ read kept,
      body.inReads settings.readSize
        = read ++ (transfer.run body cancelled).rest ∧
      Body.data read <+: body.data ∧
      (transfer.run body cancelled).Keeps budget sink.received read kept ∧
      (∀ reason, (transfer.run body cancelled).result
        = some (.error (.sink reason)) → ¬sink.IsWilling) ∧
      (settings.layout = .bucketed →
        ((BucketCopy.ofSettings settings budget sink).run body
          cancelled).SameAs (transfer.run body cancelled)) := by
  rcases (passes_begin begun).run body cancelled with
    ⟨read, kept, split, keeps⟩
  rw [begin?] at begun
  split at begun
  · cases begun
    refine ⟨read, kept, split, ?_, keeps,
      fun _ failed => not_isWilling_of_failed failed,
      fun bucketed => BucketCopy.run_sameAs bucketed budget sink body cancelled⟩
    rw [← Body.data_inReads settings.readSize body, split]
    exact Body.data_isPrefix _ _
  · cases begun

/--
A sink that takes two bytes in a call and fails after five bytes, and one that
takes everything and cannot be flushed.
-/
theorem run_keeps_first_of_failing_sink :
    (∃ transfer read,
      begin? ⟨3, 4, .contiguous⟩ ⟨0, none⟩ (.limited (some 2) (some 5))
        = some transfer ∧
      (transfer.run [.data [1, 2, 3, 4, 5, 6, 7, 8]] false).result.map
        Except.isOk = some false ∧
      (transfer.run [.data [1, 2, 3, 4, 5, 6, 7, 8]] false).Keeps ⟨0, none⟩ []
        read [1, 2, 3, 4, 5]) ∧
    ∃ transfer read,
      begin? ⟨3, 4, .bucketed⟩ ⟨0, none⟩
        { accept := fun _ offered => .ok offered
          settle := fun _ => some (.failed "flush failed") } = some transfer ∧
      (transfer.run [.data [1, 2, 3, 4, 5, 6, 7, 8]] false).result.map
        Except.isOk = some false ∧
      (transfer.run [.data [1, 2, 3, 4, 5, 6, 7, 8]] false).Keeps ⟨0, none⟩ []
        read [1, 2, 3, 4, 5, 6, 7, 8] := by
  have leaves (settings : BufferSettings) (sink : Sink) (all : Bytes)
      (memory : settings.isAllocatable = true) (empty : sink.received = [])
      (received : (run
        { settings := settings, budget := ⟨0, none⟩, sink := sink }
        [.data [1, 2, 3, 4, 5, 6, 7, 8]] false).transfer.sink.received = all) :
      ∃ read, (run { settings := settings, budget := ⟨0, none⟩, sink := sink }
        [.data [1, 2, 3, 4, 5, 6, 7, 8]] false).Keeps ⟨0, none⟩ [] read
          all := by
    rcases run_keeps_first (if_pos memory) [.data [1, 2, 3, 4, 5, 6, 7, 8]]
      false with ⟨read, kept, -, -, keeps, -⟩
    rw [empty] at keeps
    have same : kept = all := keeps.received.symm.trans received
    exact ⟨read, same ▸ keeps⟩
  constructor
  · rcases leaves ⟨3, 4, .contiguous⟩ (.limited (some 2) (some 5))
      [1, 2, 3, 4, 5] rfl rfl (by decide +kernel) with ⟨read, keeps⟩
    exact ⟨_, read, rfl, by decide +kernel, keeps⟩
  · rcases leaves ⟨3, 4, .bucketed⟩
      { accept := fun _ offered => .ok offered
        settle := fun _ => some (.failed "flush failed") }
      [1, 2, 3, 4, 5, 6, 7, 8] rfl rfl (by decide +kernel) with ⟨read, keeps⟩
    exact ⟨_, read, rfl, by decide +kernel, keeps⟩

end ResumableUpload.Transfer
