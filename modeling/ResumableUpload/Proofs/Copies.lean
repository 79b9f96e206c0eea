import ResumableUpload.Proofs.Copy.Buckets
/-!
# Copies

Whatever the layout and the sizes of the write buffer, a copy to a sink that
never fails comes to one reference copy that has no buffer: the fold
`referenceCopy` over the reads.  The two are followed side by side.  The sink
and the buffer together hold what the reference has kept, `Transfer.Tallies`,
so both take a read or both refuse it, and both stop at the same place of the
body.  What the reference comes to is said by the reads alone, in
`referenceCopy_of_admits` and `referenceCopy_of_exceeds`.

The copy in buckets, with its loops over the array of buckets, is the copy
through a bucketed buffer for every sink: `BucketCopy.run_sameAs`.
-/

namespace ResumableUpload

/-! ## The reference -/

namespace Budget

variable (budget : Budget)

/-- The size that some reads lead to, counted up to the ceiling. -/
def sizeAfter (reads : List Bytes) : Nat :=
  min (budget.offset + reads.flatten.length) ceiling

/-- The size is within the length after each of some reads. -/
def Admits (reads : List Bytes) : Prop :=
  ∀ length, budget.length = some length →
    ∀ earlier, earlier ≠ [] → earlier <+: reads →
      budget.sizeAfter earlier ≤ length

variable {budget}

/-- If there is room for all reads, there is room after each of them. -/
theorem Admits.of_le {reads : List Bytes}
    (within : ∀ length, budget.length = some length →
      budget.offset + reads.flatten.length ≤ length) :
    budget.Admits reads := by
  intro length known earlier _ first
  rcases first with ⟨later, rfl⟩
  have room := within length known
  rw [List.flatten_append, List.length_append] at room
  rw [sizeAfter]
  omega

theorem excess?_eq_none {reads : List Bytes}
    (within : ∀ length, budget.length = some length →
      budget.sizeAfter reads ≤ length) :
    budget.excess? reads.flatten.length = none := by
  rw [excess?]
  cases known : budget.length with
  | none => rfl
  | some length =>
      have within := within length known
      rw [sizeAfter] at within
      simp only [Nat.not_lt_of_le within, if_false]

theorem excess?_eq_some {length : Nat} {reads : List Bytes}
    (known : budget.length = some length)
    (beyond : length < budget.sizeAfter reads) :
    budget.excess? reads.flatten.length
      = some ⟨budget.sizeAfter reads, length⟩ := by
  rw [sizeAfter] at beyond
  simp only [excess?, known, beyond, if_true, sizeAfter]

end Budget

namespace Tally

/-- What a tally has come to that has taken some reads. -/
def ofReads (reads : List Bytes) : Tally where
  bytes := reads.flatten
  total := reads.flatten.length

variable {budget : Budget} {taken : List Bytes}

theorem consume_ofReads_of_none {bytes : Bytes}
    (within : budget.excess? (taken ++ [bytes]).flatten.length = none) :
    (ofReads taken).consume budget bytes
      = (ofReads (taken ++ [bytes]), none) := by
  rw [List.flatten_append, List.flatten_singleton, List.length_append] at within
  simp only [consume, ofReads, within, List.flatten_append,
    List.flatten_singleton, List.length_append]

theorem consume_ofReads_of_some {bytes : Bytes} {excess : Excess}
    (beyond : budget.excess? (taken ++ [bytes]).flatten.length
      = some excess) :
    ((ofReads taken).consume budget bytes).2 = some excess := by
  rw [List.flatten_append, List.flatten_singleton, List.length_append] at beyond
  simp only [consume, ofReads, beyond]

/-- Reads for which there is room are all taken, and then those to come. -/
theorem consumeAll_ofReads {more : List Bytes}
    (admits : budget.Admits (taken ++ more)) (later : List Bytes) :
    Body.consumeAll (Tally.consume budget) (ofReads taken) (more ++ later)
      = Body.consumeAll (Tally.consume budget) (ofReads (taken ++ more))
          later := by
  induction more generalizing taken with
  | nil => rw [List.append_nil, List.nil_append]
  | cons bytes rest hypothesis =>
      have within : budget.excess? (taken ++ [bytes]).flatten.length = none :=
        Budget.excess?_eq_none fun length known =>
          admits length known _ (by simp) ⟨rest, by simp⟩
      have all : taken ++ bytes :: rest = (taken ++ [bytes]) ++ rest := by simp
      rw [all] at admits ⊢
      rw [List.cons_append, Body.consumeAll, consume_ofReads_of_none within]
      exact hypothesis admits

end Tally

/-- What a copy has to answer that comes to a tally. -/
def Body.Fed.outcome? (fed : Body.Fed Tally Excess) :
    Option (Except CopyError Copied) :=
  match fed.stop with
  | .ended | .cancelled => some (.ok ⟨fed.state.total, false⟩)
  | .disconnected => some (.ok ⟨fed.state.total, true⟩)
  | .paused => none
  | .refused excess => some (.error (.excess excess))

section Reference

variable (settings : BufferSettings) {budget : Budget} {body : Body}
  {cancelled : Bool}

/-- The reference fails with the first read for which there is no room. -/
theorem referenceCopy_of_exceeds {taken later : List Bytes} {bytes : Bytes}
    {length : Nat} (known : budget.length = some length)
    (split : (body.reading settings.readSize cancelled).reads
      = taken ++ bytes :: later)
    (admits : budget.Admits taken)
    (beyond : length < budget.sizeAfter (taken ++ [bytes])) :
    (referenceCopy settings budget body cancelled).outcome?
      = some (.error (.excess
          ⟨budget.sizeAfter (taken ++ [bytes]), length⟩)) := by
  have fed := congrArg Prod.snd (Body.feed_eq (Tally.consume budget) {}
    cancelled false (body.inReads settings.readSize))
  have refuses := Tally.consume_ofReads_of_some
    (Budget.excess?_eq_some known beyond)
  change _ = (Body.consumeAll _ (Tally.ofReads [])
    (body.reading settings.readSize cancelled).reads).2 at fed
  rw [split, Tally.consumeAll_ofReads admits, List.nil_append,
    Body.consumeAll] at fed
  generalize Tally.consume budget _ bytes = consumed at fed refuses
  rcases consumed with ⟨after, failed⟩
  subst refuses
  rw [Body.Fed.outcome?, referenceCopy]
  generalize Body.feed _ _ _ _ _ = reference at fed ⊢
  rcases reference with ⟨state, rest, noticed, stop⟩
  cases stop with
  | refused excess =>
      cases fed
      rfl
  | _ => cases fed

/-- The reference takes all reads if there is room for them. -/
theorem referenceCopy_of_admits (flows : .pause ∉ body)
    (admits : budget.Admits
      (body.reading settings.readSize cancelled).reads) :
    let reading := body.reading settings.readSize cancelled
    let reference := referenceCopy settings budget body cancelled
    reference.outcome?
        = some (.ok ⟨reading.reads.flatten.length, reading.broken⟩) ∧
      reference.state.bytes = reading.reads.flatten ∧
      reference.rest = reading.rest := by
  have fed := Body.feed_eq (Tally.consume budget) {} cancelled false
    (body.inReads settings.readSize)
  have takes := @Tally.consumeAll_ofReads _ []
    (body.reading settings.readSize cancelled).reads admits []
  rw [List.append_nil, List.nil_append] at takes
  change _ = Body.consumeAll _ (Tally.ofReads [])
    (body.reading settings.readSize cancelled).reads at fed
  rw [takes] at fed
  have state := congrArg Prod.fst fed
  have stops := Body.feed_stops (Tally.consume budget) {} cancelled false
    (Body.pause_not_mem_inReads settings.readSize flows)
    (congrArg Prod.snd fed)
  simp only [Body.Fed.outcome?, referenceCopy]
  generalize Body.feed _ _ _ _ _ = reference at state stops ⊢
  rcases reference with ⟨tally, rest, noticed, stop⟩
  cases state
  cases stop with
  | ended | cancelled | disconnected =>
      rcases stops with ⟨left, broken⟩
      exact ⟨by rw [Body.reading, broken], rfl, left⟩
  | paused | refused => exact absurd stops.2 id

end Reference

/-! ## Copies and the reference -/

/--
A copy to a willing sink beside the reference: the sink and the buffer together
hold what the reference has kept, after what the sink held before.
-/
structure Transfer.Tallies (budget : Budget) (before : Bytes)
    (transfer : Transfer) (tally : Tally) : Prop where
  willing : transfer.sink.IsWilling
  budget : transfer.budget = budget
  total : transfer.total = tally.total
  bytes : transfer.sink.received ++ transfer.held.bytes
    = before ++ tally.bytes
  written : transfer.written + transfer.held.bytes.length = tally.total

namespace Transfer

variable {budget : Budget} {before : Bytes} {transfer : Transfer}
  {tally : Tally}

theorem tallies_begin (settings : BufferSettings) (budget : Budget)
    {sink : Sink} (willing : sink.IsWilling) :
    Tallies budget sink.received
      { settings := settings, budget := budget, sink := sink } {} where
  willing := willing
  budget := rfl
  total := rfl
  bytes := rfl
  written := rfl

/-- Both take a read, or both refuse it. -/
theorem Tallies.consume (tallies : transfer.Tallies budget before tally)
    (bytes : Bytes) :
    Body.Agree (Tallies budget before)
      (fun _ _ reason excess => reason = .excess excess)
      (transfer.consume bytes) (tally.consume budget bytes) := by
  rw [Transfer.consume, Tally.consume]
  simp only [tallies.budget, tallies.total]
  cases budget.excess? (tally.total + bytes.length) with
  | some excess => exact .refused rfl
  | none =>
      have absorbed := transfer.settings.flatten_absorb transfer.held bytes
      simp only
      generalize transfer.settings.absorb transfer.held bytes = absorption
        at absorbed ⊢
      rcases absorption with ⟨blocks, held⟩
      have receptive := tallies.willing.receptive
      have received := (receptive.writeAll blocks).2
      rw [writeBlocks_of_receptive]
      rotate_left
      · exact receptive
      have count := congrArg List.length absorbed
      rw [List.length_append, List.length_append] at count
      exact .taken
        { willing := tallies.willing.writeAll blocks
          budget := rfl
          total := rfl
          bytes := by
            rw [received, List.append_assoc, absorbed, ← List.append_assoc,
              tallies.bytes, List.append_assoc]
          written := by
            have written := tallies.written
            simp only at count ⊢
            omega }

/-- In the end everything that the reference has kept is in the sink. -/
theorem Tallies.finish (tallies : transfer.Tallies budget before tally)
    (disconnected : Bool) :
    (transfer.finish disconnected).2 = .ok ⟨tally.total, disconnected⟩ ∧
      (transfer.finish disconnected).1.sink.received
        = before ++ tally.bytes := by
  rcases finish_of_willing tallies.willing disconnected with ⟨done, received⟩
  exact ⟨done.trans (by rw [tallies.written]), received.trans tallies.bytes⟩

/-- A copy that has come to what a reference has come to. -/
structure Progress.Follows (progress : Progress) (before : Bytes)
    (reference : Body.Fed Tally Excess) : Prop where
  rest : progress.rest = reference.rest
  cancelled : progress.cancelled = reference.cancelled
  result : progress.result = reference.outcome?
  received : ∀ copied, progress.result = some (.ok copied) →
    progress.transfer.sink.received = before ++ reference.state.bytes

/-- A copy to a willing sink comes to what the reference comes to. -/
theorem run_follows (settings : BufferSettings) (budget : Budget) {sink : Sink}
    (willing : sink.IsWilling) (body : Body) (cancelled : Bool) :
    (run { settings := settings, budget := budget, sink := sink } body
      cancelled).Follows sink.received
        (referenceCopy settings budget body cancelled) := by
  have fed := Body.feed_agrees
    (fun bytes (tallies : Tallies budget sink.received _ _) =>
      tallies.consume bytes)
    (tallies_begin settings budget willing) cancelled false
    (body.inReads settings.readSize)
  rw [run, referenceCopy]
  simp only
  generalize Body.feed Transfer.consume _ _ _ _ = first,
    Body.feed (Tally.consume budget) _ _ _ _ = second at fed ⊢
  cases fed with
  | ended tallies =>
      rcases tallies.finish false with ⟨result, received⟩
      exact ⟨rfl, rfl, congrArg some result, fun _ _ => received⟩
  | cancelled tallies =>
      rcases tallies.finish false with ⟨result, received⟩
      exact ⟨rfl, rfl, congrArg some result, fun _ _ => received⟩
  | disconnected tallies =>
      rcases tallies.finish true with ⟨result, received⟩
      exact ⟨rfl, rfl, congrArg some result, fun _ _ => received⟩
  | paused tallies =>
      exact ⟨rfl, rfl, rfl, fun _ contrary => by cases contrary⟩
  | refused parted =>
      exact ⟨rfl, rfl, by rw [parted]; rfl, fun _ contrary => by cases contrary⟩

/--
What a copy comes to that makes some reads: it fails with the first one for
which there is no room, and copies all of them otherwise.
-/
structure Progress.ComesTo (progress : Progress) (budget : Budget)
    (before : Bytes) (reading : Reading) : Prop where
  exceeds : ∀ {length taken bytes later}, budget.length = some length →
    reading.reads = taken ++ bytes :: later → budget.Admits taken →
    length < budget.sizeAfter (taken ++ [bytes]) →
    progress.result = some (.error (.excess
      ⟨budget.sizeAfter (taken ++ [bytes]), length⟩))
  admits : budget.Admits reading.reads →
    progress.result
        = some (.ok ⟨reading.reads.flatten.length, reading.broken⟩) ∧
      progress.transfer.sink.received = before ++ reading.reads.flatten ∧
      progress.rest = reading.rest

/--
Two copies that have come to the same: they have the same result and leave the
same of the body, and unless they have failed their sinks hold the same.
-/
structure Progress.Agrees (progress other : Progress) : Prop where
  result : progress.result = other.result
  rest : progress.rest = other.rest
  cancelled : progress.cancelled = other.cancelled
  received : ∀ copied, other.result = some (.ok copied) →
    progress.transfer.sink.received = other.transfer.sink.received

/--
A copy for which there is memory, to a sink that never fails and always takes
something, of a body that never keeps its reader waiting, comes to the reads of
the body.  It does so in the loops of its own layout, and any other layout and
size of the write buffer, and any other such sink, make no difference.
-/
theorem run_comesTo_reading {settings : BufferSettings}
    (memory : settings.isAllocatable = true) (budget : Budget) {sink : Sink}
    (willing : sink.IsWilling) {body : Body} (flows : .pause ∉ body)
    (cancelled : Bool) :
    ∃ transfer, begin? settings budget sink = some transfer ∧
      (transfer.run body cancelled).ComesTo budget sink.received
        (body.reading settings.readSize cancelled) ∧
      (∀ bytes ∈ (body.reading settings.readSize cancelled).reads,
        bytes ≠ [] ∧ bytes.length ≤ max settings.readSize 1) ∧
      (settings.layout = .bucketed →
        ((BucketCopy.ofSettings settings budget sink).run body
          cancelled).SameAs (transfer.run body cancelled)) ∧
      ∀ {other : BufferSettings} {sink' : Sink},
        other.isAllocatable = true → other.readSize = settings.readSize →
        sink'.IsWilling → sink'.received = sink.received →
        ∃ transfer', begin? other budget sink' = some transfer' ∧
          (transfer'.run body cancelled).Agrees
            (transfer.run body cancelled) := by
  have follows := run_follows settings budget willing body cancelled
  refine ⟨_, if_pos memory, ⟨?_, ?_⟩, ?_, ?_, ?_⟩
  · intro length taken bytes later known split admits beyond
    rw [follows.result]
    exact referenceCopy_of_exceeds settings known split admits beyond
  · intro admits
    rcases referenceCopy_of_admits settings flows admits with
      ⟨outcome, bytes, rest⟩
    have result := follows.result.trans outcome
    exact ⟨result, (follows.received _ result).trans (by rw [bytes]),
      follows.rest.trans rest⟩
  · exact fun bytes present => Body.sizes_of_mem_reading present
  · intro bucketed
    exact BucketCopy.run_sameAs bucketed budget sink body cancelled
  · intro other sink' memory' same willing' holds
    have follows' := run_follows other budget willing' body cancelled
    have one : referenceCopy other budget body cancelled
        = referenceCopy settings budget body cancelled := by
      rw [referenceCopy, referenceCopy, same]
    rw [one] at follows'
    have result := follows'.result.trans follows.result.symm
    refine ⟨_, if_pos memory',
      { result := result
        rest := follows'.rest.trans follows.rest.symm
        cancelled := follows'.cancelled.trans follows.cancelled.symm
        received := ?_ }⟩
    intro copied succeeds
    rw [follows'.received copied (result.trans succeeds),
      follows.received copied succeeds, holds]

/-- The connection fails, and the sink takes two bytes in a call. -/
theorem run_comesTo_reading_broken :
    ∃ transfer,
      begin? ⟨3, 4, .bucketed⟩ ⟨2, some 9⟩ (.limited (some 2) none)
        = some transfer ∧
      (transfer.run [.data [104, 101, 108, 108, 111], .failure] false).result
        = some (.ok ⟨5, true⟩) := by
  rcases @run_comesTo_reading ⟨3, 4, .bucketed⟩ rfl ⟨2, some 9⟩
    (.limited (some 2) none)
    (Sink.isWilling_limited fun size present => by cases present; decide)
    [.data [104, 101, 108, 108, 111], .failure] (by decide) false
    with ⟨transfer, begun, comes, -⟩
  have reading : Body.reading [.data [104, 101, 108, 108, 111], .failure] 3
      false = ⟨[[104, 101, 108], [108, 111]], [], true⟩ := by
    decide +kernel
  rw [reading] at comes
  refine ⟨transfer, begun, (comes.admits (.of_le ?_)).1⟩
  intro length known
  cases known
  decide

/-- No copy begins with reads for which there is no memory. -/
theorem begin?_of_unallocatable :
    (Sink.limited none none).IsWilling ∧
      begin? { readSize := 18446744073709551615 } ⟨0, none⟩
        (.limited none none) = none :=
  ⟨Sink.isWilling_limited (fun _ absent => by cases absent), rfl⟩

end Transfer

end ResumableUpload
