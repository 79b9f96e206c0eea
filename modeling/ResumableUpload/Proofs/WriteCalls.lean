import Mathlib.Algebra.Order.Floor.Div
import ResumableUpload.Proofs.Copy.Buckets
/-!
# Write calls

How a copy cuts what it reads into write calls, where the sink takes each call
whole.

In buckets nothing is written before all of them are full, and then each bucket
is one call.  So the calls that have been made when a read starts are whole
rounds, `BucketCopy.Rounds`, and only the rest that is written in the end may be
a smaller call.  A contiguous buffer is written in one call when the next read
would overflow it; a call is larger than the buffer only if a read is.

`Transfer.run_calls` says this of every copy that succeeds.
-/

namespace ResumableUpload

/-! ## Sizes of buckets -/

namespace BufferSettings

variable (settings : BufferSettings)

theorem bucketCount_eq :
    settings.bucketCount = settings.capacity ⌈/⌉ maxBucketSize :=
  rfl

theorem bucketSize_eq :
    settings.bucketSize = settings.capacity ⌈/⌉ settings.bucketCount :=
  rfl

theorem bucketSize_le : settings.bucketSize ≤ maxBucketSize := by
  have enough : settings.capacity ≤ maxBucketSize * settings.bucketCount :=
    (ceilDiv_le_iff_le_mul (by decide)).1
      (Nat.le_of_eq settings.bucketCount_eq.symm)
  rw [bucketSize_eq, ceilDiv_le_iff_le_mul settings.bucketCount_pos]
  rwa [Nat.mul_comm]

/-- There is room for the write size in the buckets. -/
theorem capacity_le : settings.capacity ≤ settings.bucketTotal :=
  (ceilDiv_le_iff_le_mul settings.bucketCount_pos).1
    (Nat.le_of_eq settings.bucketSize_eq.symm)

end BufferSettings

/-! ## Calls -/

/-- Calls of one size, of which the last may be smaller but is not empty. -/
structure AreOfSize (size : Nat) (calls : List Nat) : Prop where
  whole : ∀ call ∈ calls.dropLast, call = size
  last : ∀ call ∈ calls.getLast?, 1 ≤ call ∧ call ≤ size

/-- So are calls of the size and one for what is left over, if something is. -/
theorem AreOfSize.of_rest {size rest : Nat} (less : rest < size)
    (count : Nat) :
    AreOfSize size
      (List.replicate count size ++ if rest = 0 then [] else [rest]) := by
  by_cases nothing : rest = 0
  · rw [if_pos nothing, List.append_nil]
    constructor
    · intro call present
      exact List.eq_of_mem_replicate (List.mem_of_mem_dropLast present)
    · intro call last
      have same := List.eq_of_mem_replicate (List.mem_of_getLast? last)
      omega
  · rw [if_neg nothing]
    constructor
    · rw [List.dropLast_concat]
      exact fun call => List.eq_of_mem_replicate
    · rw [List.getLast?_concat]
      intro call last
      cases last
      omega

/-! ## Copies in buckets -/

namespace BucketCopy

variable {size count : Nat} {before : List Nat} {copy : BucketCopy}

/-- How a copy stands when a read starts, after some other reads. -/
def atRead (copy : BucketCopy) (earlier : List Bytes) : BucketCopy :=
  (Body.consumeAll consume copy earlier).1

/--
A copy with so many buckets of a size when a read starts: there is room in the
buckets, and so far all of them have been written some number of times.
-/
structure Rounds (size count : Nat) (before : List Nat) (copy : BucketCopy) :
    Prop where
  greedy : copy.sink.IsGreedy
  sized : copy.buckets.size = size
  counted : copy.buckets.buckets.length = count
  space : copy.buckets.isFull = false
  whole : ∃ rounds,
    copy.sink.writes = before ++ List.replicate (rounds * count) size

namespace Rounds

theorem ofSettings (settings : BufferSettings) (budget : Budget) {sink : Sink}
    (greedy : sink.IsGreedy) :
    Rounds settings.bucketSize settings.bucketCount sink.writes
      (.ofSettings settings budget sink) where
  greedy := greedy
  sized := rfl
  counted := List.length_replicate
  space := (mirrors_ofSettings settings budget sink).space
  whole := ⟨0, by rw [Nat.zero_mul]; exact (List.append_nil _).symm⟩

/-- After a read there have been whole rounds again. -/
theorem consume (rounds : copy.Rounds size count before) (delivery : Bytes) :
    (copy.consume delivery).1.Rounds size count before := by
  obtain ⟨greedy, rfl, rfl, space, made, writes⟩ := rounds
  rw [BucketCopy.consume]
  simp only
  split
  · exact ⟨greedy, rfl, rfl, space, made, writes⟩
  · have leaves := pour_leaves
      { copy with total := copy.total + delivery.length } delivery space
    generalize pour _ delivery = poured at leaves ⊢
    cases leaves with
    | @kept sink buckets taken content size count space =>
        obtain ⟨-, still, calls⟩ := greedy.of_writeAll
          (fun _ present => (Bytes.sizes_of_mem_pieces present).1) taken
        rw [Buckets.total,
          Bytes.map_length_pieces_overflow copy.buckets.size_pos, writes,
          List.append_assoc, ← List.replicate_add, ← Nat.add_mul] at calls
        exact ⟨still, size, count, space, _, calls⟩
    | failed taken =>
        cases (greedy.of_writeAll
          (fun _ present => (Bytes.sizes_of_mem_pieces present).1) taken).1

theorem atRead (rounds : copy.Rounds size count before)
    (earlier : List Bytes) :
    (copy.atRead earlier).Rounds size count before :=
  Body.consumeAll_keeps (Rounds size count before) earlier
    (fun _ delivery _ rounds => rounds.consume delivery) rounds

/-- In the end what is left is written, bucket by bucket. -/
theorem finish (rounds : copy.Rounds size count before)
    (disconnected : Bool) :
    ∃ calls, (copy.finish disconnected).1.sink.writes = before ++ calls ∧
      AreOfSize size calls := by
  obtain ⟨greedy, rfl, rfl, space, made, writes⟩ := rounds
  have leaves := copy.flush_leaves
  rw [BucketCopy.finish]
  generalize copy.flush = flushed at leaves ⊢
  have positive := copy.buckets.size_pos
  cases leaves with
  | @kept sink buckets taken =>
      obtain ⟨-, -, calls⟩ := greedy.of_writeAll
        (fun _ present => (Bytes.sizes_of_mem_pieces present).1) taken
      rw [Bytes.map_length_pieces positive, writes, List.append_assoc,
        ← List.append_assoc (List.replicate _ _), ← List.replicate_add]
        at calls
      exact ⟨_, calls, .of_rest (Nat.mod_lt _ positive) _⟩
  | failed taken =>
      cases (greedy.of_writeAll
        (fun _ present => (Bytes.sizes_of_mem_pieces present).1) taken).1

end Rounds

/--
How a copy in buckets writes that makes some reads: there are as many buckets as
are needed for buckets of a greatest size, and they are as small as they can be
then; whenever a read starts, all buckets have been written some number of times
and nothing else; and in the end each call but the last is a full bucket.
-/
structure WritesInRounds (settings : BufferSettings) (copy : BucketCopy)
    (reads : List Bytes) (after : BucketCopy) : Prop where
  count : settings.bucketCount = settings.capacity ⌈/⌉ 84000
  size : settings.bucketSize = settings.capacity ⌈/⌉ settings.bucketCount
  size_pos : 1 ≤ settings.bucketSize
  size_le : settings.bucketSize ≤ 84000
  room : settings.capacity ≤ settings.bucketCount * settings.bucketSize
  rounds : ∀ earlier, earlier <+: reads →
    ∃ rounds, (copy.atRead earlier).sink.writes
      = copy.sink.writes
        ++ List.replicate (rounds * settings.bucketCount) settings.bucketSize
  calls : ∃ calls, after.sink.writes = copy.sink.writes ++ calls ∧
    AreOfSize settings.bucketSize calls

/-- A copy in buckets that succeeds writes in rounds. -/
theorem run_writesInRounds (settings : BufferSettings) (budget : Budget)
    {sink : Sink} (greedy : sink.IsGreedy) {body : Body} {cancelled : Bool}
    {copied : Copied}
    (succeeds : ((ofSettings settings budget sink).run body cancelled).result
      = some (.ok copied)) :
    (ofSettings settings budget sink).WritesInRounds settings
      (body.reading settings.readSize cancelled).reads
      ((ofSettings settings budget sink).run body cancelled).copy where
  count := settings.bucketCount_eq
  size := settings.bucketSize_eq
  size_pos := settings.bucketSize_pos
  size_le := settings.bucketSize_le
  room := settings.capacity_le
  rounds earlier _ := ((Rounds.ofSettings settings budget greedy).atRead
    earlier).whole
  calls := by
    have rounds := (Rounds.ofSettings settings budget greedy).atRead
      (body.reading settings.readSize cancelled).reads
    have state := congrArg Prod.fst (Body.feed_eq consume
      (ofSettings settings budget sink) cancelled false
      (body.inReads (ofSettings settings budget sink).readSize))
    change _ = (ofSettings settings budget sink).atRead
      (body.reading settings.readSize cancelled).reads at state
    rw [← state] at rounds
    simp only [run] at succeeds ⊢
    generalize Body.feed consume _ cancelled false _ = fed
      at rounds succeeds ⊢
    rcases fed with ⟨after, rest, noticed, stop⟩
    cases stop with
    | ended | cancelled => exact rounds.finish false
    | disconnected => exact rounds.finish true
    | paused => cases succeeds
    | refused reason => cases succeeds

end BucketCopy

/-! ## Copies through a contiguous buffer -/

namespace BufferSettings

variable {settings : BufferSettings}

/-- A contiguous buffer is written when the next delivery would overflow it. -/
theorem absorb_contiguous (contiguous : settings.layout = .contiguous)
    (held : Pile) (delivery : Bytes) :
    settings.absorb held delivery
      = if 0 < held.size ∧ settings.capacity < held.size + delivery.length then
          ([held.bytes], .ofBytes delivery)
        else ([], held.push delivery) := by
  rw [absorb, contiguous]
  simp only [Pile.isEmpty, Bool.and_eq_true, Bool.not_eq_true',
    beq_eq_false_iff_ne, decide_eq_true_eq, Nat.pos_iff_ne_zero]

end BufferSettings

namespace Transfer

variable {settings : BufferSettings} {before : List Nat} {transfer : Transfer}
  {delivery : Bytes}

/-- How a copy stands when a read starts, after some other reads. -/
def atRead (transfer : Transfer) (earlier : List Bytes) : Transfer :=
  (Body.consumeAll consume transfer earlier).1

/-- What the buffer holds and a delivery are more than there is room for. -/
def IsDue (transfer : Transfer) (delivery : Bytes) : Prop :=
  0 < transfer.held.size ∧
    transfer.settings.capacity < transfer.held.size + delivery.length

instance (transfer : Transfer) (delivery : Bytes) :
    Decidable (transfer.IsDue delivery) :=
  inferInstanceAs (Decidable (_ ∧ _))

/-- What a delivery does to a contiguous buffer and a greedy sink. -/
inductive Gathers (transfer : Transfer) (delivery : Bytes) :
    Transfer × Option CopyError → Prop where
  /-- There is no room in the upload, and nothing is done. -/
  | refused {after : Transfer} {reason : CopyError}
      (sink : after.sink = transfer.sink) (held : after.held = transfer.held) :
      Gathers transfer delivery (after, some reason)
  /-- There is room in the buffer. -/
  | kept {after : Transfer} (room : ¬transfer.IsDue delivery)
      (sink : after.sink = transfer.sink)
      (held : after.held.size = transfer.held.size + delivery.length) :
      Gathers transfer delivery (after, none)
  /-- The buffer is written, and the delivery is kept. -/
  | flushed {after : Transfer} (due : transfer.IsDue delivery)
      (greedy : after.sink.IsGreedy)
      (writes : after.sink.writes
        = transfer.sink.writes ++ [transfer.held.size])
      (held : after.held.size = delivery.length) :
      Gathers transfer delivery (after, none)

theorem consume_gathers (greedy : transfer.sink.IsGreedy)
    (contiguous : transfer.settings.layout = .contiguous) (delivery : Bytes) :
    transfer.Gathers delivery (transfer.consume delivery) := by
  rw [consume]
  simp only
  split
  · exact .refused rfl rfl
  · rw [BufferSettings.absorb_contiguous contiguous]
    split
    · rename_i due
      rw [writeBlocks_of_receptive]
      rotate_left
      · exact greedy.isReceptive
      have still :=
        (transfer.sink.takes_writeAll [transfer.held.bytes]).isGreedy greedy
      refine .flushed due still (greedy.writes_pile due.1) ?_
      rw [Pile.size_eq_length, Pile.bytes_ofBytes]
    · rename_i room
      rw [writeBlocks_of_receptive]
      rotate_left
      · exact greedy.isReceptive
      exact .kept room rfl rfl

/-- If a delivery is taken, the buffer is written exactly if that is due. -/
theorem writes_consume (greedy : transfer.sink.IsGreedy)
    (contiguous : transfer.settings.layout = .contiguous)
    (taken : (transfer.consume delivery).2 = none) :
    (transfer.consume delivery).1.sink.writes
      = transfer.sink.writes
        ++ if transfer.IsDue delivery then [transfer.held.size] else [] := by
  have gathers := consume_gathers greedy contiguous delivery
  generalize transfer.consume delivery = consumed at taken gathers ⊢
  cases gathers with
  | refused => cases taken
  | kept room sink held => rw [if_neg room, List.append_nil, sink]
  | flushed due still writes held => rw [if_pos due, writes]

/--
A copy through a contiguous buffer when a read starts: neither a call that has
been made nor what the buffer holds is larger than the buffer and a read.
-/
structure Gathered (settings : BufferSettings) (before : List Nat)
    (transfer : Transfer) : Prop where
  sizes : transfer.settings = settings
  greedy : transfer.sink.IsGreedy
  held : transfer.held.size ≤ max settings.capacity (max settings.readSize 1)
  calls : ∃ calls, transfer.sink.writes = before ++ calls ∧
    ∀ call ∈ calls, 1 ≤ call ∧
      call ≤ max settings.capacity (max settings.readSize 1)

namespace Gathered

theorem consume (gathered : transfer.Gathered settings before)
    (contiguous : settings.layout = .contiguous)
    (within : delivery.length ≤ max settings.readSize 1) :
    (transfer.consume delivery).1.Gathered settings before := by
  obtain ⟨rfl, greedy, held, calls, writes, sizes⟩ := gathered
  have same := transfer.settings_consume delivery
  have gathers := consume_gathers greedy contiguous delivery
  generalize transfer.consume delivery = consumed at same gathers ⊢
  cases gathers with
  | refused sink held' =>
      exact ⟨same, sink ▸ greedy, held' ▸ held, calls, sink ▸ writes, sizes⟩
  | kept room sink held' =>
      refine ⟨same, sink ▸ greedy, ?_, calls, sink ▸ writes, sizes⟩
      rw [held']
      simp only [IsDue, not_and, Nat.not_lt] at room
      omega
  | flushed due still writes' held' =>
      refine ⟨same, still, ?_, calls ++ [transfer.held.size], ?_, ?_⟩
      · rw [held']
        omega
      · rw [writes', writes, List.append_assoc]
      · intro call present
        rcases List.mem_append.1 present with earlier | last
        · exact sizes call earlier
        · rw [List.mem_singleton.1 last]
          exact ⟨due.1, held⟩

theorem atRead (gathered : transfer.Gathered settings before)
    (contiguous : settings.layout = .contiguous) {earlier : List Bytes}
    (within : ∀ delivery ∈ earlier,
      delivery.length ≤ max settings.readSize 1) :
    (transfer.atRead earlier).Gathered settings before :=
  Body.consumeAll_keeps (Gathered settings before) earlier
    (fun _ delivery present gathered =>
      gathered.consume contiguous (within delivery present)) gathered

/-- In the end what the buffer holds is written in one call. -/
theorem finish (gathered : transfer.Gathered settings before)
    (contiguous : settings.layout = .contiguous) (disconnected : Bool) :
    ∃ calls, (transfer.finish disconnected).1.sink.writes = before ++ calls ∧
      ∀ call ∈ calls, 1 ≤ call ∧
        call ≤ max settings.capacity (max settings.readSize 1) := by
  obtain ⟨rfl, greedy, held, calls, writes, sizes⟩ := gathered
  have drained : transfer.settings.drain transfer.held
      = if transfer.held.isEmpty then [] else [transfer.held.bytes] := by
    rw [BufferSettings.drain, contiguous]
  rw [Transfer.finish, drained, writeBlocks_of_receptive greedy.isReceptive]
  cases nothing : transfer.held.isEmpty with
  | true => exact ⟨calls, writes, sizes⟩
  | false =>
      have something : 0 < transfer.held.size := by
        rw [Pile.isEmpty, beq_eq_false_iff_ne] at nothing
        omega
      refine ⟨calls ++ [transfer.held.size], ?_, ?_⟩
      · rw [← List.append_assoc, ← writes]
        exact greedy.writes_pile something
      · intro call present
        rcases List.mem_append.1 present with earlier | last
        · exact sizes call earlier
        · rw [List.mem_singleton.1 last]
          exact ⟨something, held⟩

end Gathered

/--
How a copy through a contiguous buffer writes that makes some reads: no call is
empty or larger than both the buffer and a read, and between the starts of two
reads the buffer is written exactly if the first of them would overflow it.
-/
structure WritesWhenDue (settings : BufferSettings) (transfer : Transfer)
    (reads : List Bytes) (after : Transfer) : Prop where
  calls : ∃ calls, after.sink.writes = transfer.sink.writes ++ calls ∧
    ∀ call ∈ calls, 1 ≤ call ∧
      call ≤ max settings.capacity (max settings.readSize 1)
  due : ∀ earlier delivery later, reads = earlier ++ delivery :: later →
    let held := (transfer.atRead earlier).held.size
    (transfer.atRead (earlier ++ [delivery])).sink.writes
      = (transfer.atRead earlier).sink.writes
        ++ if 0 < held ∧ settings.capacity < held + delivery.length then
            [held]
          else []

/-- A copy that succeeds takes all reads, and then writes what it holds. -/
theorem exists_finish_of_succeeds {body : Body} {cancelled : Bool}
    {copied : Copied}
    (succeeds : (transfer.run body cancelled).result = some (.ok copied)) :
    let reads := (body.reading transfer.settings.readSize cancelled).reads
    (Body.consumeAll consume transfer reads).2 = none ∧
      ∃ disconnected, (transfer.run body cancelled).transfer
        = ((transfer.atRead reads).finish disconnected).1 := by
  have fed := Body.feed_eq consume transfer cancelled false
    (body.inReads transfer.settings.readSize)
  simp only [atRead, Body.reading]
  rw [← fed]
  simp only [run] at succeeds ⊢
  generalize Body.feed consume transfer cancelled false _ = fed at succeeds ⊢
  rcases fed with ⟨after, rest, noticed, stop⟩
  cases stop with
  | ended | cancelled => exact ⟨rfl, false, rfl⟩
  | disconnected => exact ⟨rfl, true, rfl⟩
  | paused => cases succeeds
  | refused reason => cases succeeds

/-- A copy through a contiguous buffer that succeeds writes when it is due. -/
theorem Gathered.run
    (gathered : transfer.Gathered settings transfer.sink.writes)
    (contiguous : settings.layout = .contiguous) {body : Body}
    {cancelled : Bool} {copied : Copied}
    (succeeds : (transfer.run body cancelled).result = some (.ok copied)) :
    transfer.WritesWhenDue settings
      (body.reading settings.readSize cancelled).reads
      (transfer.run body cancelled).transfer := by
  obtain rfl := gathered.sizes
  obtain ⟨takes, disconnected, ends⟩ := exists_finish_of_succeeds succeeds
  have within : ∀ delivery ∈
      (body.reading transfer.settings.readSize cancelled).reads,
      delivery.length ≤ max transfer.settings.readSize 1 :=
    fun _ present => (Body.sizes_of_mem_reading present).2
  constructor
  · rw [ends]
    exact (gathered.atRead contiguous within).finish contiguous disconnected
  · intro earlier delivery later split
    rw [split] at within takes
    have before := gathered.atRead contiguous fun delivery present =>
      within delivery (List.mem_append_left _ present)
    obtain ⟨taken, after⟩ := Body.consumeAll_of_takes takes
    have writes := writes_consume before.greedy
      (before.sizes ▸ contiguous) taken
    have next : transfer.atRead (earlier ++ [delivery])
        = ((transfer.atRead earlier).consume delivery).1 := after
    rw [next, ← before.sizes]
    exact writes

/--
How a copy that succeeds writes to a sink that takes each call whole: in the
loops of the bucketed layout in rounds, and otherwise when it is due.
-/
theorem run_calls {settings : BufferSettings} {budget : Budget} {sink : Sink}
    (greedy : sink.IsGreedy) {transfer : Transfer}
    (begun : begin? settings budget sink = some transfer) {body : Body}
    {cancelled : Bool} {copied : Copied}
    (succeeds : (transfer.run body cancelled).result = some (.ok copied)) :
    let reads := (body.reading settings.readSize cancelled).reads
    let copy := BucketCopy.ofSettings settings budget sink
    (settings.layout = .bucketed →
      (copy.run body cancelled).result = some (.ok copied) ∧
        copy.WritesInRounds settings reads (copy.run body cancelled).copy) ∧
    (settings.layout = .contiguous →
      transfer.WritesWhenDue settings reads
        (transfer.run body cancelled).transfer) := by
  rw [begin?] at begun
  split at begun
  · cases begun
    constructor
    · intro bucketed
      have same := BucketCopy.run_sameAs bucketed budget sink body cancelled
      have succeeds := same.result.trans succeeds
      exact ⟨succeeds, BucketCopy.run_writesInRounds settings budget greedy
        succeeds⟩
    · intro contiguous
      exact Gathered.run ⟨rfl, greedy, Nat.zero_le _, [],
        (List.append_nil _).symm,
        fun _ absent => absurd absent List.not_mem_nil⟩ contiguous succeeds
  · cases begun

/--
Five bytes in reads of three fill a bucket of four, and one is left; and they
overflow a contiguous buffer of four.
-/
theorem run_calls_of_short :
    (∃ calls,
      ((BucketCopy.ofSettings ⟨3, 4, .bucketed⟩ ⟨0, none⟩ (.holding [])).run
        [.data [104, 101, 108, 108, 111]] false).copy.sink.writes = calls ∧
      AreOfSize 4 calls) ∧
    ∃ transfer calls,
      begin? ⟨3, 4, .contiguous⟩ ⟨0, none⟩ (.holding []) = some transfer ∧
      (transfer.run [.data [104, 101, 108, 108, 111]]
        false).transfer.sink.writes = calls ∧
      ∀ call ∈ calls, 1 ≤ call ∧ call ≤ 4 := by
  have ends (layout : Layout) : ∃ copied,
      (run
        { settings := ⟨3, 4, layout⟩
          budget := ⟨0, none⟩
          sink := .holding [] }
        [.data [104, 101, 108, 108, 111]] false).result
          = some (.ok copied) := by
    have succeeds : (run
        { settings := ⟨3, 4, layout⟩
          budget := ⟨0, none⟩
          sink := .holding [] }
        [.data [104, 101, 108, 108, 111]] false).result.bind Except.toOption
          = some ⟨5, false⟩ := by
      cases layout <;> decide +kernel
    obtain ⟨result, ends, is_ok⟩ := Option.bind_eq_some_iff.1 succeeds
    cases result with
    | error reason => cases is_ok
    | ok copied => exact ⟨copied, ends⟩
  have greedy := Sink.isGreedy_holding []
  obtain ⟨_, bucketed⟩ := ends .bucketed
  obtain ⟨_, contiguous⟩ := ends .contiguous
  have begun (layout : Layout) :
      begin? ⟨3, 4, layout⟩ ⟨0, none⟩ (.holding []) = some
        { settings := ⟨3, 4, layout⟩
          budget := ⟨0, none⟩
          sink := .holding [] } := by
    cases layout <;> rfl
  have inRounds := ((run_calls greedy (begun .bucketed) bucketed).1 rfl).2
  have whenDue := (run_calls greedy (begun .contiguous) contiguous).2 rfl
  obtain ⟨calls, writes, sizes⟩ := whenDue.calls
  exact ⟨inRounds.calls, _, calls, begun .contiguous, writes, sizes⟩

end Transfer

end ResumableUpload
