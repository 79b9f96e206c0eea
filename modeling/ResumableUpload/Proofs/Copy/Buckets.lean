import ResumableUpload.Copy.Buckets
import ResumableUpload.Proofs.Copy.Delivery
/-!
# Buckets are one buffer

What an array of buckets holds is one sequence of bytes, `Buckets.content`, and
the buckets are the pieces of it: `Buckets.blocks_eq`.  Filling moves bytes
from a delivery to the end of the content, and the buckets are full when the
content has reached its greatest size.  So filling and flushing until nothing
of a delivery is left, `BucketCopy.pour`, writes what
`BufferSettings.absorb` says at once, to any sink: `BucketCopy.pour_absorbs`.
-/

namespace ResumableUpload

namespace Buckets

variable (buckets : Buckets)

/-- The number of bytes for which there is room in empty buckets. -/
def total : Nat :=
  buckets.buckets.length * buckets.size

theorem total_pos : 0 < buckets.total :=
  Nat.mul_pos (Nat.zero_lt_of_lt buckets.current_lt) buckets.size_pos

/-- All bytes in the buckets. -/
def content : Bytes :=
  buckets.buckets.flatten

/-- The buckets before the current one. -/
def earlier : List Bytes :=
  buckets.buckets.take buckets.current

theorem length_of_mem_earlier {bucket : Bytes}
    (present : bucket ∈ buckets.earlier) : bucket.length = buckets.size := by
  rcases List.mem_take_iff_getElem.1 present with ⟨index, within, rfl⟩
  exact buckets.before index (by omega) (by omega)

/-- The buckets are those before the current one, this one and empty ones. -/
theorem exists_buckets_eq :
    ∃ count, buckets.buckets
      = buckets.earlier ++ buckets.filling :: List.replicate count [] := by
  have within := buckets.current_lt
  refine ⟨(buckets.buckets.drop (buckets.current + 1)).length, ?_⟩
  have later : buckets.buckets.drop (buckets.current + 1)
      = List.replicate (buckets.buckets.drop (buckets.current + 1)).length
        [] := by
    rw [List.eq_replicate_iff]
    refine ⟨rfl, fun bucket present => ?_⟩
    rcases List.mem_drop_iff_getElem.1 present with ⟨index, bound, rfl⟩
    exact buckets.after _ _ (by omega)
  rw [← later, earlier, filling]
  calc buckets.buckets
      = buckets.buckets.take buckets.current
          ++ buckets.buckets.drop buckets.current :=
        (List.take_append_drop _ _).symm
    _ = _ := by rw [List.drop_eq_getElem_cons within]

theorem content_eq :
    buckets.content = buckets.earlier.flatten ++ buckets.filling := by
  rcases buckets.exists_buckets_eq with ⟨count, split⟩
  rw [content, split, List.flatten_append, List.flatten_cons,
    List.flatten_replicate_nil, List.append_nil]

theorem length_content :
    buckets.content.length
      = buckets.current * buckets.size + buckets.filling.length := by
  have within := buckets.current_lt
  have sizes : buckets.earlier.map List.length
      = List.replicate buckets.current buckets.size := by
    rw [List.eq_replicate_iff]
    constructor
    · rw [List.length_map, earlier, List.length_take]
      omega
    · intro size present
      rcases List.mem_map.1 present with ⟨bucket, inside, rfl⟩
      exact buckets.length_of_mem_earlier inside
  rw [content_eq, List.length_append, List.length_flatten, sizes,
    List.sum_replicate_nat]

/-- The blocks that are written are the pieces of the content. -/
theorem blocks_eq :
    buckets.blocks = Bytes.pieces buckets.size buckets.content := by
  rcases buckets.exists_buckets_eq with ⟨count, split⟩
  have whole : ∀ bucket ∈ buckets.earlier, bucket.length = buckets.size :=
    fun _ present => buckets.length_of_mem_earlier present
  have fits : buckets.filling.length ≤ buckets.size := buckets.fits
  rw [content_eq, Bytes.pieces_flatten_append buckets.size_pos whole,
    Bytes.pieces_of_length_le fits, blocks, split]
  have positive := buckets.size_pos
  have kept : buckets.earlier.filter (!·.isEmpty) = buckets.earlier := by
    rw [List.filter_eq_self]
    intro bucket present
    have size := whole bucket present
    cases bucket with
    | nil => rw [List.length_nil] at size; omega
    | cons => rfl
  rw [List.filter_append, kept, List.filter_cons]
  cases buckets.filling.isEmpty <;> simp

/-- Buckets are full when they hold as much as there is room for. -/
theorem isFull_iff :
    buckets.isFull = true ↔ buckets.content.length = buckets.total := by
  have within := buckets.current_lt
  have positive := buckets.size_pos
  have fits : buckets.filling.length ≤ buckets.size := buckets.fits
  have opens : buckets.current + 1 < buckets.buckets.length →
      buckets.filling.length < buckets.size := buckets.opens
  rw [length_content, total, isFull, Bool.and_eq_true, beq_iff_eq, beq_iff_eq]
  constructor
  · rintro ⟨last, full⟩
    rw [full, ← Nat.succ_mul, last]
    congr 1
    omega
  · intro full
    by_cases last : buckets.current + 1 < buckets.buckets.length
    · have more := Nat.mul_le_mul_right buckets.size (Nat.succ_le_of_lt last)
      have least := opens last
      rw [Nat.succ_mul, Nat.succ_mul] at more
      omega
    · have all : buckets.buckets.length = buckets.current + 1 := by omega
      rw [all, Nat.succ_mul] at full
      omega

theorem length_content_le : buckets.content.length ≤ buckets.total := by
  have within := buckets.current_lt
  have fits : buckets.filling.length ≤ buckets.size := buckets.fits
  have room := Nat.mul_le_mul_right buckets.size (Nat.succ_le_of_lt within)
  rw [Nat.succ_mul] at room
  rw [length_content, total]
  omega

theorem content_add (data : Bytes) :
    (buckets.add data).content = buckets.content ++ data.take buckets.room := by
  rcases buckets.exists_buckets_eq with ⟨count, split⟩
  have size : buckets.earlier.length = buckets.current := by
    have within := buckets.current_lt
    rw [earlier, List.length_take]
    omega
  change (buckets.buckets.set buckets.current (buckets.grown data)).flatten = _
  rw [split, List.set_append_right _ _ (by omega), size, Nat.sub_self,
    List.set_cons_zero, List.flatten_append, List.flatten_cons,
    List.flatten_replicate_nil, List.append_nil, content_eq, grown,
    List.append_assoc]

/--
What filling leaves: bytes have moved from a delivery to the end of the
content, until none was left or there was no room.
-/
structure FilledWith (buckets : Buckets) (data : Bytes) (filled : Buckets)
    (rest : Bytes) : Prop where
  size : filled.size = buckets.size
  count : filled.buckets.length = buckets.buckets.length
  content : filled.content ++ rest = buckets.content ++ data
  ends : rest = [] ∨ filled.isFull = true

theorem FilledWith.total {buckets filled : Buckets} {data rest : Bytes}
    (fills : buckets.FilledWith data filled rest) :
    filled.total = buckets.total := by
  rw [Buckets.total, fills.size, fills.count, Buckets.total]

theorem fill_fills (data : Bytes) :
    buckets.FilledWith data (buckets.fill data).1 (buckets.fill data).2 := by
  fun_induction fill buckets data with
  | case1 buckets data ended =>
      rw [Bool.or_eq_true, List.isEmpty_iff] at ended
      exact ⟨rfl, rfl, rfl, ended⟩
  | case2 buckets data _ hypothesis =>
      exact
        { size := hypothesis.size
          count := hypothesis.count.trans List.length_set
          content := by
            rw [hypothesis.content, content_add, List.append_assoc,
              List.take_append_drop]
          ends := hypothesis.ends }

/-- The pieces that full buckets write out come before those to follow. -/
theorem FilledWith.overflow {buckets filled : Buckets} {data rest : Bytes}
    (fills : buckets.FilledWith data filled rest)
    (full : filled.isFull = true) :
    Bytes.pieces buckets.size
        (Bytes.overflow buckets.total (buckets.content ++ data)).1
      = Bytes.pieces filled.size filled.content
          ++ Bytes.pieces filled.size (Bytes.overflow filled.total rest).1 ∧
      (Bytes.overflow buckets.total (buckets.content ++ data)).2
        = (Bytes.overflow filled.total rest).2 := by
  have whole := (filled.isFull_iff).1 full
  rw [← fills.content, ← fills.total, ← fills.size,
    Bytes.overflow_append filled.total_pos whole]
  refine ⟨Bytes.pieces_append_of_dvd filled.size_pos ?_ _, rfl⟩
  rw [whole]
  exact Nat.dvd_mul_left _ _

theorem length_content_lt (space : buckets.isFull = false) :
    buckets.content.length < buckets.total := by
  apply Nat.lt_of_le_of_ne buckets.length_content_le
  intro full
  rw [(buckets.isFull_iff).2 full] at space
  cases space

theorem total_cleared : buckets.cleared.total = buckets.total := by
  rw [total, total, cleared, List.length_map]

theorem content_cleared : buckets.cleared.content = [] := by
  rw [content, List.flatten_eq_nil_iff]
  intro bucket present
  rcases List.mem_map.1 present with ⟨_, _, rfl⟩
  rfl

end Buckets

namespace BucketCopy

/--
What a copy leaves that was to write some blocks and to keep some bytes in its
buckets.
-/
inductive Leaves (copy : BucketCopy) (blocks : List Bytes) (kept : Bytes) :
    BucketCopy × Option CopyError → Prop where
  | kept {sink : Sink} {buckets : Buckets}
      (writes : copy.sink.writeAll blocks = (sink, none))
      (content : buckets.content = kept)
      (size : buckets.size = copy.buckets.size)
      (count : buckets.buckets.length = copy.buckets.buckets.length)
      (space : buckets.isFull = false) :
      Leaves copy blocks kept
        ({ copy with
            buckets := buckets
            written := copy.written + blocks.flatten.length
            sink := sink }, none)
  | failed {after : BucketCopy} {reason : SinkError}
      (writes : copy.sink.writeAll blocks = (after.sink, some reason)) :
      Leaves copy blocks kept (after, some (.sink reason))

/-- A flush writes the pieces of the content and keeps nothing. -/
theorem flush_leaves (copy : BucketCopy) :
    copy.Leaves (Bytes.pieces copy.buckets.size copy.buckets.content) []
      copy.flush := by
  rw [flush, copy.buckets.blocks_eq]
  rcases writes : copy.sink.writeAll
    (Bytes.pieces copy.buckets.size copy.buckets.content)
    with ⟨sink, none | reason⟩
  · simp only [Bytes.foldl_length]
    exact .kept writes copy.buckets.content_cleared rfl
      (List.length_map _) copy.buckets.isFull_cleared
  · exact .failed writes

namespace Leaves

variable {copy after : BucketCopy} {first blocks : List Bytes} {kept : Bytes}
  {result : BucketCopy × Option CopyError}

/-- What a copy leaves does not depend on how its buckets are filled. -/
theorem refilled {buckets : Buckets} (size : buckets.size = copy.buckets.size)
    (count : buckets.buckets.length = copy.buckets.buckets.length)
    (leaves : { copy with buckets := buckets }.Leaves blocks kept result) :
    copy.Leaves blocks kept result := by
  cases leaves with
  | kept writes content size' count' space =>
      exact .kept writes content (size'.trans size) (count'.trans count) space
  | failed writes => exact .failed writes

/-- Blocks that are written before others. -/
theorem andThen {nothing : Bytes}
    (begins : copy.Leaves first nothing (after, none))
    (leaves : after.Leaves blocks kept result) :
    copy.Leaves (first ++ blocks) kept result := by
  cases begins with
  | kept writes _ size count _ =>
      have both := copy.sink.writeAll_append first blocks
      rw [writes] at both
      cases leaves with
      | kept writes' content size' count' space =>
          have all := Leaves.kept (both.trans writes') content
            (size'.trans size) (count'.trans count) space
          rw [List.flatten_append, List.length_append, ← Nat.add_assoc] at all
          exact all
      | failed writes' => exact .failed (both.trans writes')

/-- If the first blocks are not taken, the others are not offered. -/
theorem stopped {nothing more : Bytes} {reason : CopyError}
    (fails : copy.Leaves first nothing (after, some reason)) :
    copy.Leaves (first ++ blocks) more (after, some reason) := by
  cases fails with
  | failed writes =>
      have both := copy.sink.writeAll_append first blocks
      rw [writes] at both
      exact .failed both

end Leaves

/--
Filling and flushing until nothing of a delivery is left writes all bytes that
fill the buckets, as often as they do, and keeps the others.
-/
theorem pour_leaves (copy : BucketCopy) (data : Bytes)
    (space : copy.buckets.isFull = false) :
    copy.Leaves
      (Bytes.pieces copy.buckets.size
        (Bytes.overflow copy.buckets.total (copy.buckets.content ++ data)).1)
      (Bytes.overflow copy.buckets.total (copy.buckets.content ++ data)).2
      (copy.pour data) := by
  fun_induction pour copy data with
  | case1 copy data nothing =>
      have less := copy.buckets.length_content_lt space
      rw [List.isEmpty_iff.1 nothing, List.append_nil,
        Bytes.overflow_of_lt less, Bytes.pieces]
      exact .kept rfl rfl rfl rfl space
  | case2 copy data more buckets rest filled filledCopy full after flushed
      hypothesis =>
      have fills := copy.buckets.fill_fills data
      rw [filled] at fills
      have later := hypothesis (by
        rw [buckets_flush flushed]
        exact Buckets.isFull_cleared _)
      rw [buckets_flush flushed, Buckets.content_cleared, List.nil_append,
        Buckets.total_cleared] at later
      have flush := filledCopy.flush_leaves
      rw [flushed] at flush
      rw [(fills.overflow full).1, (fills.overflow full).2]
      exact (flush.andThen later).refilled fills.size fills.count
  | case3 copy data more buckets rest filled filledCopy full after reason
      flushed =>
      have fills := copy.buckets.fill_fills data
      rw [filled] at fills
      have flush := filledCopy.flush_leaves
      rw [flushed] at flush
      rw [(fills.overflow full).1]
      exact flush.stopped.refilled fills.size fills.count
  | case4 copy data more buckets rest filled filledCopy full hypothesis =>
      have fills := copy.buckets.fill_fills data
      rw [filled] at fills
      have later := hypothesis (Bool.eq_false_iff.2 full)
      rw [← fills.content, ← fills.size, ← fills.total]
      exact later.refilled fills.size fills.count

/-! ## The copy in buckets is the copy through a buffer -/

/-- A copy in buckets and a copy through a buffer that have come equally far. -/
structure Mirrors (settings : BufferSettings) (copy : BucketCopy)
    (transfer : Transfer) : Prop where
  sizes : transfer.settings = settings
  budget : copy.budget = transfer.budget
  total : copy.total = transfer.total
  written : copy.written = transfer.written
  sink : copy.sink = transfer.sink
  size : copy.buckets.size = settings.bucketSize
  count : copy.buckets.buckets.length = settings.bucketCount
  content : copy.buckets.content = transfer.held.bytes
  space : copy.buckets.isFull = false

end BucketCopy

/-- What a bucketed buffer writes out and keeps when a delivery comes. -/
theorem BufferSettings.absorb_bucketed {settings : BufferSettings}
    (bucketed : settings.layout = .bucketed) (held : Pile) (delivery : Bytes) :
    settings.absorb held delivery
      = (Bytes.pieces settings.bucketSize
          (Bytes.overflow settings.bucketTotal (held.bytes ++ delivery)).1,
        .ofBytes
          (Bytes.overflow settings.bucketTotal
            (held.bytes ++ delivery)).2) := by
  have size : (held.push delivery).size = (held.bytes ++ delivery).length := by
    rw [Pile.size_eq_length, Pile.bytes_push]
  rw [absorb, bucketed]
  simp only
  split
  · rename_i less
    rw [Bytes.overflow_of_lt (by rwa [← size]), Bytes.pieces]
    congr 1
    apply Pile.ext
    rw [Pile.bytes_push, Pile.bytes_ofBytes]
  · rw [size, Pile.bytes_push]
    rfl

namespace BucketCopy

variable {settings : BufferSettings} {copy : BucketCopy} {transfer : Transfer}

theorem mirrors_ofSettings (settings : BufferSettings) (budget : Budget)
    (sink : Sink) :
    Mirrors settings (ofSettings settings budget sink)
      { settings := settings, budget := budget, sink := sink } where
  sizes := rfl
  budget := rfl
  total := rfl
  written := rfl
  sink := rfl
  size := rfl
  count := List.length_replicate
  content := List.flatten_replicate_nil
  space := by
    have positive := settings.bucketSize_pos
    simp [ofSettings, Buckets.ofSettings, Buckets.isFull, Buckets.filling]
    omega

namespace Mirrors

theorem bucketTotal (mirrors : copy.Mirrors settings transfer) :
    copy.buckets.total = settings.bucketTotal := by
  rw [Buckets.total, mirrors.count, mirrors.size, BufferSettings.bucketTotal]

/-- Both copies take a delivery, or both refuse it. -/
theorem consume (mirrors : copy.Mirrors settings transfer)
    (bucketed : settings.layout = .bucketed) (bytes : Bytes) :
    Body.Agree (Mirrors settings)
      (fun copy transfer reason reason' =>
        copy.sink = transfer.sink ∧ reason = reason')
      (copy.consume bytes) (transfer.consume bytes) := by
  have leaves := pour_leaves
    { copy with total := copy.total + bytes.length } bytes mirrors.space
  have absorbed := BufferSettings.absorb_bucketed bucketed transfer.held bytes
  rw [BucketCopy.consume, Transfer.consume]
  simp only [mirrors.budget, mirrors.total] at leaves ⊢
  cases transfer.budget.excess? (transfer.total + bytes.length) with
  | some excess => exact .refused ⟨mirrors.sink, rfl⟩
  | none =>
      simp only [mirrors.sizes, absorbed]
      rw [mirrors.bucketTotal, mirrors.size, mirrors.content] at leaves
      generalize pour _ bytes = poured at leaves ⊢
      cases leaves with
      | kept writes content size count space =>
          rw [mirrors.sink] at writes
          rw [Transfer.writeBlocks_of_done]
          rotate_left
          · exact writes
          exact .taken
            { sizes := rfl
              budget := rfl
              total := rfl
              written := by rw [mirrors.written]
              sink := rfl
              size := size.trans mirrors.size
              count := count.trans mirrors.count
              content := content.trans (Pile.bytes_ofBytes _).symm
              space := space }
      | failed writes =>
          rw [mirrors.sink] at writes
          rw [Transfer.writeBlocks_of_failed]
          rotate_left
          · exact writes
          exact .refused ⟨rfl, rfl⟩

/-- Both copies write what they hold in the end. -/
theorem finish (mirrors : copy.Mirrors settings transfer)
    (bucketed : settings.layout = .bucketed) (disconnected : Bool) :
    (copy.finish disconnected).1.sink = (transfer.finish disconnected).1.sink ∧
      (copy.finish disconnected).2 = (transfer.finish disconnected).2 := by
  have leaves := copy.flush_leaves
  have drained : transfer.settings.drain transfer.held
      = Bytes.pieces copy.buckets.size copy.buckets.content := by
    rw [mirrors.sizes, BufferSettings.drain, bucketed, mirrors.size,
      mirrors.content]
  rw [BucketCopy.finish, Transfer.finish, drained]
  generalize copy.flush = flushed at leaves ⊢
  cases leaves with
  | kept writes _ _ _ _ =>
      rw [mirrors.sink] at writes
      rw [Transfer.writeBlocks_of_done writes, mirrors.written]
      exact ⟨rfl, rfl⟩
  | failed writes =>
      rw [mirrors.sink] at writes
      rw [Transfer.writeBlocks_of_failed writes]
      exact ⟨rfl, rfl⟩

end Mirrors

/--
A copy in buckets that has come to the same as a copy through a buffer, and has
done the same to its sink.
-/
structure Progress.SameAs (progress : Progress) (other : Transfer.Progress) :
    Prop where
  sink : progress.copy.sink = other.transfer.sink
  rest : progress.rest = other.rest
  cancelled : progress.cancelled = other.cancelled
  result : progress.result = other.result

/--
A copy in buckets does to every sink what a copy through a bucketed buffer
does, and ends in the same way at the same place of the body.
-/
theorem run_sameAs (bucketed : settings.layout = .bucketed) (budget : Budget)
    (sink : Sink) (body : Body) (cancelled : Bool) :
    ((ofSettings settings budget sink).run body cancelled).SameAs
      (Transfer.run { settings := settings, budget := budget, sink := sink }
        body cancelled) := by
  have fed := Body.feed_agrees
    (fun bytes (mirrors : Mirrors settings _ _) =>
      mirrors.consume bucketed bytes)
    (mirrors_ofSettings settings budget sink) cancelled false
    (body.inReads settings.readSize)
  simp only [run, Transfer.run]
  change Body.Fed.Agree _ _ (Body.feed consume _ _ _
    (body.inReads (ofSettings settings budget sink).readSize)) _ at fed
  generalize Body.feed consume _ _ _ _ = first,
    Body.feed Transfer.consume _ _ _ _ = second at fed ⊢
  cases fed with
  | ended mirrors =>
      have finished := mirrors.finish bucketed false
      exact ⟨finished.1, rfl, rfl, congrArg some finished.2⟩
  | cancelled mirrors =>
      have finished := mirrors.finish bucketed false
      exact ⟨finished.1, rfl, rfl, congrArg some finished.2⟩
  | disconnected mirrors =>
      have finished := mirrors.finish bucketed true
      exact ⟨finished.1, rfl, rfl, congrArg some finished.2⟩
  | paused mirrors => exact ⟨mirrors.sink, rfl, rfl, rfl⟩
  | refused parted =>
      rcases parted with ⟨same, rfl⟩
      exact ⟨same, rfl, rfl, rfl⟩

end BucketCopy

end ResumableUpload
