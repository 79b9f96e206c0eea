import ResumableUpload.Copy.Transfer
/-!
# Buckets

A bucketed write buffer is an array of buckets with the index of the one that
is filled next.  Reads are spread over the buckets, and the buckets are written
to the sink one after another once all of them are full, and at the end of the
body.

`BufferSettings.absorb` says in one step what such a buffer writes out when a
delivery comes.  Here is the buffer as it works: `Buckets.fill` goes from
bucket to bucket, and `BucketCopy.pour` fills and flushes until nothing of a
delivery is left.
-/

namespace ResumableUpload

/--
The buckets of a write buffer.  Those before the current one are full and those
after it are empty; the current one is full only if it is the last one.
-/
structure Buckets where
  /-- The size of each bucket. -/
  size : Nat
  buckets : List Bytes
  /-- The index of the bucket that is filled next. -/
  current : Nat
  size_pos : 0 < size
  current_lt : current < buckets.length
  before : ∀ index (within : index < buckets.length), index < current →
    buckets[index].length = size
  fits : buckets[current].length ≤ size
  opens : current + 1 < buckets.length → buckets[current].length < size
  after : ∀ index (within : index < buckets.length), current < index →
    buckets[index] = []

namespace Buckets

/-- The buckets of a write buffer that holds nothing. -/
def ofSettings (settings : BufferSettings) : Buckets where
  size := settings.bucketSize
  buckets := List.replicate settings.bucketCount []
  current := 0
  size_pos := settings.bucketSize_pos
  current_lt := by
    rw [List.length_replicate]
    exact settings.bucketCount_pos
  before := by
    intro index within earlier
    exact absurd earlier (Nat.not_lt_zero index)
  fits := by simp
  opens := by simp [settings.bucketSize_pos]
  after := by simp

variable (buckets : Buckets)

/-- The bucket that is filled next. -/
def filling : Bytes :=
  getElem buckets.buckets buckets.current buckets.current_lt

/-- How many bytes the bucket that is filled next has room for. -/
def room : Nat :=
  buckets.size - buckets.filling.length

/-- Whether all buckets are full. -/
def isFull : Bool :=
  buckets.current == buckets.buckets.length - 1
    && buckets.filling.length == buckets.size

/-- Unless all buckets are full there is room in the one that is filled next. -/
theorem room_pos (space : buckets.isFull = false) : 0 < buckets.room := by
  have within := buckets.current_lt
  have fits := buckets.fits
  have opens := buckets.opens
  rw [room, filling]
  simp only [isFull, filling, Bool.and_eq_false_iff, beq_eq_false_iff_ne]
    at space
  omega

/-- The bucket that is filled next, with what it has room for. -/
def grown (data : Bytes) : Bytes :=
  buckets.filling ++ data.take buckets.room

theorem grown_fits (data : Bytes) :
    (buckets.grown data).length ≤ buckets.size := by
  have fits : buckets.filling.length ≤ buckets.size := buckets.fits
  rw [grown, List.length_append, List.length_take, room]
  omega

/-- The index of the bucket that is filled after that. -/
def turned (data : Bytes) : Nat :=
  if (buckets.grown data).length == buckets.size
      && decide (buckets.current + 1 < buckets.buckets.length) then
    buckets.current + 1
  else buckets.current

/-- The turn goes to the next bucket exactly when a bucket is full. -/
theorem turned_cases (data : Bytes) :
    buckets.turned data = buckets.current + 1 ∧
        (buckets.grown data).length = buckets.size ∧
        buckets.current + 1 < buckets.buckets.length ∨
      buckets.turned data = buckets.current ∧
        (buckets.current + 1 < buckets.buckets.length →
          (buckets.grown data).length < buckets.size) := by
  have fits := buckets.grown_fits data
  rw [turned]
  split
  · rename_i full
    simp only [Bool.and_eq_true, beq_iff_eq, decide_eq_true_eq] at full
    exact .inl ⟨rfl, full⟩
  · rename_i partly
    simp only [Bool.and_eq_true, beq_iff_eq, decide_eq_true_eq, not_and]
      at partly
    exact .inr ⟨rfl, by omega⟩

/--
One round of filling: the bucket that is filled next takes what it has room
for, and hands over to the one after it when it is full.
-/
def add (data : Bytes) : Buckets where
  size := buckets.size
  buckets := buckets.buckets.set buckets.current (buckets.grown data)
  current := buckets.turned data
  size_pos := buckets.size_pos
  current_lt := by
    have within := buckets.current_lt
    rw [List.length_set]
    rcases buckets.turned_cases data with ⟨turned, -, next⟩ | ⟨turned, -⟩
    · omega
    · omega
  before := by
    intro index within earlier
    rw [List.length_set] at within
    rw [List.getElem_set]
    split
    · rcases buckets.turned_cases data with ⟨-, full, -⟩ | ⟨turned, -⟩
      · exact full
      · omega
    · apply buckets.before
      rcases buckets.turned_cases data with ⟨turned, -, -⟩ | ⟨turned, -⟩
      · omega
      · omega
  fits := by
    rw [List.getElem_set]
    split
    · exact buckets.grown_fits data
    · rename_i other
      rcases buckets.turned_cases data with ⟨turned, -, -⟩ | ⟨turned, -⟩
      · rw [buckets.after _ _ (by omega)]
        exact Nat.zero_le _
      · exact absurd turned.symm other
  opens := by
    intro within
    rw [List.length_set] at within
    rw [List.getElem_set]
    split
    · rename_i same
      rcases buckets.turned_cases data with ⟨turned, -, -⟩ | ⟨turned, less⟩
      · omega
      · exact less (by omega)
    · rename_i other
      rcases buckets.turned_cases data with ⟨turned, -, -⟩ | ⟨turned, -⟩
      · rw [buckets.after _ _ (by omega)]
        exact buckets.size_pos
      · exact absurd turned.symm other
  after := by
    intro index within later
    rw [List.length_set] at within
    rw [List.getElem_set]
    rcases buckets.turned_cases data with ⟨turned, -, -⟩ | ⟨turned, -⟩
    · rw [if_neg (by omega)]
      exact buckets.after _ _ (by omega)
    · rw [if_neg (by omega)]
      exact buckets.after _ _ (by omega)

/-- Fills the buckets as far as there is room, and says what is left. -/
def fill (buckets : Buckets) (data : Bytes) : Buckets × Bytes :=
  if data.isEmpty || buckets.isFull then (buckets, data)
  else (buckets.add data).fill (data.drop buckets.room)
termination_by data.length
decreasing_by
  rename_i more
  simp only [Bool.or_eq_true, not_or, Bool.not_eq_true] at more
  have some := List.length_pos_iff.2 (List.isEmpty_eq_false_iff.1 more.1)
  have space := buckets.room_pos more.2
  rw [List.length_drop]
  omega

/-- What is written when the buckets are flushed, block by block. -/
def blocks : List Bytes :=
  buckets.buckets.filter (!·.isEmpty)

/-- The buckets after they have been flushed. -/
def cleared : Buckets where
  size := buckets.size
  buckets := buckets.buckets.map fun _ => []
  current := 0
  size_pos := buckets.size_pos
  current_lt := by
    rw [List.length_map]
    exact Nat.zero_lt_of_lt buckets.current_lt
  before := by
    intro index within earlier
    exact absurd earlier (Nat.not_lt_zero index)
  fits := by simp
  opens := by simp [buckets.size_pos]
  after := by simp

/-- Buckets that are not full take something. -/
theorem length_fill_lt {data : Bytes} (more : data ≠ [])
    (space : buckets.isFull = false) :
    (buckets.fill data).2.length < data.length := by
  have shrinks (buckets : Buckets) (data : Bytes) :
      (buckets.fill data).2.length ≤ data.length := by
    fun_induction fill buckets data with
    | case1 => exact Nat.le_refl _
    | case2 buckets data _ hypothesis =>
        exact Nat.le_trans hypothesis (by simp)
  have room := buckets.room_pos space
  have something := List.length_pos_iff.2 more
  rw [fill, if_neg (by simp [more, space])]
  apply Nat.lt_of_le_of_lt (shrinks _ _)
  rw [List.length_drop]
  omega

/-- Full buckets take nothing. -/
theorem fill_of_isFull (full : buckets.isFull = true) (data : Bytes) :
    buckets.fill data = (buckets, data) := by
  rw [fill, if_pos (by rw [full, Bool.or_true])]

theorem isFull_cleared : buckets.cleared.isFull = false := by
  have positive := buckets.size_pos
  simp [isFull, filling, cleared]
  omega

end Buckets

/-- A copy under way that is buffered in buckets. -/
structure BucketCopy where
  /-- The most bytes one read delivers; zero counts as one. -/
  readSize : Nat
  budget : Budget
  /-- The number of bytes read. -/
  total : Nat := 0
  /-- What has been read and not been written. -/
  buckets : Buckets
  written : Nat := 0
  sink : Sink

namespace BucketCopy

/-- The beginning of a copy to a sink. -/
def ofSettings (settings : BufferSettings) (budget : Budget) (sink : Sink) :
    BucketCopy where
  readSize := settings.readSize
  budget := budget
  buckets := .ofSettings settings
  sink := sink

/-- Writes the buckets to the sink, one after another. -/
def flush (copy : BucketCopy) : BucketCopy × Option CopyError :=
  match copy.sink.writeAll copy.buckets.blocks with
  | (sink, none) =>
      ({ copy with
          buckets := copy.buckets.cleared
          written := copy.buckets.blocks.foldl
            (fun count block => count + block.length) copy.written
          sink := sink }, none)
  | (sink, some reason) => ({ copy with sink := sink }, some (.sink reason))

theorem buckets_flush {copy after : BucketCopy}
    (flushed : copy.flush = (after, none)) :
    after.buckets = copy.buckets.cleared := by
  rw [flush] at flushed
  split at flushed
  · cases flushed
    rfl
  · cases flushed

/--
A round of filling and flushing takes something of a delivery, unless the
buckets were full before it and are not full after it.
-/
theorem pour_decreases {buckets filled : Buckets} {data rest : Bytes}
    (more : data.isEmpty = false) (fill : buckets.fill data = (filled, rest))
    {after : Buckets} (space : after.isFull = false) :
    Prod.Lex (· < ·) (· < ·) (rest.length, after.isFull.toNat)
      (data.length, buckets.isFull.toNat) := by
  cases full : buckets.isFull with
  | false =>
      have shorter := buckets.length_fill_lt
        (List.isEmpty_eq_false_iff.1 more) full
      rw [fill] at shorter
      exact .left _ _ shorter
  | true =>
      rw [buckets.fill_of_isFull full] at fill
      cases fill
      rw [space]
      exact .right _ Nat.zero_lt_one

/--
Fills the buckets with a delivery and flushes them whenever they are full,
until nothing of the delivery is left.
-/
def pour (copy : BucketCopy) (data : Bytes) : BucketCopy × Option CopyError :=
  if data.isEmpty then (copy, none)
  else
    match _ : copy.buckets.fill data with
    | (buckets, rest) =>
        let copy := { copy with buckets := buckets }
        if buckets.isFull then
          match _ : copy.flush with
          | (copy, none) => copy.pour rest
          | (copy, some reason) => (copy, some reason)
        else copy.pour rest
termination_by (data.length, copy.buckets.isFull.toNat)
decreasing_by
  · rename_i more filled _ _ flushed
    exact pour_decreases (Bool.eq_false_iff.2 more) filled
      (by rw [buckets_flush flushed]; exact Buckets.isFull_cleared _)
  · rename_i more filled space
    exact pour_decreases (Bool.eq_false_iff.2 more) filled
      (Bool.eq_false_iff.2 space)

/--
Takes one delivery: it is counted against the budget before anything is done
with it, and then goes into the buckets.
-/
def consume (copy : BucketCopy) (delivery : Bytes) :
    BucketCopy × Option CopyError :=
  let copy := { copy with total := copy.total + delivery.length }
  match copy.budget.excess? copy.total with
  | some excess => (copy, some (.excess excess))
  | none => copy.pour delivery

/-- Writes what the buckets hold and flushes the sink. -/
def finish (copy : BucketCopy) (disconnected : Bool) :
    BucketCopy × Except CopyError Copied :=
  match copy.flush with
  | (copy, some reason) => (copy, .error reason)
  | (copy, none) =>
      let (sink, failed) := copy.sink.flush
      ({ copy with sink := sink },
        Copied.flushed ⟨copy.written, disconnected⟩ failed)

/-- How far a copy has come, and what it has left of the body. -/
structure Progress where
  copy : BucketCopy
  /-- What has not been read, cut into reads. -/
  rest : Body
  cancelled : Bool
  /-- The result, unless the body keeps the copy waiting. -/
  result : Option (Except CopyError Copied)

/-- Goes on with a copy until it ends or has to wait. -/
def run (copy : BucketCopy) (body : Body) (cancelled : Bool) : Progress :=
  let fed := Body.feed consume copy cancelled false (body.inReads copy.readSize)
  let close (disconnected : Bool) : Progress :=
    let (copy, result) := fed.state.finish disconnected
    ⟨copy, fed.rest, fed.cancelled, some result⟩
  match fed.stop with
  | .ended | .cancelled => close false
  | .disconnected => close true
  | .paused => ⟨fed.state, fed.rest, fed.cancelled, none⟩
  | .refused reason =>
      ⟨fed.state, fed.rest, fed.cancelled, some (.error reason)⟩

end BucketCopy

end ResumableUpload
