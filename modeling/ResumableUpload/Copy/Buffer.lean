import ResumableUpload.Bytes.Pile
/-!
# Write buffers

Deliveries are small and writes are expensive, so what has been read is held
back in a write buffer.  A buffer has one of two layouts.  A contiguous buffer
is written out when the next delivery would not fit.  A bucketed buffer is cut
into buckets of one size, is filled to the last byte, and is then written out
bucket by bucket.
-/

namespace ResumableUpload

/-- The layout of a write buffer. -/
inductive Layout where
  | contiguous
  | bucketed
  deriving DecidableEq, Repr

/-- The sizes that govern a copy. -/
structure BufferSettings where
  /-- The most bytes one read delivers; zero counts as one. -/
  readSize : Nat := 51200
  /-- The size of the write buffer; zero counts as one. -/
  writeSize : Nat := 51200
  layout : Layout := .contiguous
  deriving DecidableEq, Repr

def maxBucketSize : Nat := 84000

def ceilDiv (dividend divisor : Nat) : Nat :=
  (dividend + divisor - 1) / divisor

namespace BufferSettings

/-- The size of the write buffer, which is never zero. -/
def capacity (settings : BufferSettings) : Nat :=
  max settings.writeSize 1

/-- The largest piece of memory: its size is a signed number of 64 bits. -/
def maxMemory : Nat := 9223372036854775807

/--
Whether there can be memory for a copy.  A read needs one piece, and so does a
contiguous buffer; a bucketed buffer is made of small pieces.  Only a piece that
is larger than any piece can be is ruled out.  That a smaller one may not be had
either, and that all buckets together may be too much, is a matter of the
machine, and is left out.
-/
def isAllocatable (settings : BufferSettings) : Bool :=
  settings.readSize ≤ maxMemory
    && (settings.layout == .bucketed || settings.writeSize ≤ maxMemory)

/-- The number of buckets of a bucketed buffer. -/
def bucketCount (settings : BufferSettings) : Nat :=
  ceilDiv settings.capacity maxBucketSize

/-- The size of each bucket of a bucketed buffer. -/
def bucketSize (settings : BufferSettings) : Nat :=
  ceilDiv settings.capacity settings.bucketCount

def bucketTotal (settings : BufferSettings) : Nat :=
  settings.bucketCount * settings.bucketSize

section

variable (settings : BufferSettings)

theorem capacity_pos : 0 < settings.capacity :=
  Nat.lt_of_lt_of_le Nat.zero_lt_one (Nat.le_max_right settings.writeSize 1)

theorem bucketCount_pos : 0 < settings.bucketCount := by
  have filled := settings.capacity_pos
  rw [bucketCount, ceilDiv]
  apply Nat.div_pos
  · omega
  · decide

theorem bucketSize_pos : 0 < settings.bucketSize := by
  have filled := settings.capacity_pos
  have count := settings.bucketCount_pos
  rw [bucketSize, ceilDiv]
  exact Nat.div_pos (by omega) count

/-- A bucketed buffer has room for something. -/
theorem bucketTotal_pos : 0 < settings.bucketTotal :=
  Nat.mul_pos settings.bucketCount_pos settings.bucketSize_pos

end

/--
What a buffer holding `held` writes out when a delivery comes, block by block,
and what it holds then.
-/
def absorb (settings : BufferSettings) (held : Pile) (delivery : Bytes) :
    List Bytes × Pile :=
  match settings.layout with
  | .contiguous =>
      if !held.isEmpty && settings.capacity < held.size + delivery.length then
        ([held.bytes], .ofBytes delivery)
      else ([], held.push delivery)
  | .bucketed =>
      let content := held.push delivery
      if content.size < settings.bucketTotal then ([], content)
      else
        let full := content.size / settings.bucketTotal * settings.bucketTotal
        (Bytes.pieces settings.bucketSize (content.bytes.take full),
          .ofBytes (content.bytes.drop full))

/-- What a buffer writes out at the end, block by block. -/
def drain (settings : BufferSettings) (held : Pile) : List Bytes :=
  match settings.layout with
  | .contiguous => if held.isEmpty then [] else [held.bytes]
  | .bucketed => Bytes.pieces settings.bucketSize held.bytes

end BufferSettings

end ResumableUpload
