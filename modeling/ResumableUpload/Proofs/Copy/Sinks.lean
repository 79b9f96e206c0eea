import ResumableUpload.Copy.Sink
/-!
# Writing to sinks

A sink may take a block in parts, and it may fail at any of them.  What it has
received by then is a first part of what was to be written, `Sink.Takes`; and
all of it if nothing went wrong.  Nothing goes wrong with a sink that always
takes something.  A flush may go wrong with it nevertheless, but changes nothing
of what it has received.
-/

namespace ResumableUpload.Sink

/-- A sink that takes all it is offered. -/
def IsGreedy (sink : Sink) : Prop :=
  ∀ taken offered, sink.accept taken offered = .ok offered

theorem isGreedy_holding (bytes : Bytes) : (holding bytes).IsGreedy :=
  fun _ _ => rfl

/-- A sink that takes something of all it is offered. -/
def IsReceptive (sink : Sink) : Prop :=
  ∀ taken offered, 0 < offered →
    ∃ count, 0 < count ∧ sink.accept taken offered = .ok count

theorem IsGreedy.isReceptive {sink : Sink} (greedy : sink.IsGreedy) :
    sink.IsReceptive :=
  fun taken offered something => ⟨offered, something, greedy taken offered⟩

/-- A sink of which no flush fails. -/
def Settles (sink : Sink) : Prop :=
  ∀ taken, sink.settle taken = none

/-- A sink that never fails and takes something of all it is offered. -/
structure IsWilling (sink : Sink) : Prop where
  receptive : sink.IsReceptive
  settles : sink.Settles

theorem isWilling_holding (bytes : Bytes) : (holding bytes).IsWilling :=
  ⟨(isGreedy_holding bytes).isReceptive, fun _ => rfl⟩

/-- A sink that takes at most so many bytes in one call, but one at least. -/
theorem isWilling_limited {maxWrite : Option Nat}
    (something : ∀ size ∈ maxWrite, 0 < size) :
    (limited maxWrite none).IsWilling := by
  refine ⟨?_, fun _ => rfl⟩
  intro taken offered more
  refine ⟨min offered (maxWrite.getD offered), ?_, rfl⟩
  cases maxWrite with
  | none => simpa using more
  | some size => exact Nat.lt_min.2 ⟨more, something size rfl⟩

/--
What writing some bytes to a sink leaves: it has received a first part of them,
and all of them if nothing went wrong.
-/
structure Takes (sink : Sink) (bytes : Bytes) (after : Sink)
    (failed : Option SinkError) : Prop where
  accept : after.accept = sink.accept
  settle : after.settle = sink.settle
  received : ∃ kept, kept <+: bytes ∧ after.received = sink.received ++ kept
  whole : failed = none → after.received = sink.received ++ bytes
  receptive : sink.IsReceptive → failed = none

namespace Takes

variable {sink between after : Sink} {bytes rest : Bytes}
  {failed : Option SinkError}

theorem of_whole (accept : after.accept = sink.accept)
    (settle : after.settle = sink.settle)
    (received : after.received = sink.received ++ bytes) :
    sink.Takes bytes after none where
  accept := accept
  settle := settle
  received := ⟨bytes, List.prefix_rfl, received⟩
  whole := fun _ => received
  receptive := fun _ => rfl

theorem of_nothing {reason : SinkError} (accept : after.accept = sink.accept)
    (settle : after.settle = sink.settle)
    (received : after.received = sink.received)
    (unreceptive : ¬sink.IsReceptive) :
    sink.Takes bytes after (some reason) where
  accept := accept
  settle := settle
  received := ⟨[], List.nil_prefix, by rw [received, List.append_nil]⟩
  whole := fun contrary => by cases contrary
  receptive := fun receptive => absurd receptive unreceptive

theorem isReceptive (takes : sink.Takes bytes after failed)
    (receptive : sink.IsReceptive) : after.IsReceptive := by
  rw [IsReceptive, takes.accept]
  exact receptive

theorem isGreedy (takes : sink.Takes bytes after failed)
    (greedy : sink.IsGreedy) : after.IsGreedy := by
  rw [IsGreedy, takes.accept]
  exact greedy

theorem settles (takes : sink.Takes bytes after failed)
    (settles : sink.Settles) : after.Settles := by
  rw [Settles, takes.settle]
  exact settles

/-- Writing goes on. -/
theorem andThen (first : sink.Takes bytes between none)
    (later : between.Takes rest after failed) :
    sink.Takes (bytes ++ rest) after failed where
  accept := later.accept.trans first.accept
  settle := later.settle.trans first.settle
  received := by
    rcases later.received with ⟨kept, within, received⟩
    refine ⟨bytes ++ kept, (List.prefix_append_right_inj bytes).2 within, ?_⟩
    rw [received, first.whole rfl, List.append_assoc]
  whole := by
    intro done
    rw [later.whole done, first.whole rfl, List.append_assoc]
  receptive := fun receptive => later.receptive (first.isReceptive receptive)

/-- Writing does not go on. -/
theorem stopped {reason : SinkError}
    (first : sink.Takes bytes after (some reason)) :
    sink.Takes (bytes ++ rest) after (some reason) where
  accept := first.accept
  settle := first.settle
  received := by
    rcases first.received with ⟨kept, within, received⟩
    exact ⟨kept, within.trans (List.prefix_append bytes rest), received⟩
  whole := fun contrary => by cases contrary
  receptive := fun receptive => by cases first.receptive receptive

end Takes

/-- What offering a block once leaves. -/
inductive Offers (sink : Sink) (block : Bytes) (size : Nat) :
    Sink × Except SinkError Nat → Prop where
  | failed {reason : SinkError} (unreceptive : ¬sink.IsReceptive) :
      Offers sink block size (sink, .error reason)
  | taken {after : Sink} {count : Nat} (within : count ≤ size)
      (takes : sink.Takes (block.take count) after none)
      (something : sink.IsReceptive → 0 < count) :
      Offers sink block size (after, .ok count)

theorem offers_offer (sink : Sink) (block : Bytes) {size : Nat}
    (more : 0 < size) : sink.Offers block size (sink.offer block size) := by
  rw [offer]
  cases accepted : sink.accept sink.pile.size size with
  | error reason =>
      apply Offers.failed
      intro receptive
      rcases receptive sink.pile.size size more with ⟨count, -, accepts⟩
      rw [accepted] at accepts
      cases accepts
  | ok count =>
      refine .taken (Nat.min_le_right _ _)
        (.of_whole rfl rfl (Pile.bytes_push _ _)) ?_
      intro receptive
      rcases receptive sink.pile.size size more
        with ⟨taken, something, accepts⟩
      rw [accepted] at accepts
      cases accepts
      exact Nat.lt_min.2 ⟨something, more⟩

theorem takes_writeSized (sink : Sink) {block : Bytes} {size : Nat}
    (whole : block.length = size) :
    sink.Takes block (sink.writeSized block size).1
      (sink.writeSized block size).2 := by
  induction size using Nat.strongRecOn generalizing sink block with
  | ind size hypothesis =>
      cases size with
      | zero =>
          rw [List.length_eq_zero_iff] at whole
          rw [writeSized, whole]
          exact .of_whole rfl rfl (List.append_nil _).symm
      | succ size =>
          have offers := sink.offers_offer block size.succ_pos
          rw [writeSized]
          generalize sink.offer block (size + 1) = offered at offers ⊢
          cases offers with
          | failed unreceptive => exact .of_nothing rfl rfl rfl unreceptive
          | @taken after count within takes something =>
              cases count with
              | zero =>
                  refine .of_nothing takes.accept takes.settle ?_
                    fun receptive => Nat.lt_irrefl 0 (something receptive)
                  rw [takes.whole rfl, List.take_zero, List.append_nil]
              | succ count =>
                  have left :
                      (block.drop (count + 1)).length = size - count := by
                    rw [List.length_drop]
                    omega
                  have both := takes.andThen
                    (hypothesis (size - count) (by omega) after left)
                  rw [List.take_append_drop] at both
                  exact both

theorem takes_write (sink : Sink) (block : Bytes) :
    sink.Takes block (sink.write block).1 (sink.write block).2 :=
  sink.takes_writeSized rfl

/-- Blocks are offered one after another. -/
theorem writeAll_append (sink : Sink) (firsts rest : List Bytes) :
    sink.writeAll (firsts ++ rest)
      = match sink.writeAll firsts with
        | (sink, none) => sink.writeAll rest
        | (sink, some reason) => (sink, some reason) := by
  induction firsts generalizing sink with
  | nil => rfl
  | cons block others hypothesis =>
      rw [List.cons_append, writeAll, writeAll]
      rcases sink.write block with ⟨after, none | reason⟩
      · exact hypothesis after
      · rfl

/-- What is known of one block is known of all of them. -/
theorem takes_writeAll (sink : Sink) (blocks : List Bytes) :
    sink.Takes blocks.flatten (sink.writeAll blocks).1
      (sink.writeAll blocks).2 := by
  induction blocks generalizing sink with
  | nil => exact .of_whole rfl rfl (List.append_nil _).symm
  | cons block rest hypothesis =>
      have first := sink.takes_write block
      rw [writeAll, List.flatten_cons]
      generalize sink.write block = written at first ⊢
      rcases written with ⟨after, none | reason⟩
      · exact first.andThen (hypothesis after)
      · exact first.stopped

variable {sink : Sink}

/-- A receptive sink takes blocks one after another. -/
theorem IsReceptive.writeAll (receptive : sink.IsReceptive)
    (blocks : List Bytes) :
    (sink.writeAll blocks).2 = none ∧
      (sink.writeAll blocks).1.received = sink.received ++ blocks.flatten := by
  have takes := sink.takes_writeAll blocks
  have done := takes.receptive receptive
  exact ⟨done, takes.whole done⟩

/-- A willing sink stays willing. -/
theorem IsWilling.writeAll (willing : sink.IsWilling) (blocks : List Bytes) :
    (sink.writeAll blocks).1.IsWilling where
  receptive := (sink.takes_writeAll blocks).isReceptive willing.receptive
  settles := (sink.takes_writeAll blocks).settles willing.settles

/-- A greedy sink takes a block in one call. -/
theorem IsGreedy.calls_write (greedy : sink.IsGreedy) {block : Bytes}
    (something : block ≠ []) :
    (sink.write block).1.calls = block.length :: sink.calls := by
  cases block with
  | nil => exact absurd rfl something
  | cons byte rest =>
      have taken : (sink.offer (byte :: rest) (rest.length + 1)).1.calls
            = (rest.length + 1) :: sink.calls ∧
          (sink.offer (byte :: rest) (rest.length + 1)).2
            = .ok (rest.length + 1) := by
        rw [offer, greedy]
        simp only [Nat.min_self, and_self]
      rw [write, List.length_cons, writeSized]
      generalize sink.offer (byte :: rest) (rest.length + 1) = offered
        at taken ⊢
      rcases offered with ⟨after, result⟩
      obtain ⟨calls, rfl⟩ := taken
      simp only
      rw [Nat.sub_self, writeSized]
      exact calls

/-- It takes blocks in a call for each. -/
theorem IsGreedy.writes_writeAll (greedy : sink.IsGreedy) {blocks : List Bytes}
    (something : ∀ block ∈ blocks, block ≠ []) :
    (sink.writeAll blocks).1.writes
      = sink.writes ++ blocks.map List.length := by
  induction blocks generalizing sink with
  | nil => rw [Sink.writeAll, List.map_nil, List.append_nil]
  | cons block rest hypothesis =>
      obtain ⟨here, later⟩ := List.forall_mem_cons.1 something
      have takes := sink.takes_write block
      have calls := greedy.calls_write here
      rw [Sink.writeAll]
      generalize sink.write block = written at takes calls ⊢
      rcases written with ⟨after, failed⟩
      obtain rfl : failed = none := takes.receptive greedy.isReceptive
      have still : after.IsGreedy := takes.isGreedy greedy
      simp only at calls ⊢
      rw [hypothesis still later, writes, calls, List.reverse_cons,
        List.append_assoc, List.map_cons]
      rfl

/-- So nothing goes wrong, and the sink stays greedy. -/
theorem IsGreedy.of_writeAll (greedy : sink.IsGreedy) {blocks : List Bytes}
    (something : ∀ block ∈ blocks, block ≠ []) {after : Sink}
    {failed : Option SinkError}
    (written : sink.writeAll blocks = (after, failed)) :
    failed = none ∧ after.IsGreedy ∧
      after.writes = sink.writes ++ blocks.map List.length := by
  have takes := sink.takes_writeAll blocks
  have calls := greedy.writes_writeAll something
  rw [written] at takes calls
  exact ⟨takes.receptive greedy.isReceptive, takes.isGreedy greedy, calls⟩

/-- It takes what a pile holds in one call. -/
theorem IsGreedy.writes_pile (greedy : sink.IsGreedy) {pile : Pile}
    (something : 0 < pile.size) :
    (sink.writeAll [pile.bytes]).1.writes = sink.writes ++ [pile.size] := by
  rw [Pile.size_eq_length] at something ⊢
  apply greedy.writes_writeAll
  rw [List.forall_mem_singleton]
  exact List.length_pos_iff.1 something

/-- Whatever a sink does with blocks, it keeps what it has received. -/
theorem received_writeAll (sink : Sink) (blocks : List Bytes) :
    sink.received <+: (sink.writeAll blocks).1.received := by
  rcases (sink.takes_writeAll blocks).received with ⟨kept, -, received⟩
  rw [received]
  exact List.prefix_append _ _

/-! ## Flushes -/

@[simp]
theorem received_flush (sink : Sink) : sink.flush.1.received = sink.received :=
  rfl

theorem Settles.flush (settles : sink.Settles) : sink.flush.2 = none :=
  settles sink.pile.size

end ResumableUpload.Sink
