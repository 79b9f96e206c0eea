import ResumableUpload.Proofs.Copy.Reads
import ResumableUpload.Proofs.Copy.Sinks
import ResumableUpload.Store.Append
/-!
# What is delivered arrives

The copy through a write buffer and the stream of chunks are two consumers of a
body.  Of the copy it is kept true that the sink and the buffer together
hold the content before the append and all bytes taken; so no byte is lost,
repeated or misplaced at any boundary of a read, a buffer or a write.
-/

namespace ResumableUpload

/-! ## Buffers -/

/-- Counting blocks one after another counts all their bytes. -/
theorem Bytes.foldl_length (blocks : List Bytes) (count : Nat) :
    blocks.foldl (fun count block => count + block.length) count
      = count + blocks.flatten.length := by
  induction blocks generalizing count with
  | nil => rfl
  | cons block rest hypothesis =>
      rw [List.foldl_cons, hypothesis, List.flatten_cons, List.length_append,
        Nat.add_assoc]

namespace BufferSettings

variable (settings : BufferSettings)

/-- A buffer writes out and keeps what it held and what came. -/
theorem flatten_absorb (held : Pile) (delivery : Bytes) :
    (settings.absorb held delivery).1.flatten
        ++ (settings.absorb held delivery).2.bytes
      = held.bytes ++ delivery := by
  rw [absorb]
  cases settings.layout with
  | contiguous =>
      simp only
      split <;> simp
  | bucketed =>
      simp only
      split <;> simp [Bytes.flatten_pieces]

/-- In the end a buffer writes out what it held. -/
theorem flatten_drain (held : Pile) :
    (settings.drain held).flatten = held.bytes := by
  rw [drain]
  cases settings.layout with
  | contiguous =>
      simp only
      split
      · rw [(held.isEmpty_iff).1 ‹_›, List.flatten_nil]
      · simp
  | bucketed => exact Bytes.flatten_pieces _ _

end BufferSettings

/-! ## Budgets -/

/--
Whether an upload that has not outgrown its length has room for some bytes.
Lengths from the ceiling on are not looked at, because sizes are not counted
beyond it.
-/
def Upload.Admits (upload : Upload) (count : Nat) : Prop :=
  ∀ length, upload.length = some length → length < Budget.ceiling →
    upload.offset ≤ length → upload.offset + count ≤ length

namespace Upload.Admits

variable {upload : Upload}

theorem zero : upload.Admits 0 :=
  fun _ _ _ fits => fits

theorem mono {count fewer : Nat} (admits : upload.Admits count)
    (less : fewer ≤ count) : upload.Admits fewer :=
  fun length known below fits =>
    Nat.le_trans (Nat.add_le_add_left less _) (admits length known below fits)

end Upload.Admits

/-- Whether some bytes more are more than an upload may have. -/
def Upload.Exceeds (upload : Upload) (count : Nat) : Prop :=
  ∃ length, upload.length = some length ∧ length < upload.offset + count

theorem Upload.Exceeds.mono {upload : Upload} {count more : Nat}
    (exceeds : upload.Exceeds count) (less : count ≤ more) :
    upload.Exceeds more := by
  rcases exceeds with ⟨length, known, beyond⟩
  exact ⟨length, known,
    Nat.lt_of_lt_of_le beyond (Nat.add_le_add_left less _)⟩

theorem Budget.admits_of_excess?_eq_none {upload : Upload} {total : Nat}
    (within : Budget.excess? ⟨upload.offset, upload.length⟩ total = none) :
    upload.Admits total := by
  intro length known below _
  simp only [excess?, known] at within
  split at within
  · cases within
  · omega

theorem Budget.length_of_excess?_eq_some {budget : Budget} {total : Nat}
    {excess : Excess} (beyond : budget.excess? total = some excess) :
    budget.length = some excess.length ∧
      excess.length < budget.offset + total := by
  cases known : budget.length with
  | none => simp [excess?, known] at beyond
  | some length =>
      simp only [excess?, known] at beyond
      split at beyond
      · cases beyond
        refine ⟨rfl, ?_⟩
        change length < budget.offset + total
        omega
      · cases beyond

theorem Budget.exceeds_of_excess?_eq_some {upload : Upload} {total : Nat}
    {excess : Excess}
    (beyond : Budget.excess? ⟨upload.offset, upload.length⟩ total
      = some excess) :
    upload.Exceeds total :=
  ⟨excess.length, length_of_excess?_eq_some beyond⟩

/-! ## Copies and streams -/

/--
A copy to an upload that has taken some bytes: they are in the sink and in the
buffer, after the content of the upload.
-/
structure Transfer.Carries (upload : Upload) (transfer : Transfer)
    (taken : Bytes) : Prop where
  willing : transfer.sink.IsWilling
  budget : transfer.budget = ⟨upload.offset, upload.length⟩
  total : transfer.total = taken.length
  bytes : transfer.sink.received ++ transfer.held.bytes
    = upload.content ++ taken
  written : transfer.sink.received.length = upload.offset + transfer.written
  admits : upload.Admits taken.length

/--
What a copy leaves that has refused a delivery after taking some bytes: the
delivery was beyond the budget, and the sink holds a first part of the bytes
before it.
-/
structure Transfer.Refused (upload : Upload) (transfer : Transfer)
    (taken bytes : Bytes) (reason : CopyError) : Prop where
  kept : ∃ kept, kept <+: taken ∧
    transfer.sink.received = upload.content ++ kept ∧
    upload.Admits kept.length
  excess : ∃ excess, reason = .excess excess
  exceeds : upload.Exceeds (taken ++ bytes).length

namespace Transfer

variable {upload : Upload} {transfer after : Transfer} {taken bytes : Bytes}

theorem carries_begin {settings : BufferSettings}
    (begun : begin? settings ⟨upload.offset, upload.length⟩
      (.holding upload.content) = some transfer) :
    transfer.Carries upload [] := by
  rw [begin?] at begun
  split at begun
  · cases begun
    exact
      { willing := Sink.isWilling_holding _
        budget := rfl
        total := rfl
        bytes := congrArg (· ++ []) (Pile.bytes_ofBytes upload.content)
        written := by simp [Sink.holding, Sink.received, Upload.offset]
        admits := .zero }
  · cases begun

/-- A copy goes on with the sizes that it began with. -/
theorem settings_writeBlocks (transfer : Transfer) (blocks : List Bytes) :
    (transfer.writeBlocks blocks).1.settings = transfer.settings := by
  rw [writeBlocks]
  split <;> rfl

theorem settings_consume (transfer : Transfer) (delivery : Bytes) :
    (transfer.consume delivery).1.settings = transfer.settings := by
  rw [consume]
  simp only
  split
  · rfl
  · exact settings_writeBlocks _ _

theorem settings_finish (transfer : Transfer) (disconnected : Bool) :
    (transfer.finish disconnected).1.settings = transfer.settings := by
  have same := transfer.settings_writeBlocks
    (transfer.settings.drain transfer.held)
  rw [finish]
  split
  · rename_i written
    rw [written] at same
    exact same
  · rename_i written
    rw [written] at same
    exact same

/-- Blocks that the sink takes have been written. -/
theorem writeBlocks_of_done {blocks : List Bytes} {sink : Sink}
    (writes : transfer.sink.writeAll blocks = (sink, none)) :
    transfer.writeBlocks blocks
      = ({ transfer with
            sink := sink
            written := transfer.written + blocks.flatten.length }, none) := by
  rw [Transfer.writeBlocks, writes]
  simp only [Bytes.foldl_length]

theorem writeBlocks_of_failed {blocks : List Bytes} {sink : Sink}
    {reason : SinkError}
    (writes : transfer.sink.writeAll blocks = (sink, some reason)) :
    transfer.writeBlocks blocks
      = ({ transfer with sink := sink }, some (.sink reason)) := by
  rw [Transfer.writeBlocks, writes]

/-- A receptive sink takes what a copy writes. -/
theorem writeBlocks_of_receptive (receptive : transfer.sink.IsReceptive)
    (blocks : List Bytes) :
    transfer.writeBlocks blocks
      = ({ transfer with
            sink := (transfer.sink.writeAll blocks).1
            written := transfer.written + blocks.flatten.length }, none) := by
  exact writeBlocks_of_done (Prod.ext rfl (receptive.writeAll blocks).1)

/-- A willing sink takes what a copy holds in the end, and its flush is done. -/
theorem finish_of_willing (willing : transfer.sink.IsWilling)
    (disconnected : Bool) :
    (transfer.finish disconnected).2
        = .ok ⟨transfer.written + transfer.held.bytes.length, disconnected⟩ ∧
      (transfer.finish disconnected).1.sink.received
        = transfer.sink.received ++ transfer.held.bytes := by
  have received := (willing.receptive.writeAll
    (transfer.settings.drain transfer.held)).2
  have still := willing.writeAll (transfer.settings.drain transfer.held)
  rw [BufferSettings.flatten_drain] at received
  rw [finish, writeBlocks_of_receptive willing.receptive]
  refine ⟨?_, received⟩
  simp only [still.settles.flush, Copied.flushed, BufferSettings.flatten_drain]

namespace Carries

/-- The sink of a copy holds the content and the first bytes taken. -/
theorem received (carries : transfer.Carries upload taken) :
    ∃ kept, kept <+: taken ∧
      transfer.sink.received = upload.content ++ kept := by
  have within : upload.content <+: transfer.sink.received := by
    have before : upload.content <+: upload.content ++ taken :=
      List.prefix_append _ _
    refine List.prefix_of_prefix_length_le before ⟨_, carries.bytes⟩ ?_
    rw [carries.written]
    exact Nat.le_add_right _ _
  rcases within with ⟨kept, split⟩
  refine ⟨kept, ⟨transfer.held.bytes, ?_⟩, split.symm⟩
  have bytes := carries.bytes
  rw [← split, List.append_assoc] at bytes
  exact List.append_cancel_left bytes

/-- A delivery that is within the budget is carried on. -/
theorem accept (carries : transfer.Carries upload taken)
    (consumed : transfer.consume bytes = (after, none)) :
    after.Carries upload (taken ++ bytes) := by
  have receptive := carries.willing.receptive
  rw [consume] at consumed
  simp only [carries.budget, carries.total] at consumed
  cases exceeded : Budget.excess? ⟨upload.offset, upload.length⟩
      (taken.length + bytes.length) with
  | some excess => simp [exceeded] at consumed
  | none =>
      simp only [exceeded] at consumed
      have absorbed := transfer.settings.flatten_absorb transfer.held bytes
      generalize transfer.settings.absorb transfer.held bytes = absorption
        at consumed absorbed
      have received := (receptive.writeAll absorption.1).2
      rw [writeBlocks_of_receptive] at consumed
      · cases consumed
        exact
          { willing := carries.willing.writeAll _
            budget := rfl
            total := by rw [List.length_append]
            bytes := by
              rw [received, List.append_assoc, absorbed, ← List.append_assoc,
                carries.bytes, List.append_assoc]
            written := by
              rw [received, List.length_append, carries.written, Nat.add_assoc]
            admits := by
              rw [List.length_append]
              exact Budget.admits_of_excess?_eq_none exceeded }
      · exact receptive

/-- A delivery is refused only if it is beyond the budget. -/
theorem refuse {reason : CopyError} (carries : transfer.Carries upload taken)
    (consumed : transfer.consume bytes = (after, some reason)) :
    after.Refused upload taken bytes reason := by
  rcases carries.received with ⟨kept, within, received⟩
  rw [consume] at consumed
  simp only [carries.budget, carries.total] at consumed
  cases exceeded : Budget.excess? ⟨upload.offset, upload.length⟩
      (taken.length + bytes.length) with
  | some excess =>
      simp only [exceeded] at consumed
      cases consumed
      exact
        { kept :=
            ⟨kept, within, received, carries.admits.mono within.length_le⟩
          excess := ⟨excess, rfl⟩
          exceeds := by
            rw [List.length_append]
            exact Budget.exceeds_of_excess?_eq_some exceeded }
  | none =>
      simp only [exceeded] at consumed
      rw [writeBlocks_of_receptive] at consumed
      · cases consumed
      · exact carries.willing.receptive

/-- In the end everything that was taken is in the sink, and is counted. -/
theorem finish (carries : transfer.Carries upload taken)
    (disconnected : Bool) :
    (transfer.finish disconnected).2 = .ok ⟨taken.length, disconnected⟩ ∧
      (transfer.finish disconnected).1.sink.received
        = upload.content ++ taken := by
  have all := congrArg List.length carries.bytes
  rw [List.length_append, List.length_append, carries.written,
    Upload.offset] at all
  have written :
      transfer.written + transfer.held.bytes.length = taken.length := by
    omega
  rcases finish_of_willing carries.willing disconnected with ⟨done, received⟩
  exact ⟨done.trans (by rw [written]), received.trans carries.bytes⟩

end Carries

end Transfer

/-- A stream to an upload that has taken some bytes. -/
structure StreamTarget.Carries (upload : Upload) (target : StreamTarget)
    (taken : Bytes) : Prop where
  start : target.start = upload.offset
  length : target.length = upload.length
  bytes : target.content.bytes = upload.content ++ taken
  admits : upload.Admits taken.length

/-- A stream goes on with reads of the size that it began with. -/
theorem StreamTarget.readSize_consume (target : StreamTarget) (chunk : Bytes) :
    (target.consume chunk).1.readSize = target.readSize := by
  rw [consume]
  split <;> rfl

namespace StreamTarget.Carries

variable {upload : Upload} {target after : StreamTarget} {taken bytes : Bytes}

theorem size (carries : target.Carries upload taken) :
    target.content.size = upload.offset + taken.length := by
  rw [Pile.size_eq_length, carries.bytes, List.length_append, Upload.offset]

/-- A chunk for which there is room is carried on. -/
theorem accept (carries : target.Carries upload taken)
    (consumed : target.consume bytes = (after, none)) :
    after.Carries upload (taken ++ bytes) := by
  rw [consume] at consumed
  simp only [carries.size, carries.length] at consumed
  cases exceeded : upload.length.filter
      (· < upload.offset + taken.length + bytes.length) with
  | some length => simp [exceeded] at consumed
  | none =>
      simp only [exceeded] at consumed
      cases consumed
      exact
        { start := carries.start
          length := rfl
          bytes := by
            rw [Pile.bytes_push, carries.bytes, List.append_assoc]
          admits := by
            intro length known _ _
            rw [known, Option.filter_some] at exceeded
            rw [List.length_append]
            by_cases beyond :
                length < upload.offset + taken.length + bytes.length
            · simp [beyond] at exceeded
            · omega }

/-- A chunk is refused only if there is no room for it. -/
theorem refuse {excess : Excess} (carries : target.Carries upload taken)
    (consumed : target.consume bytes = (after, some excess)) :
    after.Carries upload taken ∧ upload.Exceeds (taken ++ bytes).length := by
  rw [consume] at consumed
  simp only [carries.size, carries.length] at consumed
  cases exceeded : upload.length.filter
      (· < upload.offset + taken.length + bytes.length) with
  | some length =>
      simp only [exceeded] at consumed
      cases consumed
      rcases Option.filter_eq_some_iff.1 exceeded with ⟨known, beyond⟩
      refine ⟨carries, length, known, ?_⟩
      rw [List.length_append]
      have := of_decide_eq_true beyond
      omega
  | none =>
      simp only [exceeded] at consumed
      cases consumed

end StreamTarget.Carries

/-! ## Appends -/

namespace Appending

/-- An append to an upload that has taken some bytes. -/
def Carries (upload : Upload) (appending : Appending) (taken : Bytes) : Prop :=
  match appending with
  | .buffered transfer => transfer.Carries upload taken
  | .streamed target => target.Carries upload taken

/-- A body in the reads of an append. -/
def reads (appending : Appending) (body : Body) : Body :=
  match appending with
  | .buffered transfer => body.inReads transfer.settings.readSize
  | .streamed target =>
      match target.readSize with
      | some size => body.inReads size
      | none => body

@[simp]
theorem reads_nil (appending : Appending) : appending.reads [] = [] := by
  cases appending with
  | buffered transfer => rfl
  | streamed target =>
      rw [reads]
      split <;> rfl

variable {upload : Upload} {appending : Appending} {taken : Bytes}

/-- An append begins without having taken anything. -/
theorem carries_begin {settings : BufferSettings} {route : Route}
    (begun : begin? settings route upload = some appending) :
    appending.Carries upload [] := by
  cases route with
  | buffered =>
      rcases Option.map_eq_some_iff.1 begun with ⟨transfer, copying, rfl⟩
      exact Transfer.carries_begin copying
  | streamed readSize =>
      cases begun
      exact
        { start := rfl
          length := rfl
          bytes := by rw [Pile.bytes_ofBytes, List.append_nil]
          admits := .zero }

/--
What an append leaves when it stops: the content is followed by a first part
of all bytes taken.  If it ends without a failure it is followed by all of
them, and they are counted; it fails only if there are more than the upload
has room for.
-/
structure Leaves (upload : Upload) (progress : AppendProgress)
    (taken kept : Bytes) : Prop where
  content : progress.appending.content = upload.content ++ kept
  within : kept <+: taken
  admits : upload.Admits kept.length
  waiting : progress.result = none → progress.appending.Carries upload taken
  done : ∀ count, progress.result = some (.ok count) →
    kept = taken ∧ count = taken.length
  failed : ∀ failure, progress.result = some (.error failure) →
    (∃ excess, failure = .refused (.excess excess)) ∧
      upload.Exceeds taken.length

namespace Leaves

variable {kept : Bytes} {rest : Body} {cancelled : Bool}

/-- An append that ends has written all that it has taken, and counts it. -/
theorem of_ended (content : appending.content = upload.content ++ taken)
    (admits : upload.Admits taken.length) :
    Leaves upload ⟨appending, rest, cancelled, some (.ok taken.length)⟩ taken
      taken where
  content := content
  within := List.prefix_rfl
  admits := admits
  waiting waits := by cases waits
  done count counted := by
    cases counted
    exact ⟨rfl, rfl⟩
  failed failure fails := by cases fails

/-- An append that waits may hold some of what it has taken back. -/
theorem of_waiting (carries : appending.Carries upload taken)
    (content : appending.content = upload.content ++ kept)
    (within : kept <+: taken) (admits : upload.Admits kept.length) :
    Leaves upload ⟨appending, rest, cancelled, none⟩ taken kept where
  content := content
  within := within
  admits := admits
  waiting _ := carries
  done count counted := by cases counted
  failed failure fails := by cases fails

/-- An append that fails does so because there is no room for everything. -/
theorem of_refused {excess : Excess}
    (content : appending.content = upload.content ++ kept)
    (within : kept <+: taken) (admits : upload.Admits kept.length)
    (exceeds : upload.Exceeds taken.length) :
    Leaves upload
      ⟨appending, rest, cancelled, some (.error (.refused (.excess excess)))⟩
      taken kept where
  content := content
  within := within
  admits := admits
  waiting waits := by cases waits
  done count counted := by cases counted
  failed failure fails := by
    cases fails
    exact ⟨⟨excess, rfl⟩, exceeds⟩

end Leaves

/-- A copy that finishes leaves everything that it has taken. -/
theorem leaves_finish {transfer : Transfer}
    (carries : transfer.Carries upload taken) (rest : Body)
    (cancelled disconnected : Bool) :
    Leaves upload
      { appending := .buffered (transfer.finish disconnected).1
        rest := rest
        cancelled := cancelled
        result := (some (transfer.finish disconnected).2).map fun
          | .ok copied => .ok copied.written
          | .error reason => .error (.ofCopyError reason) } taken taken := by
  rcases carries.finish disconnected with ⟨result, received⟩
  rw [result]
  exact .of_ended received carries.admits

theorem advance_buffered_leaves {transfer : Transfer}
    (carries : transfer.Carries upload taken) (body : Body)
    (cancelled : Bool) :
    ∃ kept, Leaves upload ((buffered transfer).advance body cancelled)
      (taken ++ Body.delivered cancelled false
        ((buffered transfer).reads body)) kept := by
  rw [advance, Transfer.run, reads]
  have fed := Body.feed_holds (Transfer.Carries upload)
    (Transfer.Refused upload) (fun carries consumed => carries.accept consumed)
    (fun carries consumed => carries.refuse consumed) carries cancelled false
    (body.inReads transfer.settings.readSize)
  generalize Body.feed Transfer.consume transfer cancelled false
    (body.inReads transfer.settings.readSize) = stopped at fed ⊢
  generalize Body.delivered cancelled false
    (body.inReads transfer.settings.readSize) = delivered at fed ⊢
  rcases stopped with ⟨after, rest, cancelled, stop⟩
  cases stop with
  | ended => exact ⟨_, leaves_finish fed rest cancelled false⟩
  | cancelled => exact ⟨_, leaves_finish fed rest cancelled false⟩
  | disconnected => exact ⟨_, leaves_finish fed rest cancelled true⟩
  | paused =>
      rcases Transfer.Carries.received fed with ⟨kept, within, received⟩
      exact ⟨kept, .of_waiting fed received within
        ((Transfer.Carries.admits fed).mono within.length_le)⟩
  | refused reason =>
      rcases fed with ⟨more, bytes, within, refused⟩
      rcases refused.kept with ⟨kept, first, received, admits⟩
      rcases refused.excess with ⟨excess, rfl⟩
      have all : taken ++ more ++ bytes <+: taken ++ delivered := by
        rw [List.append_assoc]
        exact (List.prefix_append_right_inj taken).2 within
      exact ⟨kept, .of_refused received
        (first.trans ((List.prefix_append _ bytes).trans all)) admits
        (refused.exceeds.mono all.length_le)⟩

/-- A stream takes the body in its reads. -/
theorem advance_streamed (target : StreamTarget) (body : Body)
    (cancelled : Bool) :
    (streamed target).advance body cancelled
      = let fed := Body.feed StreamTarget.consume target cancelled false
          ((streamed target).reads body)
        { appending := .streamed fed.state
          rest := fed.rest
          cancelled := fed.cancelled
          result :=
            match fed.stop with
            | .ended | .cancelled | .disconnected =>
                some (.ok (fed.state.content.size - fed.state.start))
            | .refused found => some (.error (.refused (.excess found)))
            | .paused => none } :=
  rfl

theorem advance_streamed_leaves {target : StreamTarget}
    (carries : target.Carries upload taken) (body : Body)
    (cancelled : Bool) :
    ∃ kept, Leaves upload ((streamed target).advance body cancelled)
      (taken ++ Body.delivered cancelled false
        ((streamed target).reads body)) kept := by
  rw [advance_streamed]
  generalize (streamed target).reads body = body
  have fed := Body.feed_holds (StreamTarget.Carries upload)
    (fun after taken bytes (_ : Excess) =>
      after.Carries upload taken ∧ upload.Exceeds (taken ++ bytes).length)
    (fun carries consumed => carries.accept consumed)
    (fun carries consumed => carries.refuse consumed) carries cancelled false
    body
  generalize Body.feed StreamTarget.consume target cancelled false body
    = stopped at fed ⊢
  generalize Body.delivered cancelled false body = delivered at fed ⊢
  rcases stopped with ⟨after, rest, cancelled, stop⟩
  have closed (carries : after.Carries upload (taken ++ delivered)) :
      Leaves upload
        { appending := .streamed after
          rest := rest
          cancelled := cancelled
          result := some (.ok (after.content.size - after.start)) }
        (taken ++ delivered) (taken ++ delivered) := by
    rw [carries.size, carries.start, Nat.add_sub_cancel_left]
    exact .of_ended carries.bytes carries.admits
  cases stop with
  | ended => exact ⟨_, closed fed⟩
  | cancelled => exact ⟨_, closed fed⟩
  | disconnected => exact ⟨_, closed fed⟩
  | paused =>
      exact ⟨_, .of_waiting fed (StreamTarget.Carries.bytes fed)
        List.prefix_rfl (StreamTarget.Carries.admits fed)⟩
  | refused excess =>
      rcases fed with ⟨more, bytes, within, still, exceeds⟩
      have all : taken ++ more ++ bytes <+: taken ++ delivered := by
        rw [List.append_assoc]
        exact (List.prefix_append_right_inj taken).2 within
      exact ⟨taken ++ more, .of_refused still.bytes
        ((List.prefix_append _ bytes).trans all) still.admits
        (exceeds.mono all.length_le)⟩

/--
Whatever ends an append or makes it wait, it leaves the content before it and
a first part of what was delivered to it.
-/
theorem advance_leaves (carries : appending.Carries upload taken)
    (body : Body) (cancelled : Bool) :
    ∃ kept, Leaves upload (appending.advance body cancelled)
      (taken ++ Body.delivered cancelled false (appending.reads body))
      kept := by
  cases appending with
  | buffered transfer => exact advance_buffered_leaves carries body cancelled
  | streamed target => exact advance_streamed_leaves carries body cancelled

/-- An append goes on with the reads that it began with. -/
theorem advance_reads (appending : Appending) (body : Body) (cancelled : Bool)
    (later : Body) :
    (appending.advance body cancelled).appending.reads later
      = appending.reads later := by
  cases appending with
  | buffered transfer =>
      have same := Body.feed_keeps
        (fun after => after.settings = transfer.settings)
        (fun state bytes before =>
          (Transfer.settings_consume state bytes).trans before) rfl cancelled
        false (body.inReads transfer.settings.readSize)
      rw [advance, Transfer.run, reads]
      generalize Body.feed Transfer.consume transfer cancelled false
        (body.inReads transfer.settings.readSize) = stopped at same ⊢
      rcases stopped with ⟨after, rest, cancelled, stop⟩
      have same : after.settings = transfer.settings := same
      cases stop with
      | ended | cancelled =>
          change later.inReads (after.finish false).1.settings.readSize = _
          rw [Transfer.settings_finish, same]
          rfl
      | disconnected =>
          change later.inReads (after.finish true).1.settings.readSize = _
          rw [Transfer.settings_finish, same]
          rfl
      | paused | refused =>
          change later.inReads after.settings.readSize = _
          rw [same]
          rfl
  | streamed target =>
      have same := Body.feed_keeps
        (fun after => after.readSize = target.readSize)
        (fun state bytes before =>
          (StreamTarget.readSize_consume state bytes).trans before) rfl
        cancelled false ((streamed target).reads body)
      rw [advance_streamed]
      change (match StreamTarget.readSize _ with
        | some size => later.inReads size
        | none => later) = _
      rw [same]
      rfl

/--
An append that does not fail waits where its body keeps the reader waiting, and
nowhere else.
-/
theorem advance_waits (appending : Appending) (body : Body) (cancelled : Bool)
    (succeeds : ∀ failure, (appending.advance body cancelled).result
      ≠ some (.error failure)) :
    match Body.held? cancelled false (appending.reads body) with
    | some rest =>
        (appending.advance body cancelled).result = none ∧
          (appending.advance body cancelled).rest = rest ∧
          (appending.advance body cancelled).cancelled = false
    | none => (appending.advance body cancelled).result ≠ none := by
  cases appending with
  | buffered transfer =>
      have waits := Body.feed_waits Transfer.consume transfer cancelled false
        (body.inReads transfer.settings.readSize)
      rw [advance, Transfer.run] at succeeds ⊢
      rw [reads]
      generalize Body.feed Transfer.consume transfer cancelled false
        (body.inReads transfer.settings.readSize) = stopped
        at waits succeeds ⊢
      rcases stopped with ⟨after, rest, cancelled', stop⟩
      cases stop with
      | refused reason => exact absurd rfl (succeeds (.ofCopyError reason))
      | _ =>
          have waits := waits rfl
          generalize Body.held? cancelled false
            (body.inReads transfer.settings.readSize) = left at waits ⊢
          cases left <;> simp_all
  | streamed target =>
      have waits := Body.feed_waits StreamTarget.consume target cancelled false
        ((streamed target).reads body)
      rw [advance_streamed] at succeeds ⊢
      generalize Body.feed StreamTarget.consume target cancelled false
        ((streamed target).reads body) = stopped at waits succeeds ⊢
      rcases stopped with ⟨after, rest, cancelled', stop⟩
      cases stop with
      | refused excess =>
          exact absurd rfl (succeeds (.refused (.excess excess)))
      | _ =>
          have waits := waits rfl
          generalize Body.held? cancelled false ((streamed target).reads body)
            = left at waits ⊢
          cases left <;> simp_all

end Appending

end ResumableUpload
