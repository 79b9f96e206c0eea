import Mathlib.Data.List.Induction
import ResumableUpload.Proofs.Copy.Delivery
/-!
# What a refused body leaves behind

An append ends with the first delivery for which the upload has no room.  The
deliveries before it have been taken by then, and what has become of them
depends on the way of the body: a stream has put them all behind the content,
while a copy has put there what its write buffer had to write out to make room,
which is `BufferSettings.spilled`.

So it depends on the sizes of the buffer and of the deliveries whether an append
that is refused leaves the content as it was: `Route.spilled_eq_nil_iff` says
when.  `Appending.advance_goes` follows an append from one wait to the next.
-/

namespace ResumableUpload

/-! ## Write buffers -/

namespace BufferSettings

variable (settings : BufferSettings)

/-- What a write buffer has written of some deliveries, and what it holds. -/
def absorbAll (deliveries : List Bytes) : Bytes × Pile :=
  deliveries.foldl
    (fun before delivery =>
      (before.1 ++ (settings.absorb before.2 delivery).1.flatten,
        (settings.absorb before.2 delivery).2))
    ([], .empty)

/-- What a write buffer has written out of some deliveries. -/
def spilled (deliveries : List Bytes) : Bytes :=
  (settings.absorbAll deliveries).1

/-- What a write buffer holds of some deliveries. -/
def held (deliveries : List Bytes) : Pile :=
  (settings.absorbAll deliveries).2

theorem absorbAll_concat (deliveries : List Bytes) (last : Bytes) :
    settings.spilled (deliveries ++ [last])
        = settings.spilled deliveries
          ++ (settings.absorb (settings.held deliveries) last).1.flatten ∧
      settings.held (deliveries ++ [last])
        = (settings.absorb (settings.held deliveries) last).2 := by
  have all : settings.absorbAll (deliveries ++ [last])
      = (settings.spilled deliveries
          ++ (settings.absorb (settings.held deliveries) last).1.flatten,
        (settings.absorb (settings.held deliveries) last).2) :=
    List.foldl_append
  exact ⟨congrArg Prod.fst all, congrArg Prod.snd all⟩

/-- A write buffer holds what it has not written out. -/
theorem spilled_append_held (deliveries : List Bytes) :
    settings.spilled deliveries ++ (settings.held deliveries).bytes
      = deliveries.flatten := by
  induction deliveries using List.reverseRecOn with
  | nil => rfl
  | append_singleton earlier last hypothesis =>
      rcases settings.absorbAll_concat earlier last with ⟨written, held⟩
      rw [written, held, List.append_assoc, flatten_absorb, ← List.append_assoc,
        hypothesis, List.flatten_append, List.flatten_singleton]

/-- When a contiguous buffer writes nothing out. -/
theorem flatten_absorb_eq_nil_of_contiguous
    (contiguous : settings.layout = .contiguous) (held : Pile) (last : Bytes) :
    (settings.absorb held last).1.flatten = [] ↔
      held.bytes = [] ∨
        held.bytes.length + last.length ≤ settings.capacity := by
  rw [absorb, contiguous]
  simp only [held.size_eq_length]
  by_cases empty : held.bytes = []
  · simp [empty, (held.isEmpty_iff).2 empty]
  · have full : held.isEmpty = false := by
      rw [Bool.eq_false_iff]
      exact fun contrary => empty ((held.isEmpty_iff).1 contrary)
    simp only [full, empty, false_or]
    split
    · rename_i beyond
      have beyond : settings.capacity < held.bytes.length + last.length := by
        simpa using beyond
      constructor
      · intro contrary
        exact absurd (by simpa using contrary) empty
      · intro within
        omega
    · rename_i within
      have within : ¬settings.capacity < held.bytes.length + last.length := by
        simpa using within
      simpa using within

/-- When a bucketed buffer writes nothing out. -/
theorem flatten_absorb_eq_nil_of_bucketed
    (bucketed : settings.layout = .bucketed) (held : Pile) (last : Bytes) :
    (settings.absorb held last).1.flatten = [] ↔
      held.bytes.length + last.length < settings.bucketTotal := by
  rw [absorb, bucketed]
  simp only [Pile.size_push, held.size_eq_length]
  split
  · rename_i within
    exact ⟨fun _ => within, fun _ => rfl⟩
  · rename_i beyond
    have room := settings.bucketTotal_pos
    have once : 1 ≤ (held.bytes.length + last.length) / settings.bucketTotal :=
      Nat.div_pos (Nat.le_of_not_lt beyond) room
    have full := Nat.le_mul_of_pos_left settings.bucketTotal once
    constructor
    · intro contrary
      rw [Bytes.flatten_pieces, Pile.bytes_push, List.take_eq_nil_iff,
        List.append_eq_nil_iff] at contrary
      rcases contrary with none_full | ⟨empty, nothing⟩
      · omega
      · rw [empty, nothing] at beyond
        simp at beyond
        omega
    · exact fun within => absurd within beyond

/-- Whether some deliveries stay in a write buffer. -/
def Retains (deliveries : List Bytes) : Prop :=
  match settings.layout with
  | .contiguous =>
      deliveries.length ≤ 1 ∨ deliveries.flatten.length ≤ settings.capacity
  | .bucketed => deliveries.flatten.length < settings.bucketTotal

/-- What stays in a buffer has stayed there before the last delivery. -/
theorem Retains.of_concat {settings : BufferSettings} {earlier : List Bytes}
    {last : Bytes} (retains : settings.Retains (earlier ++ [last])) :
    settings.Retains earlier := by
  rw [Retains] at retains ⊢
  simp only [List.length_append, List.length_singleton, List.flatten_append,
    List.flatten_singleton] at retains
  cases layout : settings.layout with
  | contiguous =>
      rw [layout] at retains
      exact retains.imp (by omega) (by omega)
  | bucketed =>
      rw [layout] at retains
      simp only at retains ⊢
      omega

/--
A buffer that holds all deliveries so far writes nothing out for another one if
that stays there as well.
-/
theorem flatten_absorb_eq_nil_iff {earlier : List Bytes}
    (carry : ∀ bytes ∈ earlier, bytes ≠ []) {held : Pile}
    (holds : held.bytes = earlier.flatten) (last : Bytes) :
    (settings.absorb held last).1.flatten = [] ↔
      settings.Retains (earlier ++ [last]) := by
  have none_before : held.bytes = [] ↔ earlier = [] := by
    rw [holds, List.flatten_eq_nil_iff, List.eq_nil_iff_forall_not_mem]
    constructor
    · intro empty bytes present
      exact carry bytes present (empty bytes present)
    · intro nothing bytes present
      exact absurd present (nothing bytes)
  rw [Retains]
  simp only [List.length_append, List.length_singleton, List.flatten_append,
    List.flatten_singleton, ← holds]
  cases layout : settings.layout with
  | contiguous =>
      rw [settings.flatten_absorb_eq_nil_of_contiguous layout, none_before,
        ← List.length_eq_zero_iff]
      omega
  | bucketed =>
      exact settings.flatten_absorb_eq_nil_of_bucketed layout held last

/-- A buffer has written nothing out as long as all deliveries stay in it. -/
theorem spilled_eq_nil_iff {deliveries : List Bytes}
    (carry : ∀ bytes ∈ deliveries, bytes ≠ []) :
    settings.spilled deliveries = [] ↔ settings.Retains deliveries := by
  induction deliveries using List.reverseRecOn with
  | nil =>
      rw [Retains]
      cases settings.layout with
      | contiguous => exact ⟨fun _ => .inl (Nat.zero_le 1), fun _ => rfl⟩
      | bucketed => exact ⟨fun _ => settings.bucketTotal_pos, fun _ => rfl⟩
  | append_singleton earlier last hypothesis =>
      have carry : ∀ bytes ∈ earlier, bytes ≠ [] := fun bytes present =>
        carry bytes (List.mem_append_left _ present)
      have before := hypothesis carry
      -- What has not been written out is still held.
      have holds (retains : settings.Retains earlier) :
          (settings.held earlier).bytes = earlier.flatten := by
        have all := settings.spilled_append_held earlier
        rw [before.2 retains] at all
        exact all
      rw [(settings.absorbAll_concat earlier last).1, List.append_eq_nil_iff,
        before]
      constructor
      · rintro ⟨retains, nothing⟩
        exact (settings.flatten_absorb_eq_nil_iff carry (holds retains)
          last).1 nothing
      · intro retains
        have earlier_retains := retains.of_concat
        exact ⟨earlier_retains, (settings.flatten_absorb_eq_nil_iff carry
          (holds earlier_retains) last).2 retains⟩

end BufferSettings

/-! ## Copies -/

/--
A copy to an upload that has taken some deliveries: the buffer holds what it
has to hold, and everything else is in the sink.
-/
structure Transfer.Took (settings : BufferSettings) (upload : Upload)
    (transfer : Transfer) (taken : List Bytes) : Prop where
  carries : transfer.Carries upload taken.flatten
  sizes : transfer.settings = settings
  held : transfer.held = settings.held taken

/--
An upload has room for the bytes taken so far, but not for those of the next
delivery as well.
-/
structure Upload.Refuses (upload : Upload) (taken bytes : Bytes)
    (excess : Excess) : Prop where
  length : upload.length = some excess.length
  admits : upload.Admits taken.length
  exceeds : excess.length < upload.offset + (taken.length + bytes.length)

/-- After a delivery a copy holds what its buffer holds then. -/
theorem Transfer.held_consume {transfer after : Transfer} {bytes : Bytes}
    (consumed : transfer.consume bytes = (after, none)) :
    after.held = (transfer.settings.absorb transfer.held bytes).2 := by
  rw [consume] at consumed
  simp only at consumed
  split at consumed
  · cases consumed
  · rw [writeBlocks] at consumed
    split at consumed
    · cases consumed
      rfl
    · cases consumed

namespace Transfer.Took

variable {settings : BufferSettings} {upload : Upload}
  {transfer after : Transfer} {taken : List Bytes} {bytes : Bytes}

/-- The sink holds the content and what the buffer has written out. -/
theorem received (took : transfer.Took settings upload taken) :
    transfer.sink.received = upload.content ++ settings.spilled taken := by
  have all := took.carries.bytes
  rw [took.held, ← settings.spilled_append_held, ← List.append_assoc] at all
  exact List.append_cancel_right all

theorem accept (took : transfer.Took settings upload taken)
    (consumed : transfer.consume bytes = (after, none)) :
    after.Took settings upload (taken ++ [bytes]) where
  carries := by
    rw [List.flatten_append, List.flatten_singleton]
    exact took.carries.accept consumed
  sizes := by
    have same := transfer.settings_consume bytes
    rw [consumed] at same
    exact same.trans took.sizes
  held := by
    rw [held_consume consumed, took.sizes, took.held,
      (settings.absorbAll_concat taken bytes).2]

/-- A delivery that is refused leaves the sink as it is. -/
theorem refuse {reason : CopyError} (took : transfer.Took settings upload taken)
    (consumed : transfer.consume bytes = (after, some reason)) :
    ∃ excess, reason = .excess excess ∧
      after.sink.received = upload.content ++ settings.spilled taken ∧
      upload.Refuses taken.flatten bytes excess := by
  have carries := took.carries
  rw [consume] at consumed
  simp only [carries.budget, carries.total] at consumed
  cases exceeded : Budget.excess? ⟨upload.offset, upload.length⟩
      (taken.flatten.length + bytes.length) with
  | some excess =>
      rw [exceeded] at consumed
      cases consumed
      rcases Budget.length_of_excess?_eq_some exceeded with ⟨known, beyond⟩
      exact ⟨excess, rfl, took.received, known, carries.admits, beyond⟩
  | none =>
      simp only [exceeded] at consumed
      rw [writeBlocks_of_receptive] at consumed
      · cases consumed
      · exact carries.willing.receptive

end Transfer.Took

/-- A chunk that is refused leaves a stream as it is. -/
theorem StreamTarget.Carries.refuse_excess {upload : Upload}
    {target after : StreamTarget} {taken : List Bytes} {bytes : Bytes}
    {excess : Excess} (carries : target.Carries upload taken.flatten)
    (consumed : target.consume bytes = (after, some excess)) :
    after.content.bytes = upload.content ++ taken.flatten ∧
      upload.Refuses taken.flatten bytes excess := by
  rw [consume] at consumed
  simp only [carries.size, carries.length] at consumed
  cases exceeded : upload.length.filter
      (· < upload.offset + taken.flatten.length + bytes.length) with
  | some length =>
      rw [exceeded] at consumed
      cases consumed
      rcases Option.filter_eq_some_iff.1 exceeded with ⟨known, beyond⟩
      refine ⟨carries.bytes, known, carries.admits, ?_⟩
      rw [← Nat.add_assoc]
      exact of_decide_eq_true beyond
  | none =>
      rw [exceeded] at consumed
      cases consumed

/-! ## Appends -/

/-- What an append has put behind the content after taking some deliveries. -/
def Route.spilled (settings : BufferSettings) (route : Route)
    (taken : List Bytes) : Bytes :=
  match route with
  | .buffered => settings.spilled taken
  | .streamed _ => taken.flatten

/-- Whether an append has put nothing behind the content by then. -/
def Route.Retains (settings : BufferSettings) (route : Route)
    (taken : List Bytes) : Prop :=
  match route with
  | .buffered => settings.Retains taken
  | .streamed _ => taken = []

theorem Route.spilled_eq_nil_iff (settings : BufferSettings) (route : Route)
    {taken : List Bytes} (carry : ∀ bytes ∈ taken, bytes ≠ []) :
    route.spilled settings taken = [] ↔ route.Retains settings taken := by
  cases route with
  | buffered => exact settings.spilled_eq_nil_iff carry
  | streamed size =>
      constructor
      · intro nothing
        have empty := List.flatten_eq_nil_iff.1 nothing
        rw [Retains, List.eq_nil_iff_forall_not_mem]
        exact fun bytes present => carry bytes present (empty bytes present)
      · rintro rfl
        rfl

namespace Appending

variable {settings : BufferSettings} {upload : Upload} {route : Route}
  {appending : Appending} {taken : List Bytes}

/-- An append on a route that has taken some deliveries. -/
inductive Took (settings : BufferSettings) (upload : Upload)
    (taken : List Bytes) : Route → Appending → Prop where
  | buffered {transfer : Transfer}
      (took : transfer.Took settings upload taken) :
      Took settings upload taken .buffered (.buffered transfer)
  | streamed {target : StreamTarget} (size : Option Nat)
      (carries : target.Carries upload taken.flatten) :
      Took settings upload taken (.streamed size) (.streamed target)

theorem took_begin (begun : begin? settings route upload = some appending) :
    Took settings upload [] route appending := by
  have carries := carries_begin begun
  cases route with
  | buffered =>
      rcases Option.map_eq_some_iff.1 begun with ⟨transfer, copying, rfl⟩
      rw [Transfer.begin?] at copying
      split at copying
      · cases copying
        exact .buffered ⟨carries, rfl, rfl⟩
      · cases copying
  | streamed size =>
      cases begun
      exact .streamed size carries

/-- What an append comes to that goes on with some deliveries. -/
structure Goes (settings : BufferSettings) (upload : Upload) (route : Route)
    (taken deliveries : List Bytes) (progress : AppendProgress) : Prop where
  waiting : progress.result = none →
    Took settings upload (taken ++ deliveries) route progress.appending
  refused : ∀ excess, progress.result
      = some (.error (.refused (.excess excess))) →
    ∃ more bytes rest, deliveries = more ++ bytes :: rest ∧
      progress.appending.content
        = upload.content ++ route.spilled settings (taken ++ more) ∧
      upload.Refuses (taken ++ more).flatten bytes excess

/-- An append that has ended well has not been refused, and does not wait. -/
theorem Goes.of_ok {progress : AppendProgress} {deliveries : List Bytes}
    {count : Nat} (ends : progress.result = some (.ok count)) :
    Goes settings upload route taken deliveries progress := by
  constructor
  · intro contrary
    rw [ends] at contrary
    cases contrary
  · intro excess contrary
    rw [ends] at contrary
    cases contrary

theorem advance_buffered_goes {transfer : Transfer}
    (took : transfer.Took settings upload taken) (body : Body)
    (cancelled : Bool) :
    Goes settings upload .buffered taken
      (Body.deliveries cancelled false ((buffered transfer).reads body))
      ((buffered transfer).advance body cancelled) := by
  have fed := Body.consumeAll_holds (Transfer.Took settings upload)
    (fun after taken bytes reason => ∃ excess, reason = .excess excess ∧
      after.sink.received = upload.content ++ settings.spilled taken ∧
      upload.Refuses taken.flatten bytes excess)
    (fun took consumed => took.accept consumed)
    (fun took consumed => took.refuse consumed) took
    (Body.deliveries cancelled false (body.inReads transfer.settings.readSize))
  rw [← Body.feed_eq] at fed
  rw [advance, Transfer.run, reads]
  generalize Body.feed Transfer.consume transfer cancelled false
    (body.inReads transfer.settings.readSize) = stopped at fed ⊢
  generalize Body.deliveries cancelled false
    (body.inReads transfer.settings.readSize) = deliveries at fed ⊢
  rcases stopped with ⟨after, rest, cancelled, stop⟩
  cases stop with
  | ended | cancelled =>
      have finished := (fed.carries.finish false).1
      apply Goes.of_ok
      simp only [finished]
      rfl
  | disconnected =>
      have finished := (fed.carries.finish true).1
      apply Goes.of_ok
      simp only [finished]
      rfl
  | paused =>
      constructor
      · intro _
        exact .buffered fed
      · intro excess contrary
        cases contrary
  | refused reason =>
      rcases fed with
        ⟨more, bytes, others, split, excess, rfl, received, beyond⟩
      constructor
      · intro contrary
        cases contrary
      · intro other same
        cases same
        exact ⟨more, bytes, others, split, received, beyond⟩

theorem advance_streamed_goes {target : StreamTarget} (size : Option Nat)
    (carries : target.Carries upload taken.flatten) (body : Body)
    (cancelled : Bool) :
    Goes settings upload (.streamed size) taken
      (Body.deliveries cancelled false ((streamed target).reads body))
      ((streamed target).advance body cancelled) := by
  have fed := Body.consumeAll_holds
    (fun (after : StreamTarget) taken => after.Carries upload taken.flatten)
    (fun (after : StreamTarget) taken bytes excess =>
      after.content.bytes = upload.content ++ taken.flatten ∧
      upload.Refuses taken.flatten bytes excess)
    (by
      intro state taken bytes after carries consumed
      rw [List.flatten_append, List.flatten_singleton]
      exact carries.accept consumed)
    (fun carries consumed => carries.refuse_excess consumed) carries
    (Body.deliveries cancelled false ((streamed target).reads body))
  rw [← Body.feed_eq] at fed
  rw [advance_streamed]
  generalize (streamed target).reads body = body at fed ⊢
  generalize Body.feed StreamTarget.consume target cancelled false body
    = stopped at fed ⊢
  generalize Body.deliveries cancelled false body = deliveries at fed ⊢
  rcases stopped with ⟨after, rest, cancelled, stop⟩
  cases stop with
  | ended | cancelled | disconnected => exact .of_ok rfl
  | paused =>
      constructor
      · intro _
        exact .streamed size fed
      · intro excess contrary
        cases contrary
  | refused excess =>
      rcases fed with ⟨more, bytes, others, split, content, beyond⟩
      constructor
      · intro contrary
        cases contrary
      · intro other same
        cases same
        exact ⟨more, bytes, others, split, content, beyond⟩

/-- An append goes on with what is delivered to it. -/
theorem advance_goes (took : Took settings upload taken route appending)
    (body : Body) (cancelled : Bool) :
    Goes settings upload route taken
      (Body.deliveries cancelled false (appending.reads body))
      (appending.advance body cancelled) := by
  cases took with
  | buffered took => exact advance_buffered_goes took body cancelled
  | streamed size carries =>
      exact advance_streamed_goes size carries body cancelled

end Appending

end ResumableUpload
