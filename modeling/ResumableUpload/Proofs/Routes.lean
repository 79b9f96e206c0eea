import ResumableUpload.Exchange.Handling
import ResumableUpload.Proofs.Solo.Append
/-!
# The two ways of an append

A body that is copied through a write buffer and a body that is taken as a
stream are counted differently: the copy adds what it has read to the offset,
up to the ceiling of sizes, and the stream looks at the size of the content
itself.  Below the ceiling both come to the same, whatever the sizes and the
layout of the write buffer.  So the two ways take the same reads, refuse the
same read for the same cause, and stop at the same place of the body:
`Appending.advance_agrees`.  `Server.append_agrees` says so of the store.
-/

namespace ResumableUpload

/-! ## Deliveries -/

/-- No more is delivered than there is data. -/
theorem Body.length_delivered_le (cancelled inRead : Bool) (body : Body) :
    (delivered cancelled inRead body).length ≤ body.size := by
  induction body generalizing cancelled inRead with
  | nil => exact Nat.le_refl 0
  | cons arrival rest hypothesis =>
      rw [delivered.eq_def]
      simp only
      split
      · exact Nat.zero_le _
      · cases arrival with
        | data bytes =>
            rw [List.length_append, size]
            exact Nat.add_le_add_left (hypothesis cancelled false) _
        | cancellation => exact hypothesis true true
        | failure | pause => exact Nat.zero_le _

/-- Cutting a body into reads does not change its size. -/
theorem Body.size_inReads (limit : Nat) (body : Body) :
    (body.inReads limit).size = body.size := by
  have adds (pieces : List Bytes) (rest : Body) :
      size (pieces.map .data ++ rest) = pieces.flatten.length + rest.size := by
    induction pieces with
    | nil => exact (Nat.zero_add _).symm
    | cons piece others hypothesis =>
        rw [List.map_cons, List.cons_append, size, hypothesis,
          List.flatten_cons, List.length_append, Nat.add_assoc]
  induction body with
  | nil => rfl
  | cons arrival rest hypothesis =>
      cases arrival with
      | data bytes =>
          rw [inReads, adds, Bytes.flatten_pieces, hypothesis, size]
      | cancellation | failure | pause => exact hypothesis

/-! ## One delivery -/

/-- Below the ceiling a budget counts all bytes. -/
theorem Budget.excess?_of_le {budget : Budget} {total : Nat}
    (below : budget.offset + total ≤ ceiling) :
    budget.excess? total
      = (budget.length.filter (· < budget.offset + total)).map
          (⟨budget.offset + total, ·⟩) := by
  rw [excess?]
  cases budget.length with
  | none => rfl
  | some length =>
      simp only [Nat.min_eq_left below, Option.filter_some, decide_eq_true_eq]
      split <;> rfl

section Deliveries

variable {upload : Upload} {transfer : Transfer} {target : StreamTarget}
  {taken : Bytes}

/-- A copy refuses a delivery exactly if there is no room for it. -/
theorem Transfer.Carries.refusal (carries : transfer.Carries upload taken)
    (bytes : Bytes) :
    (transfer.consume bytes).2
      = (Budget.excess? ⟨upload.offset, upload.length⟩
          (taken ++ bytes).length).map .excess := by
  rw [consume, List.length_append]
  simp only [carries.budget, carries.total]
  cases Budget.excess? ⟨upload.offset, upload.length⟩
      (taken.length + bytes.length) with
  | some excess => rfl
  | none =>
      simp only
      rw [writeBlocks_of_receptive]
      · rfl
      · exact carries.willing.receptive

/-- So does a stream, but it counts beyond the ceiling. -/
theorem StreamTarget.Carries.refusal (carries : target.Carries upload taken)
    (bytes : Bytes) :
    (target.consume bytes).2
      = (upload.length.filter
          (· < upload.offset + (taken ++ bytes).length)).map
          (⟨upload.offset + (taken ++ bytes).length, ·⟩) := by
  rw [consume, List.length_append, ← Nat.add_assoc]
  simp only [carries.size, carries.length]
  cases upload.length.filter
      (· < upload.offset + taken.length + bytes.length) <;> rfl

/-- A copy and a stream to one upload that have taken the same bytes. -/
structure Abreast (upload : Upload) (taken : Bytes) (transfer : Transfer)
    (target : StreamTarget) : Prop where
  copies : transfer.Carries upload taken
  streams : target.Carries upload taken

/-- Both take a delivery, or both refuse it for the same cause. -/
theorem Abreast.consume (abreast : Abreast upload taken transfer target)
    (bytes : Bytes)
    (below : upload.offset + (taken ++ bytes).length ≤ Budget.ceiling) :
    Body.Agree (Abreast upload (taken ++ bytes))
      (fun _ _ reason excess => reason = .excess excess)
      (transfer.consume bytes) (target.consume bytes) := by
  have refuses := abreast.copies.refusal bytes
  rw [Budget.excess?_of_le below, ← abreast.streams.refusal bytes] at refuses
  rcases copied : transfer.consume bytes with ⟨after, reason?⟩
  rcases streamed : target.consume bytes with ⟨after', excess?⟩
  rw [copied, streamed] at refuses
  cases excess? with
  | none =>
      cases refuses
      exact .taken ⟨abreast.copies.accept copied,
        abreast.streams.accept streamed⟩
  | some excess =>
      cases refuses
      exact .refused rfl

end Deliveries

/-! ## Whole appends -/

/--
Two appends to an upload that have come to the same after some bytes have been
delivered: both have put these bytes behind the content and counted them, or
both have failed for the same cause, and there is no room for all of them.
-/
inductive AppendProgress.Concur (upload : Upload) (delivered : Bytes) :
    AppendProgress → AppendProgress → Prop where
  | done {first second : Appending} {rest : Body} {cancelled : Bool}
      (content : first.content = upload.content ++ delivered)
      (content' : second.content = upload.content ++ delivered) :
      Concur upload delivered
        ⟨first, rest, cancelled, some (.ok delivered.length)⟩
        ⟨second, rest, cancelled, some (.ok delivered.length)⟩
  | refused {first second : Appending} {rest : Body} {cancelled : Bool}
      {excess : Excess} (exceeds : upload.Exceeds delivered.length) :
      Concur upload delivered
        ⟨first, rest, cancelled, some (.error (.refused (.excess excess)))⟩
        ⟨second, rest, cancelled, some (.error (.refused (.excess excess)))⟩

namespace Appending

variable {upload : Upload} {transfer : Transfer} {target : StreamTarget}
  {taken : Bytes}

/-- What has been taken by both is counted by both when the body ends. -/
theorem concur_of_abreast (abreast : Abreast upload taken transfer target)
    (rest : Body) (cancelled disconnected : Bool) :
    AppendProgress.Concur upload taken
      { appending := .buffered (transfer.finish disconnected).1
        rest := rest
        cancelled := cancelled
        result := some (match (transfer.finish disconnected).2 with
          | .ok copied => .ok copied.written
          | .error reason => .error (.ofCopyError reason)) }
      { appending := .streamed target
        rest := rest
        cancelled := cancelled
        result := some (.ok (target.content.size - target.start)) } := by
  rcases abreast.copies.finish disconnected with ⟨result, received⟩
  rw [abreast.streams.size, abreast.streams.start, Nat.add_sub_cancel_left,
    result]
  exact .done received abreast.streams.bytes

/--
A copy and a stream that have taken the same bytes come to the same with a body
that never keeps its reader waiting.
-/
theorem advance_concurs (abreast : Abreast upload taken transfer target)
    (reads : target.readSize = some transfer.settings.readSize) {body : Body}
    (flows : .pause ∉ body) (cancelled : Bool)
    (below : upload.offset + (taken ++ Body.delivered cancelled false
      (body.inReads transfer.settings.readSize)).length ≤ Budget.ceiling) :
    AppendProgress.Concur upload
      (taken ++ Body.delivered cancelled false
        (body.inReads transfer.settings.readSize))
      ((buffered transfer).advance body cancelled)
      ((streamed target).advance body cancelled) := by
  have step {taken' : Bytes} {transfer' : Transfer} {target' : StreamTarget}
      (bytes : Bytes) (abreast : Abreast upload taken' transfer' target')
      (within : taken' ++ bytes <+: taken ++ Body.delivered cancelled false
        (body.inReads transfer.settings.readSize)) :=
    abreast.consume bytes (Nat.le_trans
      (Nat.add_le_add_left within.length_le upload.offset) below)
  have fed := Body.feed_agrees_along step abreast cancelled false
    (body.inReads transfer.settings.readSize) List.prefix_rfl
  have stops := Body.feed_stops Transfer.consume transfer cancelled false
    (Body.pause_not_mem_inReads transfer.settings.readSize flows)
  rcases advance_buffered_leaves abreast.copies body cancelled with ⟨_, leaves⟩
  have failed := leaves.failed
  simp only [advance, Transfer.run, reads] at failed ⊢
  generalize Body.feed Transfer.consume _ _ _ _ = copied,
    Body.feed StreamTarget.consume _ _ _ _ = streamed at fed stops failed ⊢
  cases fed with
  | ended abreast => exact concur_of_abreast abreast _ _ false
  | cancelled abreast => exact concur_of_abreast abreast _ _ false
  | disconnected abreast => exact concur_of_abreast abreast _ _ true
  | paused _ => exact absurd (stops rfl).2 id
  | refused same =>
      cases same
      exact .refused (failed _ rfl).2

/--
Both ways of an append come to the same if there can be memory for the write
buffer and the body is not larger than a size can be.
-/
theorem exists_concur {settings : BufferSettings}
    (memory : settings.isAllocatable = true) {upload : Upload} {body : Body}
    (flows : .pause ∉ body)
    (small : upload.content.length + body.size ≤ Budget.ceiling)
    (cancelled : Bool) :
    ∃ copying streaming,
      begin? settings .buffered upload = some copying ∧
      begin? settings (.streamed (some settings.readSize)) upload
        = some streaming ∧
      AppendProgress.Concur upload
        (Body.delivered cancelled false (body.inReads settings.readSize))
        (copying.advance body cancelled)
        (streaming.advance body cancelled) := by
  have begins : Transfer.begin? settings ⟨upload.offset, upload.length⟩
      (.holding upload.content) = some
        { settings := settings
          budget := ⟨upload.offset, upload.length⟩
          sink := .holding upload.content } := if_pos memory
  have streams : begin? settings (.streamed (some settings.readSize)) upload
      = some (.streamed
          { start := upload.offset
            content := .ofBytes upload.content
            length := upload.length
            readSize := settings.readSize }) := rfl
  have less := Body.length_delivered_le cancelled false
    (body.inReads settings.readSize)
  rw [Body.size_inReads] at less
  have below : upload.offset + (Body.delivered cancelled false
      (body.inReads settings.readSize)).length ≤ Budget.ceiling := by
    rw [Upload.offset]
    omega
  have abreast := Abreast.mk (Transfer.carries_begin begins)
    (carries_begin streams)
  exact ⟨_, _, congrArg (Option.map buffered) begins, streams,
    advance_concurs abreast rfl flows cancelled below⟩

end Appending

/-! ## Appends to the store -/

/-- The answer to an action, if there is one at once. -/
def Performed.answer? {reply : Type} : Performed reply → Option reply
  | .answered answer _ _ => some answer
  | .waiting _ _ _ _ | .collapsed _ _ => none

namespace Server

variable {server : Server} {client : Client} {id : String} {upload : Upload}

/-- An append to a record that nobody uses begins unless the store fails. -/
theorem append_of_free (found : server.store.find? id = some upload)
    (free : server.line.isUsed id = false) {route : Route}
    (faultless : server.faults route.operation = []) :
    server.append client id route
      = (server.note (.appended id route)).beginAppend client id none route
          upload := by
  rw [append, nextFault]
  simp only [note, faultless, found, free]
  rfl

/-- An append that ends at once answers and leaves what it has written. -/
theorem beginAppend_of_result {route : Route} {appending after : Appending}
    {rest : Body} {cancelled : Bool} {result : Except Failure Nat}
    (begins : Appending.begin? server.settings route upload = some appending)
    (advances : appending.advance client.readable client.cancelled
      = ⟨after, rest, cancelled, some result⟩) :
    server.beginAppend client id none route upload
      = .answered result
          { client with body := rest, mayPass := false, cancelled := cancelled }
          ((server.changeRecord id Upload.beginChunk).changeRecord id
            fun upload => { upload with content := after.content }) := by
  rw [beginAppend]
  simp only [changeRecord, begins, advanceAppend, advances]
  rfl

/--
Whatever the size and the layout of the write buffer, if there can be memory for
it, the two ways to append a body to an upload answer the same and leave the
same of the body, as long as the upload and the body together are no larger than
a size can be.  The answer is the number of bytes that have been delivered, and
these are then behind the content and its last chunk; they fail only if there is
no room for all of these bytes.
-/
theorem append_agrees (found : server.store.find? id = some upload)
    (free : server.line.isUsed id = false)
    (faultless : ∀ route : Route, server.faults route.operation = [])
    (reads : server.settings.readSize = Handling.streamReadSize)
    (memory : server.settings.isAllocatable = true)
    (flows : .pause ∉ client.body)
    (small : upload.content.length + client.body.size ≤ Budget.ceiling) :
    ∃ result after copied streamed,
      server.append client id .buffered = .answered result after copied ∧
      server.append client id (.streamed (some Handling.streamReadSize))
        = .answered result after streamed ∧
      ((∃ excess, result = .error (.refused (.excess excess)) ∧
          upload.Exceeds (client.delivered server.settings .buffered).length) ∨
        result = .ok (client.delivered server.settings .buffered).length ∧
          copied.store.find? id = some
            (upload.appended (client.delivered server.settings .buffered)) ∧
          streamed.store = copied.store) := by
  have readable : client.readable = client.body := by
    rw [Client.readable, Body.passing, List.erase_of_not_mem flows, ite_self]
  rcases Appending.exists_concur memory flows small client.cancelled with
    ⟨copying, streaming, begins, begins', concur⟩
  rw [append_of_free found free (faultless _),
    append_of_free found free (faultless _)]
  rw [reads] at begins'
  rw [← readable] at concur
  change AppendProgress.Concur upload
    (client.delivered server.settings .buffered) _ _ at concur
  generalize first : copying.advance client.readable client.cancelled = copied,
    second : streaming.advance client.readable client.cancelled = streamed
    at concur
  cases concur with
  | done content content' =>
      refine ⟨_, _, _, _, beginAppend_of_result begins first,
        beginAppend_of_result begins' second, .inr ⟨rfl, ?_, ?_⟩⟩
      · simp only [changeRecord, note, Store.find?_modify_self, found, content]
        rfl
      · simp only [changeRecord, note, content, content']
  | refused exceeds =>
      exact ⟨_, _, _, _, beginAppend_of_result begins first,
        beginAppend_of_result begins' second, .inl ⟨_, rfl, exceeds⟩⟩

/-- A server with one upload, of which one byte is there. -/
def keepingOne (settings : BufferSettings) : Server where
  settings := settings
  store := { uploads := [("~0~", { content := [104] })], created := 1 }

/-- The connection fails after four bytes more. -/
theorem append_agrees_of_broken :
    ∃ after copied streamed,
      (keepingOne {}).append
          { body := [.data [101, 108], .data [108, 111], .failure] } "~0~"
          .buffered = .answered (.ok 4) after copied ∧
      (keepingOne {}).append
          { body := [.data [101, 108], .data [108, 111], .failure] } "~0~"
          (.streamed (some Handling.streamReadSize))
        = .answered (.ok 4) after streamed ∧
      copied.store.find? "~0~" = some
        { content := [104, 101, 108, 108, 111], chunkStart := some 1 } ∧
      streamed.store = copied.store := by
  rcases @append_agrees (keepingOne {})
      { body := [.data [101, 108], .data [108, 111], .failure] } "~0~"
      { content := [104] } (by decide +kernel) (by decide +kernel)
      (fun _ => rfl) rfl rfl (by decide) (by decide +kernel)
    with ⟨result, after, copied, streamed, copies, streams, failed | done⟩
  · rcases failed with ⟨-, -, _, known, -⟩
    cases known
  · rcases done with ⟨rfl, found, same⟩
    have delivered : Client.delivered {} .buffered
        { body := [.data [101, 108], .data [108, 111], .failure] }
          = [101, 108, 108, 111] := by decide +kernel
    have settings : (keepingOne {}).settings = {} := rfl
    rw [settings, delivered] at copies streams found
    exact ⟨after, copied, streamed, copies, streams, found, same⟩

/--
Where there is no memory for the write buffer a copy breaks off, and a stream
does not need any.
-/
theorem append_disagrees_without_memory :
    (keepingOne { writeSize := 9223372036854775808 }).settings.readSize
        = Handling.streamReadSize ∧
      ((keepingOne { writeSize := 9223372036854775808 }).append
        { body := [.data [101, 108, 108, 111]] } "~0~"
        .buffered).answer?.isNone = true ∧
      ((keepingOne { writeSize := 9223372036854775808 }).append
        { body := [.data [101, 108, 108, 111]] } "~0~"
        (.streamed (some Handling.streamReadSize))).answer?.bind
          Except.toOption = some 4 := by
  refine ⟨rfl, ?_, ?_⟩ <;> decide +kernel

end Server

end ResumableUpload
