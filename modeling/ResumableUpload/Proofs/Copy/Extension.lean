import ResumableUpload.Proofs.Copy.Feed
import ResumableUpload.Proofs.Copy.Sinks
import ResumableUpload.Store.Append
/-!
# Appends only add

Whatever a sink does with the blocks it is offered, and however an append ends
or is kept waiting, what has been written once stays where it is:
`Appending.content_advance`.
-/

namespace ResumableUpload

namespace Transfer

theorem received_writeBlocks (transfer : Transfer) (blocks : List Bytes) :
    transfer.sink.received
      <+: (transfer.writeBlocks blocks).1.sink.received := by
  have written := transfer.sink.received_writeAll blocks
  rw [writeBlocks]
  generalize transfer.sink.writeAll blocks = result at written ⊢
  rcases result with ⟨sink, none | reason⟩ <;> exact written

theorem received_consume (transfer : Transfer) (delivery : Bytes) :
    transfer.sink.received <+: (transfer.consume delivery).1.sink.received := by
  rw [consume]
  simp only
  split
  · exact List.prefix_rfl
  · exact received_writeBlocks
      { transfer with
        total := transfer.total + delivery.length
        held := (transfer.settings.absorb transfer.held delivery).2 } _

theorem received_finish (transfer : Transfer) (disconnected : Bool) :
    transfer.sink.received
      <+: (transfer.finish disconnected).1.sink.received := by
  have written := transfer.received_writeBlocks
    (transfer.settings.drain transfer.held)
  rw [finish]
  generalize transfer.writeBlocks (transfer.settings.drain transfer.held)
    = result at written ⊢
  rcases result with ⟨after, none | reason⟩ <;> exact written

end Transfer

theorem StreamTarget.bytes_consume (target : StreamTarget) (chunk : Bytes) :
    target.content.bytes <+: (target.consume chunk).1.content.bytes := by
  rw [consume]
  split
  · exact List.prefix_rfl
  · rw [Pile.bytes_push]
    exact List.prefix_append _ _

namespace Appending

/-- An append begins with the content of the upload. -/
theorem content_begin {settings : BufferSettings} {route : Route}
    {upload : Upload} {appending : Appending}
    (begun : begin? settings route upload = some appending) :
    appending.content = upload.content := by
  cases route with
  | buffered =>
      rcases Option.map_eq_some_iff.1 begun with ⟨transfer, copying, rfl⟩
      rw [Transfer.begin?] at copying
      split at copying
      · cases copying
        exact Pile.bytes_ofBytes upload.content
      · cases copying
  | streamed readSize =>
      cases begun
      exact Pile.bytes_ofBytes upload.content

/-- What an append has written is not taken back while it goes on. -/
theorem content_advance (appending : Appending) (body : Body)
    (cancelled : Bool) :
    appending.content
      <+: (appending.advance body cancelled).appending.content := by
  cases appending with
  | buffered transfer =>
      have fed := @Body.feed_keeps _ _ Transfer.consume
        (fun after => transfer.sink.received <+: after.sink.received)
        (fun after delivery kept =>
          kept.trans (after.received_consume delivery))
        transfer List.prefix_rfl cancelled false
        (body.inReads transfer.settings.readSize)
      simp only [advance, Transfer.run, content]
      split
      · exact fed.trans (Transfer.received_finish _ _)
      · exact fed.trans (Transfer.received_finish _ _)
      · exact fed.trans (Transfer.received_finish _ _)
      · exact fed
      · exact fed
  | streamed target =>
      simp only [advance, content]
      exact @Body.feed_keeps _ _ StreamTarget.consume
        (fun after => target.content.bytes <+: after.content.bytes)
        (fun after chunk kept => kept.trans (after.bytes_consume chunk))
        target List.prefix_rfl cancelled false _

end Appending

end ResumableUpload
