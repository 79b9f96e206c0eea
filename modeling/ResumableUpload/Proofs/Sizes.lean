import ResumableUpload.Proofs.Growth
/-!
# Uploads that are too large

A server may accept uploads up to a size only.  It looks at the size where a
length is declared and where uploads are joined, and not where bytes arrive.
So an upload whose length is known or that was joined from others is never too
large, but one whose length was deferred can be: `Server.live_oversized` says
that nothing else is, and that such an upload never gets a length, because every
length that a write could declare for it is refused.
-/

namespace ResumableUpload

variable {service : Service} {upload written : Upload} {max : Nat}

/-- An upload within its bounds that is too large has no length. -/
theorem Service.Accommodates.length_of_oversized
    (within : service.Accommodates upload)
    (limited : service.config.maxSize = some max)
    (apart : upload.part.isJoined = false)
    (beyond : max < upload.content.length) : upload.length = none := by
  cases known : upload.length with
  | none => rfl
  | some length =>
      have fits := within.fits length known
      have allowed := (within.apart apart length known).allowed max limited
      omega

/-- What uploads are joined to is not too large, as far as it is counted. -/
theorem Service.Accommodates.isJoined_of_oversized
    (within : service.Accommodates upload)
    (limited : service.config.maxSize = some max)
    (counted : upload.content.length ≤ Budget.ceiling)
    (beyond : max < upload.content.length) : upload.part.isJoined = false := by
  cases joined : upload.part.isJoined with
  | false => rfl
  | true =>
      have allowed := (within.joined joined).2.2 max limited
      rw [Nat.min_eq_left counted] at allowed
      omega

namespace Server

variable {server : Server}

/--
On a server that began empty and accepts uploads up to a size, an upload is
larger than that only if its length is not known and it was not joined from
others; and its length will not be known as long as the upload is there.
-/
theorem live_oversized (quiet : server.IsQuiet) (empty : server.store = {})
    (limited : server.service.config.maxSize = some max)
    (earlier : List Occurrence) {id : String}
    (found : (server.live earlier).store.find? id = some upload)
    (counted : upload.content.length ≤ Budget.ceiling)
    (beyond : max < upload.content.length) :
    upload.length = none ∧ upload.part.isJoined = false ∧
      ∀ later written,
        (server.live (earlier ++ later)).store.find? id = some written →
        max < written.content.length ∧ written.length = none := by
  have all := quiet.live_accommodatesAll empty earlier
  have within := all.records id upload found
  have apart := within.isJoined_of_oversized limited counted beyond
  refine ⟨within.length_of_oversized limited apart beyond, apart, ?_⟩
  intro later written left
  have after := (quiet.live_accommodatesAll empty (earlier ++ later)).records id
    written left
  have begun := quiet.live_succeeds earlier
  have ended := begun.quiet.live_succeeds later
  rw [live_append] at left
  rw [← begun.service] at all
  have grows := ended.deeds.grows all found left
  have larger : max < written.content.length :=
    Nat.lt_of_lt_of_le beyond grows.content.length_le
  exact ⟨larger,
    after.length_of_oversized limited (grows.part ▸ apart) larger⟩

/-- A server that accepts uploads of three bytes and less. -/
def acceptingThree : Server where
  service := { config := { maxSize := some 3 } }

/-- An upload of a deferred length, and five bytes that are written to it. -/
def deferringFive : List Occurrence :=
  [.visit (.creating [(HeaderName.uploadDeferLength, "1")]),
    .visit (.writing "0" "hello" [])]

/-- So the largest size does not bound what is stored. -/
theorem live_exceeds_maxSize :
    acceptingThree.service.config.maxSize = some 3 ∧
      ∃ upload,
        (acceptingThree.live deferringFive).store.find? "~0~" = some upload ∧
        upload.content.length = 5 := by
  refine ⟨rfl, ⟨{
    content := Bytes.ofString "hello"
    chunkStart := some 0 }, ?_, ?_⟩⟩
  · decide +kernel
  · decide +kernel

/-- And the upload never gets a length, whatever is declared for it. -/
theorem live_oversized_of_deferred :
    ∃ upload,
      (acceptingThree.live deferringFive).store.find? "~0~" = some upload ∧
      upload.length = none ∧
      ∀ length written,
        (acceptingThree.live (deferringFive ++ [.visit (.writing "5" ""
          [(HeaderName.uploadLength, length)])])).store.find? "~0~"
          = some written →
        written.length = none := by
  have quiet : acceptingThree.IsQuiet := ⟨rfl, fun _ => rfl⟩
  have found : (acceptingThree.live deferringFive).store.find? "~0~"
      = some {
        content := Bytes.ofString "hello"
        chunkStart := some 0 } := by
    decide +kernel
  rcases live_oversized quiet rfl rfl deferringFive found (by decide +kernel)
      (by decide +kernel) with ⟨unknown, -, still⟩
  exact ⟨_, found, unknown, fun length written left =>
    (still _ written left).2⟩

end Server

end ResumableUpload
