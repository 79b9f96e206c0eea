import ResumableUpload.Proofs.Lengths
/-!
# Growth

Of an upload that is there before and after something has happened, nothing is
lost: its bytes are the first of those it has afterwards, and what is known of
it stays as it is.  `Server.live_grows` says so for any two states of a server
that began empty, so for a single request as well as for many of them.

That it is the same upload, and not another one under its id, is due to the
numbering of ids.  That nothing joined is ever written needs the invariant on
lengths: a server that has joined uploads looks at the parts of uploads.
-/

namespace ResumableUpload

variable {service : Service}

/--
An upload later in its life: bytes may have been appended, and a length may
have become known, but nothing has changed that was known before.
-/
structure Upload.Grows (before after : Upload) : Prop where
  content : before.content <+: after.content
  length : ∀ length, before.length = some length → after.length = some length
  metadata : after.metadata = before.metadata
  part : after.part = before.part
  joined : before.part.isJoined = true → after.content = before.content

namespace Upload.Grows

variable {before middle after : Upload}

theorem refl (upload : Upload) : Grows upload upload :=
  ⟨List.prefix_rfl, fun _ known => known, rfl, rfl, fun _ => rfl⟩

theorem trans (first : Grows before middle) (second : Grows middle after) :
    Grows before after where
  content := first.content.trans second.content
  length length known := second.length length (first.length length known)
  metadata := second.metadata.trans first.metadata
  part := second.part.trans first.part
  joined joined :=
    (second.joined (first.part ▸ joined)).trans (first.joined joined)

/-- An upload that is complete stays so, as long as it is within its bounds. -/
theorem isComplete (grows : Grows before after)
    (within : service.Accommodates after)
    (complete : before.isComplete = true) : after.isComplete = true := by
  have known : before.length = some before.content.length := eq_of_beq complete
  have still := grows.length _ known
  have fits := within.fits _ still
  have more := grows.content.length_le
  have same : before.content.length = after.content.length := by omega
  rw [Upload.isComplete, Upload.offset, still, same]
  exact beq_self_eq_true _

end Upload.Grows

/-- A write that may be done at all only adds to an upload. -/
theorem Service.Writes.grows {upload written : Upload}
    (writes : service.Writes upload written)
    (before : service.Accommodates upload) : upload.Grows written where
  content := by
    rcases writes.content with ⟨kept, content, -⟩
    exact ⟨kept, content.symm⟩
  length length known := by
    rcases writes.length with same | ⟨fixed, fixes, -⟩
    · rw [same, known]
    · rw [fixes.unknown] at known
      cases known
  metadata := writes.metadata
  part := writes.part
  joined joined := by
    rw [writes.isJoined_eq_false before] at joined
    cases joined

theorem Service.Revises.grows {upload written : Upload}
    (revises : service.Revises upload written)
    (before : service.Accommodates upload) : upload.Grows written := by
  cases revises with
  | same => exact .refl upload
  | written writes => exact writes.grows before
  | renewed => exact ⟨List.prefix_rfl, fun _ known => known, rfl, rfl,
      fun _ => rfl⟩

namespace Store

variable {before after : Store} {id : String}

theorem Deeds.created_le (numbered : before.IsNumbered)
    (deeds : Deeds service before after) :
    after.IsNumbered ∧ before.created ≤ after.created := by
  induction deeds with
  | refl => exact ⟨numbered, Nat.le_refl _⟩
  | tail _ deed hypothesis =>
      have follows := deed.follows hypothesis.1
      exact ⟨follows.numbered, Nat.le_trans hypothesis.2 follows.created_le⟩

/-- An upload that is found before and after some deeds has grown. -/
theorem Deeds.grows (all : service.AccommodatesAll before)
    (deeds : Deeds service before after) {upload written : Upload}
    (found : before.find? id = some upload)
    (left : after.find? id = some written) : upload.Grows written := by
  -- The last deed is taken off, so that the first store stays in place.
  induction deeds generalizing written with
  | refl =>
      rw [found] at left
      cases left
      exact .refl upload
  | @tail middle last earlier deed hypothesis =>
      have within := all.deeds earlier
      cases (deed.follows within.numbered).traces id written left with
      | revised there revises =>
          exact (hypothesis there).trans
            (revises.grows (within.records id _ there))
      | created fresh =>
          -- The id is one that has not been given, but it was there at first.
          have older := (Deeds.created_le all.numbered earlier).2
          have absent := all.numbered.find?_next older
          rw [fresh, found] at absent
          cases absent

/-- An upload that is found at two times is found at all times between them. -/
theorem Deeds.exists_between {middle : Store} (numbered : before.IsNumbered)
    (first : Deeds service before middle) (second : Deeds service middle after)
    {upload written : Upload} (found : before.find? id = some upload)
    (left : after.find? id = some written) :
    ∃ kept, middle.find? id = some kept := by
  induction second generalizing written with
  | refl => exact ⟨written, left⟩
  | @tail last _ earlier deed hypothesis =>
      have so_far := Deeds.created_le numbered (first.trans earlier)
      cases (deed.follows so_far.1).traces id written left with
      | revised there revises => exact hypothesis there
      | created fresh =>
          -- The id has just been given for the first time.
          have absent := numbered.find?_next so_far.2
          rw [fresh, found] at absent
          cases absent

end Store

namespace Server

variable {server : Server}

/--
On a server that began empty, an upload that is there at two times has only
grown between them, whatever happened, and however requests were answered.
-/
theorem live_grows (quiet : server.IsQuiet) (empty : server.store = {})
    (earlier later : List Occurrence) {id : String} {upload written : Upload}
    (found : (server.live earlier).store.find? id = some upload)
    (left : (server.live (earlier ++ later)).store.find? id = some written) :
    upload.Grows written := by
  have begun := quiet.live_succeeds earlier
  have ended := begun.quiet.live_succeeds later
  have all := quiet.live_accommodatesAll empty earlier
  rw [live_append] at left
  rw [← begun.service] at all
  exact ended.deeds.grows all found left

/-- So it is with an upload that is written and whose length is fixed. -/
theorem live_grows_by_write :
    ∃ upload written,
      (live {} [.visit (.creating [(HeaderName.uploadDeferLength, "1")])]
        ).store.find? "~0~" = some upload ∧
      (live {} [.visit (.creating [(HeaderName.uploadDeferLength, "1")]),
        .visit (.writing "0" "hel" [(HeaderName.uploadLength, "5")])]
        ).store.find? "~0~" = some written ∧
      upload.Grows written ∧ written.length = some 5 := by
  have quiet : ({} : Server).IsQuiet := ⟨rfl, fun _ => rfl⟩
  have found : (live {} [.visit (.creating
      [(HeaderName.uploadDeferLength, "1")])]).store.find? "~0~"
      = some {} := by
    decide +kernel
  have left : (live {} ([.visit (.creating
      [(HeaderName.uploadDeferLength, "1")])] ++ [.visit (.writing "0" "hel"
        [(HeaderName.uploadLength, "5")])])).store.find? "~0~"
      = some {
        content := Bytes.ofString "hel"
        length := some 5
        chunkStart := some 0 } := by
    decide +kernel
  have grows := live_grows quiet rfl _ _ found left
  exact ⟨_, _, found, left, grows, rfl⟩

end Server

end ResumableUpload
