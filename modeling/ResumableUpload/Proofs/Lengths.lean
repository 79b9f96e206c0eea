import ResumableUpload.Proofs.Solo.Life
/-!
# Lengths

An upload never has more bytes than its length, and its length is never more
than the server accepts: `Server.live_content_le_length`.  A length is declared
when the upload is created, declared later by a write, or follows from the
uploads that were joined; the store itself looks at none of this.  What carries
the proof is `Service.Accommodates`, which a creation brings about and every
deed keeps.
-/

namespace ResumableUpload

variable {service : Service} {upload written : Upload}

/--
The record of an upload is within its bounds: its content within its length,
and its length within what is accepted.  An upload that was joined from others
is complete from the beginning.
-/
structure Service.Accommodates (service : Service) (upload : Upload) :
    Prop where
  fits : ∀ length, upload.length = some length → upload.content.length ≤ length
  apart : upload.part.isJoined = false →
    ∀ length, upload.length = some length → service.AcceptsLength length
  joined : upload.part.isJoined = true →
    service.terms.supports .concatenation = true ∧
      upload.length = some upload.content.length ∧
      ∀ max, service.config.maxSize = some max →
        min upload.content.length Budget.ceiling ≤ max

/-- A length that is accepted is no obstacle to counting. -/
theorem Service.AcceptsLength.lt_ceiling {length : Nat}
    (accepts : service.AcceptsLength length) : length < Budget.ceiling :=
  Nat.lt_trans accepts.small (by decide)

namespace Service.Creates

variable {store : Store}

/-- What is created is within its bounds. -/
theorem accommodates (creates : service.Creates store upload) :
    service.Accommodates upload := by
  cases creates with
  | empty length? metadata part apart accepted =>
      refine ⟨fun length _ => Nat.zero_le length, fun _ => accepted, ?_⟩
      intro joined
      have apart : part.isJoined = false := apart
      rw [apart] at joined
      cases joined
  | joined metadata supported joins allowed =>
      refine ⟨fun length known => ?_, nofun, fun _ => ⟨supported, rfl, allowed⟩⟩
      cases known
      exact Nat.le_refl _

end Service.Creates

namespace Service.Writes

/-- A write has room for what it appends. -/
theorem fits (writes : service.Writes upload written)
    (before : service.Accommodates upload)
    (apart : upload.part.isJoined = false) (length : Nat)
    (known : written.length = some length) :
    written.content.length ≤ length := by
  rcases writes.content with ⟨kept, content, admits⟩
  have room : length < Budget.ceiling ∧ upload.content.length ≤ length := by
    rcases writes.length with same | ⟨fixed, fixes, given⟩
    · rw [same] at known
      exact ⟨(before.apart apart length known).lt_ceiling,
        before.fits length known⟩
    · rw [given] at known
      cases known
      exact ⟨fixes.accepted.lt_ceiling, fixes.offset_le⟩
  rw [content, List.length_append]
  exact admits length known room.1 room.2

/-- Nothing that was joined is written. -/
theorem isJoined_eq_false (writes : service.Writes upload written)
    (before : service.Accommodates upload) :
    upload.part.isJoined = false := by
  cases joined : upload.part.isJoined with
  | false => rfl
  | true =>
      rw [← joined]
      exact writes.notJoined (before.joined joined).1

theorem accommodates (writes : service.Writes upload written)
    (before : service.Accommodates upload) : service.Accommodates written := by
  have apart := writes.isJoined_eq_false before
  refine ⟨writes.fits before apart, fun _ length known => ?_, fun joined => ?_⟩
  · rcases writes.length with same | ⟨fixed, fixes, given⟩
    · rw [same] at known
      exact before.apart apart length known
    · rw [given] at known
      cases known
      exact fixes.accepted
  · rw [writes.part, apart] at joined
    cases joined

end Service.Writes

theorem Service.Revises.accommodates (revises : service.Revises upload written)
    (before : service.Accommodates upload) : service.Accommodates written := by
  cases revises with
  | same => exact before
  | written writes => exact writes.accommodates before
  | renewed => exact ⟨before.fits, before.apart, before.joined⟩

/-! ## Stores -/

/-- Ids are numbered, and every record is within its bounds. -/
structure Service.AccommodatesAll (service : Service) (store : Store) :
    Prop where
  numbered : store.IsNumbered
  records : ∀ id upload, store.find? id = some upload →
    service.Accommodates upload

namespace Service.AccommodatesAll

variable {before after : Store}

theorem empty (service : Service) : service.AccommodatesAll {} :=
  ⟨.empty, nofun⟩

theorem follows (all : service.AccommodatesAll before)
    (follows : Store.Follows service before after) :
    service.AccommodatesAll after := by
  refine ⟨follows.numbered, ?_⟩
  intro id upload found
  cases follows.traces id upload found with
  | revised earlier revises =>
      exact revises.accommodates (all.records id _ earlier)
  | created _ _ creates => exact creates.accommodates

/-- Whatever deeds are done, every record stays within its bounds. -/
theorem deeds (all : service.AccommodatesAll before)
    (deeds : Store.Deeds service before after) :
    service.AccommodatesAll after := by
  induction deeds with
  | refl => exact all
  | tail _ deed hypothesis =>
      exact hypothesis.follows (deed.follows hypothesis.numbered)

end Service.AccommodatesAll

namespace Server

variable {server : Server}

/-- All that is found on a server that began empty is within its bounds. -/
theorem IsQuiet.live_accommodatesAll (quiet : server.IsQuiet)
    (empty : server.store = {}) (occurrences : List Occurrence) :
    server.service.AccommodatesAll (server.live occurrences).store :=
  (empty ▸ Service.AccommodatesAll.empty server.service).deeds
    (quiet.live_succeeds occurrences).deeds

/--
Whatever happens to a server that began empty, an upload whose length is known
has no more bytes than that, and if the server accepts uploads up to a size, its
length is not more, as long as its bytes can be counted in 64 bits.
-/
theorem live_content_le_length (quiet : server.IsQuiet)
    (empty : server.store = {}) (occurrences : List Occurrence) {id : String}
    {upload : Upload} {length : Nat}
    (found : (server.live occurrences).store.find? id = some upload)
    (known : upload.length = some length) :
    upload.content.length ≤ length ∧
      ∀ max, server.service.config.maxSize = some max →
        upload.content.length ≤ Budget.ceiling → length ≤ max := by
  have within := (quiet.live_accommodatesAll empty occurrences).records id
    upload found
  refine ⟨within.fits length known, ?_⟩
  intro max limited counted
  cases joined : upload.part.isJoined with
  | false => exact (within.apart joined length known).allowed max limited
  | true =>
      rcases within.joined joined with ⟨-, complete, allowed⟩
      have bound := allowed max limited
      rw [Nat.min_eq_left counted] at bound
      rw [known] at complete
      cases complete
      exact bound

/-- So it is with a length that is fixed by a write, and a largest size. -/
theorem live_content_le_length_of_deferred :
    ∃ upload,
      (live { service := { config := { maxSize := some 8 } } }
        [.visit (.creating [(HeaderName.uploadDeferLength, "1")]),
          .visit (.writing "0" "hel" [(HeaderName.uploadLength, "5")])]
        ).store.find? "~0~" = some upload ∧
      upload.length = some 5 ∧ upload.content.length ≤ 5 ∧ 5 ≤ 8 := by
  have quiet : IsQuiet { service := { config := { maxSize := some 8 } } } :=
    ⟨rfl, fun _ => rfl⟩
  have found : (live { service := { config := { maxSize := some 8 } } }
      [.visit (.creating [(HeaderName.uploadDeferLength, "1")]),
        .visit (.writing "0" "hel" [(HeaderName.uploadLength, "5")])]
      ).store.find? "~0~"
      = some {
        content := Bytes.ofString "hel"
        length := some 5
        chunkStart := some 0 } := by
    decide +kernel
  rcases live_content_le_length quiet rfl _ found rfl with ⟨fits, allowed⟩
  exact ⟨_, found, rfl, fits, allowed 8 rfl (by decide +kernel)⟩

end Server

end ResumableUpload
