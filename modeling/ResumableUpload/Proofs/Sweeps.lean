import Mathlib.Data.List.Nodup
import ResumableUpload.Proofs.Metadata
import ResumableUpload.Proofs.Solo.Rejecting
/-!
# Sweeps

A sweep removes the dead from a store: the uploads whose life is over and which
are not complete.  The store lists them by looking through its records, and then
erases them one after another; `Store.sweep_eq_foldl_erase` says that this is
the store without its dead.  Everything else stays as it is, and there is
nothing left for a second sweep.

On a server that began empty nothing is swept away that was joined from others,
because that is complete from the beginning, nor what somebody who asks at that
time would still be told of.  For this the sweep and the requirement that an
upload is alive have to agree, also where the server has no policy or the store
keeps no ends of lives: there is no end of a life then, which is carried by
`Store.IsImmortal`.  `Server.sweeps_dead` puts all of this together.
-/

namespace ResumableUpload

variable {service : Service} {exchange : Exchange} {scene after : Scene}
  {upload written : Upload} {id : String} {now : Instant}

/-! ## The dead of a store -/

theorem Upload.isDead_iff :
    upload.isDead now = true ↔
      upload.isOver now = true ∧
        upload.length ≠ some upload.content.length := by
  rw [isDead, isOver, isComplete, offset, Bool.and_eq_true,
    Bool.not_eq_true', beq_eq_false_iff_ne]

namespace Store

variable {store : Store}

/-- If no id is given twice, then an id leads to every record. -/
theorem find?_eq_some_iff (distinct : store.ids.Nodup) :
    store.find? id = some upload ↔ (id, upload) ∈ store.uploads := by
  constructor
  · intro found
    obtain ⟨⟨_, _⟩, here, rfl⟩ := Option.map_eq_some_iff.1 found
    have same := List.find?_some here
    simp only [beq_iff_eq] at same
    exact same ▸ List.mem_of_find?_eq_some here
  · intro present
    obtain ⟨other, found⟩ := exists_find?_of_mem_ids
      (List.mem_map_of_mem present : id ∈ store.ids)
    obtain ⟨entry, here, rfl⟩ := Option.map_eq_some_iff.1 found
    have same : entry.1 = id := by simpa using List.find?_some here
    have unique : entry = (id, upload) := List.inj_on_of_nodup_map distinct
      (List.mem_of_find?_eq_some here) present same
    rw [found, unique]

/-- Listed are the ids of the uploads that are dead. -/
theorem mem_dead_iff (distinct : store.ids.Nodup) :
    id ∈ store.dead now ↔
      ∃ upload, store.find? id = some upload ∧ upload.isDead now = true := by
  simp only [dead, List.mem_map, List.mem_filter, find?_eq_some_iff distinct]
  constructor
  · rintro ⟨⟨_, upload⟩, ⟨present, dead⟩, rfl⟩
    exact ⟨upload, present, dead⟩
  · rintro ⟨upload, present, dead⟩
    exact ⟨(id, upload), ⟨present, dead⟩, rfl⟩

theorem foldl_erase (store : Store) (ids : List String) :
    ids.foldl erase store
      = { store with uploads := store.uploads.filter (·.1 ∉ ids) } := by
  induction ids generalizing store with
  | nil =>
      rw [List.foldl_nil, List.filter_eq_self.2 (by simp)]
  | cons first rest hypothesis =>
      rw [List.foldl_cons, hypothesis, erase, List.filter_filter]
      congr 2
      funext entry
      rw [Bool.eq_iff_iff]
      simp [and_comm]

/-- To erase the dead one after another is to keep those that are not dead. -/
theorem sweep_eq_foldl_erase (distinct : store.ids.Nodup) (now : Instant) :
    store.sweep now = (store.dead now).foldl erase store := by
  rw [foldl_erase, sweep]
  congr 1
  apply List.filter_congr
  rintro ⟨id, upload⟩ present
  have found := (find?_eq_some_iff distinct).2 present
  have listed : id ∈ store.dead now ↔ upload.isDead now = true := by
    rw [mem_dead_iff distinct, found]
    simp
  simp [listed]

theorem dead_sweep (store : Store) (now : Instant) :
    (store.sweep now).dead now = [] := by
  simp [dead, sweep, List.filter_filter]

theorem sweep_sweep (store : Store) (now : Instant) :
    (store.sweep now).sweep now = store.sweep now := by
  simp [sweep, List.filter_filter]

/-- What is not dead outlasts a sweep. -/
theorem find?_sweep_of_not_mem_dead (distinct : store.ids.Nodup)
    (spared : id ∉ store.dead now) :
    (store.sweep now).find? id = store.find? id := by
  rw [find?_sweep distinct]
  cases found : store.find? id with
  | none => rfl
  | some upload =>
      have lives : upload.isDead now = false := Bool.eq_false_iff.2 fun dead =>
        spared ((mem_dead_iff distinct).2 ⟨upload, found, dead⟩)
      rw [Option.filter_some, lives]
      rfl

/--
What is listed and removed at an instant: each upload whose life is over by then
and which is not complete, once; an upload whose length is not known is not
complete.
-/
structure SweepsDead (store : Store) (now : Instant) : Prop where
  listed : ∀ id, id ∈ store.dead now ↔ ∃ upload expiry,
    store.find? id = some upload ∧ upload.expiry = some expiry ∧
      expiry.before now = true ∧ upload.length ≠ some upload.content.length
  once : (store.dead now).Nodup
  lists : store.answer now .expired = (.ok (store.dead now), store)
  removes : store.answer now .removeExpired
    = (.ok (store.dead now).length, store.sweep now)
  oneByOne : store.sweep now = (store.dead now).foldl erase store
  removed : ∀ id ∈ store.dead now, (store.sweep now).find? id = none
  others : ∀ id, id ∉ store.dead now →
    (store.sweep now).find? id = store.find? id
  fewer : (store.sweep now).uploads.length + (store.dead now).length
    = store.uploads.length
  again : (store.sweep now).answer now .removeExpired
    = (.ok 0, store.sweep now)

/-- If no id is given twice, then all of this is so at every instant. -/
theorem sweepsDead (distinct : store.ids.Nodup) (now : Instant) :
    store.SweepsDead now where
  listed id := by
    rw [mem_dead_iff distinct]
    simp only [Upload.isDead_iff, Upload.isOver, Option.any_eq_true]
    constructor
    · rintro ⟨upload, found, ⟨expiry, dated, past⟩, unfinished⟩
      exact ⟨upload, expiry, found, dated, past, unfinished⟩
    · rintro ⟨upload, expiry, found, dated, past, unfinished⟩
      exact ⟨upload, found, ⟨expiry, dated, past⟩, unfinished⟩
  once := distinct.sublist (List.filter_sublist.map Prod.fst)
  lists := rfl
  removes := rfl
  oneByOne := sweep_eq_foldl_erase distinct now
  removed id listed := by
    obtain ⟨upload, found, dead⟩ := (mem_dead_iff distinct).1 listed
    rw [find?_sweep distinct, found, Option.filter_some, dead]
    rfl
  others id spared := find?_sweep_of_not_mem_dead distinct spared
  fewer := by
    rw [dead, List.length_map, sweep, Nat.add_comm]
    exact (List.length_eq_length_filter_add
      fun entry : String × Upload => entry.2.isDead now).symm
  again := by
    change (Except.ok ((store.sweep now).dead now).length,
      (store.sweep now).sweep now) = _
    rw [dead_sweep, sweep_sweep]
    rfl

end Store

/-! ## Lives without an end -/

/-- No life in a store has an end. -/
def Store.IsImmortal (store : Store) : Prop :=
  ∀ id upload, store.find? id = some upload → upload.expiry = none

theorem Service.Creates.expiry {store : Store}
    (creates : service.Creates store upload) : upload.expiry = none := by
  cases creates <;> rfl

/-- Without a policy no life is given an end. -/
theorem Service.Revises.expiry (unlimited : Lifetime.policy? service = none)
    (revises : service.Revises upload written) :
    written.expiry = upload.expiry := by
  cases revises with
  | same => rfl
  | written writes => exact writes.expiry unlimited
  | renewed expiry limited => exact absurd unlimited limited

theorem Store.Deeds.isImmortal {before after : Store}
    (unlimited : Lifetime.policy? service = none)
    (numbered : before.IsNumbered) (immortal : before.IsImmortal)
    (deeds : Deeds service before after) : after.IsImmortal := by
  induction deeds with
  | refl => exact immortal
  | tail earlier deed hypothesis =>
      have follows := deed.follows (created_le numbered earlier).1
      intro id upload found
      cases follows.traces id upload found with
      | revised there revises =>
          exact (revises.expiry unlimited).trans (hypothesis id _ there)
      | created _ _ creates => exact creates.expiry

/-! ## Questions about uploads -/

/-- Where ends of lives are kept, what is found alive is not past its end. -/
theorem Requirement.isOver_eq_false_of_alive
    (supported : service.terms.supports .expiration = true)
    (found : scene.store.find? exchange.fileId = some upload)
    (ends : (alive service exchange).play scene
      = .finished (.ok (.ok ())) after) :
    upload.isOver scene.clock = false := by
  have asked : (service.call (.expiry exchange.fileId)).play scene
      = .finished (.ok upload.expiry) scene := by
    rw [Attempt.play_serviceCall rfl (Terms.grants_of_supports rfl supported),
      Scene.call_expiry found]
  rw [alive, if_pos supported, Check.play_bind, Check.play_attempt, asked]
    at ends
  simp only [Played.finished_andThen, Attempt.orFailure_ok, Check.orRejection]
    at ends
  rw [Upload.isOver]
  cases dated : upload.expiry with
  | none => rfl
  | some expiry =>
      rw [dated] at ends
      rw [Check.play_bind, Check.play_attempt, Attempt.play_now] at ends
      split at ends
      · simp only [Played.finished_andThen, Attempt.orFailure_ok,
          Check.orRejection] at ends
        split at ends
        · cases ends
        · rename_i later
          simpa using later
      · cases ends

namespace Protocol

variable {request : Request} {response : Response}

/-- Who is told how far an upload is asks about one that is alive. -/
theorem handleIntent_info_lives {done : Exchange}
    (supported : service.terms.supports .expiration = true)
    (passes : (handleIntent .fileInfo (.info service) exchange).Passes scene)
    (ends : (handleIntent .fileInfo (.info service) exchange).play scene
      = .finished (.ok done) after) (status : done.response.status = 200) :
    ∃ upload, scene.store.find? exchange.fileId = some upload ∧
      upload.isOver scene.clock = false := by
  obtain ⟨checked, outcome, asked, told, last, sight, checks, -⟩ :=
    handleIntent_done (Handling.ofIntent?.eq_def service .fileInfo) passes ends
      (by omega)
  rcases Check.bind_ends_well checks with ⟨_, middle, present, checks⟩
  obtain ⟨⟨upload, found⟩, rfl⟩ := Requirement.exists_found_of_present present
  rcases Check.bind_ends_well checks with ⟨_, _, alive, -⟩
  have lives := Requirement.isOver_eq_false_of_alive supported found alive
  rw [sight.store] at found
  rw [sight.ground.clock] at lives
  exact ⟨upload, found, lives⟩

/-- A question about an upload that is answered is about one that is alive. -/
theorem handle_head_lives
    (supported : service.terms.supports .expiration = true)
    (asks : request.AsksAbout service id)
    (passes : (handle service request).Passes scene)
    (ends : (handle service request).play scene
      = .finished (.ok (.respond response)) after)
    (status : response.status = 200) :
    ∃ upload, scene.store.find? id = some upload ∧
      upload.isOver scene.clock = false := by
  obtain ⟨method, named⟩ := asks
  rcases intentsOf_of_head method service with asked | asked
  · have about : (Exchange.ofRequest service request).fileId = id :=
      congrArg (Option.getD · "") named
    rw [play_handle_of_single asked rfl] at ends
    obtain ⟨done, handles, rfl⟩ := Played.respond_ends.1 ends
    exact about ▸ handleIntent_info_lives supported
      (handle_passes_first asked rfl passes) handles status
  · rw [play_handle_of_notApplicable asked] at ends
    cases ends

end Protocol

namespace Server

/--
Nothing that a sweep would remove now or at any other time was joined from
others, and nothing that it would remove now is told of to whoever asks about
it now, unless the host stops the question.
-/
structure SparesLiving (server : Server) : Prop where
  joined : ∀ now id upload, server.store.find? id = some upload →
    upload.part.isJoined = true →
    (server.store.sweep now).find? id = some upload
  told : ∀ id (question : Visit) response,
    question.request.AsksAbout server.service id →
    (∀ act ∈ server.acts question, act.stops = false) →
    (server.visit question).1.response? = some response →
    response.status = 200 →
    ∃ upload, server.store.find? id = some upload ∧
      (server.store.sweep server.clock).find? id = some upload

theorem IsQuiet.live_sparesLiving {start : Server} (quiet : start.IsQuiet)
    (empty : start.store = {}) (occurrences : List Occurrence) :
    (start.live occurrences).SparesLiving := by
  have succeeds := quiet.live_succeeds occurrences
  have within := quiet.live_accommodatesAll empty occurrences
  have distinct := within.numbered.distinct
  generalize start.live occurrences = server at succeeds within distinct ⊢
  -- Whoever is not dead is spared.
  have spared {now : Instant} {id : String} {upload : Upload}
      (found : server.store.find? id = some upload)
      (lives : upload.isDead now = false) :
      (server.store.sweep now).find? id = some upload := by
    rw [Store.find?_sweep distinct, found, Option.filter_some, lives]
    rfl
  constructor
  · intro now id upload found joined
    refine spared found (Bool.eq_false_iff.2 fun dead => ?_)
    exact (Upload.isDead_iff.1 dead).2
      ((within.records id upload found).joined joined).2.1
  · intro id question response asks unstopped answered status
    obtain ⟨after, ends⟩ := succeeds.quiet.play_of_response? answered
    rw [succeeds.quiet.acts_eq] at unstopped
    cases supported : server.service.terms.supports .expiration with
    | true =>
        obtain ⟨upload, found, lives⟩ :=
          Protocol.handle_head_lives supported asks unstopped ends status
        have spares : upload.isDead server.clock = false :=
          Bool.eq_false_iff.2 fun dead =>
            Bool.eq_false_iff.1 lives (Upload.isDead_iff.1 dead).1
        exact ⟨upload, found, spared found spares⟩
    | false =>
        -- There is no policy then, and so no end of a life.
        obtain ⟨upload, -, -, found, -⟩ :=
          Protocol.handle_head_answers asks unstopped ends status
        have unlimited : Lifetime.policy? start.service = none := by
          rw [Lifetime.policy?, ← succeeds.service, supported]
          rfl
        have immortal : server.store.IsImmortal :=
          succeeds.deeds.isImmortal unlimited (empty ▸ .empty)
            fun _ _ found => by rw [empty] at found; cases found
        refine ⟨upload, found, spared found ?_⟩
        rw [Upload.isDead, immortal id upload found]
        rfl

/--
A store in which no id is given twice lists and removes its dead, and nothing
else; and on a server that began empty a sweep spares what was joined from
others and what somebody who asks at that time is told of, without being stopped
by the host.
-/
theorem sweeps_dead :
    (∀ (store : Store) (now : Instant), store.ids.Nodup →
      store.SweepsDead now) ∧
    ∀ (start : Server) (occurrences : List Occurrence), start.IsQuiet →
      start.store = {} → (start.live occurrences).SparesLiving :=
  ⟨fun _ now distinct => Store.sweepsDead distinct now,
    fun _ occurrences quiet empty => quiet.live_sparesLiving empty occurrences⟩

/-- Two uploads, of which one is written to before the life of both is over. -/
def outlived : Server :=
  sliding.live
    [.visit (.creating [(HeaderName.uploadLength, "5")]),
      .visit (.creating [(HeaderName.uploadLength, "5")]), .elapse 40000,
      .visit (.writing "0" "hel" []), .elapse 40000]

/-- So the other is removed, and who asks about the first is told of it. -/
theorem sweeps_dead_of_outlived :
    (outlived.store.answer outlived.clock .removeExpired).1.toOption = some 1 ∧
      (outlived.store.sweep outlived.clock).find? "~1~" = none ∧
      ∃ upload, outlived.store.find? "~0~" = some upload ∧
        (outlived.store.sweep outlived.clock).find? "~0~" = some upload := by
  have listed : outlived.store.dead outlived.clock = ["~1~"] := by
    decide +kernel
  have sweeps := sweeps_dead.1 outlived.store outlived.clock (by decide +kernel)
  have spares : outlived.SparesLiving :=
    sweeps_dead.2 sliding _ ⟨rfl, fun _ => rfl⟩ rfl
  have answered : (outlived.visit asking).1.response?.map Response.status
      = some 200 := by
    decide +kernel
  obtain ⟨response, answered, status⟩ := Option.map_eq_some_iff.1 answered
  refine ⟨?_, sweeps.removed "~1~" (by simp [listed]),
    spares.told "~0~" asking response (by decide +kernel) (by decide +kernel)
      answered status⟩
  rw [sweeps.removes, listed]
  rfl

/-- A server whose host answers whoever comes second, after lives have ended. -/
def hostedTooLong : Server :=
  ({ hosted with
      service := { config := { expiration := some (.absolute 60) } } }
    : Server).live
      [.visit (.creating [(HeaderName.uploadLength, "5")]), .elapse 120000]

/-- The host may answer a question about an upload that a sweep removes. -/
theorem sweeps_what_the_host_tells_of :
    asking.request.AsksAbout hostedTooLong.service "~0~" ∧
      (hostedTooLong.visit asking).1.response?.map Response.status = some 200 ∧
      hostedTooLong.store.has "~0~" = true ∧
      (hostedTooLong.store.sweep hostedTooLong.clock).has "~0~" = false := by
  decide +kernel

end Server

end ResumableUpload
