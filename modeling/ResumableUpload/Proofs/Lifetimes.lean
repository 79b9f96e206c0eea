import ResumableUpload.Proofs.Solo.Ageing
import ResumableUpload.Proofs.Solo.Alone
/-!
# How long uploads live

With a policy the life of an upload ends a time after it was created, or after
it was last written to.  The dates of an upload are told by what happens to a
server, and by nothing that it stores: `Server.dates` looks at which requests
bring new uploads and which writes are answered as accepted.
`Server.live_lives_by_dates` says that the ends of lives that are stored are
those that follow from the dates, and that responses tell no others.

The proof goes from requests to visits, where `Store.Ages` becomes a statement
about dates, and from there by induction to everything that happens.  Only the
clock must not be set back: the later of two dates is the last one then.
-/

namespace ResumableUpload

variable {service : Service} {request : Request} {scene after : Scene}
  {intent : Intent} {handling : Handling} {id : String}

/-- No upload is without a name. -/
theorem Store.IsNumbered.find?_empty {store : Store}
    (numbered : store.IsNumbered) : store.find? "" = none := by
  cases found : store.find? "" with
  | none => rfl
  | some upload =>
      rcases numbered.given _ (mem_ids_of_find? found) with ⟨number, -, same⟩
      have long := congrArg (fun text : String => text.toList.length) same
      simp [idOf] at long

/-! ## Requests -/

/-- A request that is sent as a write to an upload. -/
def Request.IsWriteTo (request : Request) (service : Service) (id : String) :
    Prop :=
  request.method.effective request.headers = .patch ∧
    Address.uploadId? service.config.urlPath request.path = some id

instance (request : Request) (service : Service) (id : String) :
    Decidable (request.IsWriteTo service id) :=
  inferInstanceAs (Decidable (_ ∧ _))

namespace Protocol

/-- What is sent as a write to an upload is one, if it is handled at all. -/
theorem isWriteTo_iff {rest : List Intent}
    (asked : intentsOf service request = intent :: rest)
    (handled : Handling.ofIntent? service intent = some handling)
    (store : Store) (id : String) :
    intent = .writeFile ∧ id = intent.subject (.ofRequest service request) store
      ↔ request.IsWriteTo service id := by
  constructor
  · rintro ⟨rfl, rfl⟩
    obtain ⟨method, id, named⟩ := method_of_write asked
    have about : (Exchange.ofRequest service request).fileId = id :=
      congrArg (Option.getD · "") named
    refine ⟨method, named.trans (congrArg some ?_)⟩
    exact about.symm
  · rintro ⟨method, named⟩
    rcases intentsOf_of_patch method service with writes | nothing
    · cases writes.symm.trans asked
      have about : (Exchange.ofRequest service request).fileId = id :=
        congrArg (Option.getD · "") named
      exact ⟨rfl, about.symm⟩
    · cases nothing.symm.trans asked
      cases handled

end Protocol

/-- To respond is to be given something to respond with. -/
theorem Played.respond_ends {α : Type} {first : Played (Except Failure α)}
    {given : α → Response} {response : Response} :
    first.andThen (Attempt.orFailure fun value last =>
        .finished (.ok (.respond (given value))) last)
      = .finished (.ok (Answer.respond response)) after ↔
    ∃ value, first = .finished (.ok value) after ∧ given value = response := by
  constructor
  · intro ends
    rcases Played.andThen_ends ends with ⟨result, last, here, ends⟩
    cases result with
    | error failure => cases ends
    | ok value =>
        cases ends
        exact ⟨value, here, rfl⟩
  · rintro ⟨value, rfl, rfl⟩
    rfl

theorem Played.respond_store {α : Type} {first : Played (Except Failure α)}
    {given : α → Response} :
    (first.andThen (Attempt.orFailure fun value last =>
        .finished (.ok (Answer.respond (given value))) last)).scene.store
      = first.scene.store := by
  cases first with
  | finished result last => cases result <;> rfl
  | waiting last | collapsed last => rfl

namespace Protocol

/-- What an intent leaves is as good for another intent. -/
theorem ground_of_ends {exchange done : Exchange}
    (unwatched : scene.IsUnwatched) (all : service.AccommodatesAll scene.store)
    (unchecked : Handling.IsUnchecked exchange)
    (handled : Handling.ofIntent? service intent = some handling)
    (ends : (handleIntent intent handling exchange).play scene
      = .finished (.ok done) after) :
    after.IsUnwatched ∧ service.AccommodatesAll after.store ∧
      after.clock = scene.clock := by
  have still := (handleIntent intent handling exchange).run.play_unwatched
    unwatched
  have ground := (handleIntent intent handling exchange).run.play_ground scene
  have deeds := handleIntent_deeds handled unchecked scene
  have ends' : (handleIntent intent handling exchange).run.play scene
      = .finished (.ok done) after := ends
  rw [ends'] at still ground
  rw [ends] at deeds
  exact ⟨still, all.deeds deeds, ground.clock⟩

/-- What is written to after a creation is the upload that was created. -/
theorem fresh_of_created {exchange done : Exchange}
    (handled : Handling.ofIntent? service intent = some handling)
    (creates : intent.creates = true) (unwatched : scene.IsUnwatched)
    (numbered : scene.store.IsNumbered)
    (ends : (handleIntent intent handling exchange).play scene
      = .finished (.ok done) after)
    (created : done.response.status = 201) (identified : done.id = some id) :
    intent.subject exchange scene.store = id ∧
      scene.store.find? id = none := by
  have next : id = Store.idOf scene.store.created :=
    Option.some.inj (identified.symm.trans (handleIntent_identifies handled
      creates (Scene.hostAgrees_of_unwatched unwatched) ends created))
  rw [Intent.subject, if_pos creates, next]
  exact ⟨rfl, numbered.find?_next (Nat.le_refl _)⟩

/-- What a request makes of lives: nothing else than its intents. -/
theorem handle_ages (unwatched : scene.IsUnwatched)
    (all : service.AccommodatesAll scene.store)
    (dates : service.CanDate scene.clock) :
    Store.Ages service scene.clock
      (fun id => request.IsWriteTo service id ∧ ∃ response after,
        (handle service request).play scene
          = .finished (.ok (.respond response)) after ∧ response.status = 204)
      scene.store ((handle service request).play scene).scene.store := by
  have handles := handle_handles service request scene
  generalize (handle service request).play scene = played at handles ⊢
  cases handles with
  | passed =>
      refine .of_eq ?_ rfl
      rintro id ⟨-, response, after, ends, -⟩
      cases ends
  | @first intent handling rest asked handled =>
      have lives := handleIntent_agesLives handled rfl (.ofRequest service
        request) (.of_unwatched _ unwatched) all dates
      rw [Played.respond_store]
      refine lives.ages.congr fun id => and_congr (isWriteTo_iff asked handled
        scene.store id) ⟨?_, ?_⟩
      · rintro ⟨done, after, ends, status⟩
        exact ⟨done.response, after, Played.respond_ends.2 ⟨done, ends, rfl⟩,
          status⟩
      · rintro ⟨response, after, ends, status⟩
        obtain ⟨done, here, rfl⟩ := Played.respond_ends.1 ends
        exact ⟨done, after, here, status⟩
  | @both intent handling done middle id asked creates handled handles created
      identified =>
      have lives := handleIntent_agesLives handled rfl (.ofRequest service
        request) (.of_unwatched _ unwatched) all dates
      have first := lives.ages
      rw [handles] at first
      have apart : intent ≠ .writeFile := by
        rintro rfl
        cases creates
      obtain ⟨-, fresh⟩ := fresh_of_created handled creates unwatched
        all.numbered handles created identified
      obtain ⟨still, within, clock⟩ := ground_of_ends unwatched all
        (.ofRequest service request) handled handles
      have second := (handleIntent_agesLives
        (show Handling.ofIntent? service .writeFile = some (.write service)
          from rfl) (show (done.continueWith id).response = {} from rfl)
        (.continueWith done id) (.of_unwatched _ still) within
        (clock ▸ dates)).ages
      rw [clock] at second
      rw [Played.respond_store, play_handleBody_store]
      have same := (handleIntent_write_alters (.continueWith done id) service
        middle).ids
      refine (Store.Ages.trans (first.congr fun other => ?_) second same
        ?_).congr fun other => ⟨False.elim, fun here => apart
          ((isWriteTo_iff asked handled scene.store other).2 here.1).1⟩
      · exact ⟨fun here => apart here.1.1, False.elim⟩
      · rintro other ⟨⟨-, same⟩, -⟩
        have same : other = id := same
        rw [same]
        exact fresh

end Protocol

/--
A response tells of no life but that of the upload it is about, as it is stored
after the request: the one that was created, or the one that is named.
-/
def Response.TellsLives (service : Service) (request : Request)
    (before after : Store) (response : Response) : Prop :=
  ∀ value ∈ response.headers.values HeaderName.uploadExpires,
    ∃ id upload expiry,
      (if response.status = 201 then before.find? id = none
        else Address.uploadId? service.config.urlPath request.path = some id) ∧
      after.find? id = some upload ∧ upload.expiry = some expiry ∧
      value = Bytes.ofString expiry.headerText

namespace Protocol

/--
The upload that an intent is about, if it is there in the end: a new one after
a creation, and else the one that is named.
-/
theorem subject_of_found {done : Exchange} {upload : Upload}
    (handled : Handling.ofIntent? service intent = some handling)
    (unwatched : scene.IsUnwatched) (all : service.AccommodatesAll scene.store)
    (ends : (handleIntent intent handling (.ofRequest service request)).play
      scene = .finished (.ok done) after)
    (found : after.store.find? (intent.subject (.ofRequest service request)
      scene.store) = some upload) :
    if done.response.status = 201 then
      scene.store.find? (intent.subject (.ofRequest service request)
        scene.store) = none
    else Address.uploadId? service.config.urlPath request.path
      = some (intent.subject (.ofRequest service request) scene.store) := by
  have passes : (handleIntent intent handling (.ofRequest service
    request)).Passes scene := .of_unwatched _ unwatched
  cases creates : intent.creates with
  | true =>
      have subject : intent.subject (.ofRequest service request) scene.store
          = Store.idOf scene.store.created := by
        rw [Intent.subject, if_pos creates]
      rw [subject] at found ⊢
      have fresh := all.numbered.find?_next (Nat.le_refl _)
      rcases handleIntent_adds handled creates all.numbered passes ends with
          ⟨status, -⟩ | ⟨-, same⟩
      · rw [if_pos status]
        exact fresh
      · obtain ⟨other, there⟩ := Store.exists_find?_of_ids same.symm found
        cases fresh.symm.trans there
  | false =>
      have subject : intent.subject (.ofRequest service request) scene.store
          = (Exchange.ofRequest service request).fileId := by
        rw [Intent.subject, if_neg (by rw [creates]; exact Bool.false_ne_true)]
      have status :=
        (handleIntent_closes handled rfl passes ends).2 creates
      rw [subject] at found ⊢
      rw [if_neg status]
      have about : (Exchange.ofRequest service request).fileId
          = (Address.uploadId? service.config.urlPath request.path).getD "" :=
        rfl
      rw [about] at found ⊢
      cases named : Address.uploadId? service.config.urlPath request.path with
      | some id => rfl
      | none =>
          obtain ⟨-, within, -⟩ := ground_of_ends unwatched all
            (.ofRequest service request) handled ends
          rw [named] at found
          cases (within.numbered.find?_empty).symm.trans found

/--
After the body of a creation has been written the end of the new life is still
told as it is stored.
-/
theorem handleBody_tells {done : Exchange} {middle : Scene}
    {response : Response} (still : middle.IsUnwatched)
    (within : service.AccommodatesAll middle.store)
    (dates : service.CanDate middle.clock)
    (born : ∀ record, middle.store.find? id = some record →
      record.BornAt service middle.clock)
    (told : done.response.TellsStored id middle.store)
    (ends : (handleBody .writeFile (.write service) done id).play middle
      = .finished (.ok response) after) :
    response.TellsStored id after.store ∧
      response.status = done.response.status := by
  have lives := handleIntent_agesLives
    (show Handling.ofIntent? service .writeFile = some (.write service)
      from rfl) (show (done.continueWith id).response = {} from rfl)
    (.continueWith done id) (.of_unwatched _ still) within dates
  have ids := (handleIntent_write_alters (.continueWith done id) service
    middle).ids
  rw [play_handleBody] at ends
  rcases Played.andThen_ends ends with ⟨result, last, writes, ends⟩
  have ages := lives.ages
  rw [writes] at ids ages
  cases ends
  -- The write may have moved the end of the life, but to the same moment.
  have kept : done.response.TellsStored id after.store := by
    rcases told with undated | ⟨record, found, tells⟩
    · exact .inl undated
    · obtain ⟨upload, there⟩ := Store.exists_find?_of_ids ids found
      have aged := ages id upload there
      rw [found] at aged
      have same : upload.expiry = record.expiry := by
        cases aged with
        | kept _ lasting => exact lasting.expiry
        | moved _ _ renewed part =>
            exact renewed.expiry_eq (born record found) part
      refine .inr ⟨upload, there, ?_⟩
      rw [Response.TellsLife, same]
      exact tells
  cases result with
  | error failure => exact ⟨kept, rfl⟩
  | ok written =>
      have updates := adopt_updates done.response written.response
      refine ⟨?_, updates.status⟩
      cases first : written.response.headers.first?
          HeaderName.uploadExpires with
      | none =>
          have same := updates.kept HeaderName.uploadExpires fun _ => first
          rcases kept with undated | ⟨upload, found, tells⟩
          · exact .inl (same.trans undated)
          · refine .inr ⟨upload, found, ?_⟩
            rw [Response.TellsLife, same]
            exact tells
      | some value =>
          have same := updates.told HeaderName.uploadExpires (by decide) value
            first
          have present : value
              ∈ written.response.headers.values HeaderName.uploadExpires := by
            rw [Headers.first?_eq_head?] at first
            exact List.mem_of_head? first
          rcases lives.tells written after writes with
              undated | ⟨upload, found, tells⟩
          · rw [undated] at present
            cases present
          · refine .inr ⟨upload, found, ?_⟩
            intro other here
            rw [same, List.mem_singleton] at here
            exact here ▸ tells value present

/-- What a response tells of lives is as it is stored. -/
theorem handle_tells {response : Response} (unwatched : scene.IsUnwatched)
    (all : service.AccommodatesAll scene.store)
    (dates : service.CanDate scene.clock)
    (ends : (handle service request).play scene
      = .finished (.ok (.respond response)) after) :
    response.TellsLives service request scene.store after.store := by
  have handles := handle_handles service request scene
  generalize (handle service request).play scene = played at handles ends
  cases handles with
  | passed => cases ends
  | @first intent handling rest asked handled =>
      obtain ⟨done, here, rfl⟩ := Played.respond_ends.1 ends
      have passes : (handleIntent intent handling (.ofRequest service
        request)).Passes scene := .of_unwatched _ unwatched
      have told := (handleIntent_agesLives handled rfl (.ofRequest service
        request) passes all dates).tells done after here
      rcases told with undated | ⟨upload, found, tells⟩
      · intro value present
        rw [undated] at present
        cases present
      intro value present
      obtain ⟨expiry, known, same⟩ := tells value present
      exact ⟨_, upload, expiry, subject_of_found handled unwatched all here
        found, found, known, same⟩
  | @both intent handling done middle id asked creates handled handles created
      identified =>
      obtain ⟨answer, here, rfl⟩ := Played.respond_ends.1 ends
      have lives := handleIntent_agesLives handled rfl (.ofRequest service
        request) (.of_unwatched _ unwatched) all dates
      obtain ⟨subject, fresh⟩ := fresh_of_created handled creates unwatched
        all.numbered handles created identified
      obtain ⟨still, within, clock⟩ := ground_of_ends unwatched all
        (.ofRequest service request) handled handles
      have ages := lives.ages
      have told := lives.tells done middle handles
      rw [handles] at ages
      rw [subject] at told
      have born : ∀ record, middle.store.find? id = some record →
          record.BornAt service middle.clock := by
        intro record found
        have aged := ages id record found
        rw [fresh] at aged
        cases aged with
        | born born => exact clock ▸ born
      obtain ⟨tells, status⟩ := handleBody_tells still within (clock ▸ dates)
        born told here
      rcases tells with undated | ⟨upload, found, tells⟩
      · intro value present
        rw [undated] at present
        cases present
      · intro value present
        obtain ⟨expiry, known, same⟩ := tells value present
        refine ⟨id, upload, expiry, ?_, found, known, same⟩
        rw [if_pos (status.trans created)]
        exact fresh

end Protocol

/-! ## Dates -/

namespace Instant

/-- Of two instants neither of which is before the other there is but one. -/
theorem eq_of_not_before {one other : Instant}
    (late : one.before other = false) (late' : other.before one = false) :
    one = other := by
  rcases one with ⟨seconds, fraction⟩
  rcases other with ⟨seconds', fraction'⟩
  simp only [before, Bool.or_eq_false_iff, Bool.and_eq_false_iff,
    decide_eq_false_iff_not, beq_eq_false_iff_ne] at late late'
  simp only [mk.injEq]
  omega

theorem not_before_trans {one other third : Instant}
    (late : one.before other = false) (late' : other.before third = false) :
    one.before third = false := by
  simp only [before, Bool.or_eq_false_iff, Bool.and_eq_false_iff,
    decide_eq_false_iff_not, beq_eq_false_iff_ne] at late late' ⊢
  omega

end Instant

/-- When an upload was created, and when a write to it was last accepted. -/
structure Dates where
  created : Instant
  written : Option Instant := none
  deriving DecidableEq, Repr

namespace Dates

/-- The later of the creation and the last write. -/
def latest (dates : Dates) : Instant :=
  match dates.written with
  | some written =>
      if dates.created.before written then written else dates.created
  | none => dates.created

/-- Nothing has happened after a moment. -/
structure Precede (dates : Dates) (now : Instant) : Prop where
  created : now.before dates.created = false
  written : ∀ written, dates.written = some written →
    now.before written = false

theorem Precede.later {dates : Dates} {now later : Instant}
    (precede : dates.Precede now) (late : later.before now = false) :
    dates.Precede later where
  created := Instant.not_before_trans late precede.created
  written written last :=
    Instant.not_before_trans late (precede.written written last)

/-- The dates once a write has been accepted. -/
def writtenAt (dates : Dates) (now : Instant) : Dates :=
  { dates with written := some now }

theorem Precede.writtenAt {dates : Dates} {now : Instant}
    (precede : dates.Precede now) : (dates.writtenAt now).Precede now where
  created := precede.created
  written written last := by
    cases last
    simp [Instant.before]

/-- A write that is accepted now is the latest that has happened. -/
theorem Precede.latest_writtenAt {dates : Dates} {now : Instant}
    (precede : dates.Precede now) : (dates.writtenAt now).latest = now := by
  change (if dates.created.before now then now else dates.created) = now
  split
  · rfl
  · rename_i late
    exact Instant.eq_of_not_before (Bool.not_eq_true _ ▸ late) precede.created

end Dates

/-- The life of an upload ends when its dates and the policy say. -/
structure Upload.LivesBy (service : Service) (dates : Dates) (upload : Upload) :
    Prop where
  unlimited : Lifetime.policy? service = none → upload.expiry = none
  joined : upload.part.isJoined = true → upload.expiry = none
  absolute : ∀ timeout, Lifetime.policy? service = some (.absolute timeout) →
    upload.part.isJoined = false →
    upload.expiry = some (dates.created.addSeconds timeout)
  sliding : ∀ timeout, Lifetime.policy? service = some (.sliding timeout) →
    upload.part.isJoined = false →
    upload.expiry = some (dates.latest.addSeconds timeout)

namespace Upload

variable {dates : Dates} {now : Instant} {before upload : Upload}

theorem LivesAs.livesBy (lasting : upload.LivesAs before)
    (lives : before.LivesBy service dates) : upload.LivesBy service dates where
  unlimited free := lasting.expiry.trans (lives.unlimited free)
  joined joined := lasting.expiry.trans (lives.joined (lasting.part ▸ joined))
  absolute timeout limited apart := lasting.expiry.trans
    (lives.absolute timeout limited (lasting.part ▸ apart))
  sliding timeout limited apart := lasting.expiry.trans
    (lives.sliding timeout limited (lasting.part ▸ apart))

/-- A life that begins now ends a time after now, whatever the policy is. -/
theorem BornAt.expiry_of_limited (born : upload.BornAt service now)
    (dates : service.CanDate now) {policy : Policy}
    (limited : Lifetime.policy? service = some policy)
    (apart : upload.part.isJoined = false) :
    upload.expiry = some (now.addSeconds policy.timeout) := by
  obtain ⟨expiry, dated, ends⟩ := born.limited policy limited apart
  rw [dates.endFrom limited] at dated
  cases dated
  exact ends

/-- So a new upload lives by the date of its creation. -/
theorem BornAt.livesBy (born : upload.BornAt service now)
    (dates : service.CanDate now) : upload.LivesBy service ⟨now, none⟩ where
  unlimited := born.unlimited
  joined := born.joined
  absolute _ limited apart := born.expiry_of_limited dates limited apart
  sliding _ limited apart := born.expiry_of_limited dates limited apart

/-- Where lives slide, a renewed upload lives by the date of the write. -/
theorem BornAt.livesBy_writtenAt (born : upload.BornAt service now)
    (can : service.CanDate now) (slides : Lifetime.slides service = true)
    (precede : dates.Precede now) :
    upload.LivesBy service (dates.writtenAt now) where
  unlimited := born.unlimited
  joined := born.joined
  absolute timeout limited := by
    rw [Lifetime.slides, limited] at slides
    cases slides
  sliding timeout limited apart := by
    rw [precede.latest_writtenAt]
    exact born.expiry_of_limited can limited apart

/-- Where lives do not slide, a write is no date that counts. -/
theorem LivesBy.writtenAt (lives : upload.LivesBy service dates)
    (stays : Lifetime.slides service = false) (now : Instant) :
    upload.LivesBy service (dates.writtenAt now) where
  unlimited := lives.unlimited
  joined := lives.joined
  absolute := lives.absolute
  sliding timeout limited := by
    rw [Lifetime.slides, limited] at stays
    cases stays

end Upload

/-! ## Visits -/

namespace Server

variable {server : Server}

/-- A visit is a write to an upload, and is answered as accepted. -/
def acceptsWrite (server : Server) (visit : Visit) (id : String) : Bool :=
  decide (visit.request.IsWriteTo server.service id)
    && (server.visit visit).1.response?.any (·.status == 204)

/--
The dates of an upload after a visit.  A write that comes with the creation is
accepted at the moment of the creation, and is no date of its own.
-/
def datesAfter (server : Server) (visit : Visit) (id : String)
    (dates? : Option Dates) : Option Dates :=
  if server.store.has id then
    if server.acceptsWrite visit id then
      dates?.map (·.writtenAt server.clock)
    else dates?
  else if (server.visit visit).2.2.store.has id then some ⟨server.clock, none⟩
  else none

section DatesAfter

variable {visit : Visit} {upload before : Upload} {dates? : Option Dates}

theorem datesAfter_of_created (absent : server.store.find? id = none)
    (found : (server.visit visit).2.2.store.find? id = some upload) :
    server.datesAfter visit id dates? = some ⟨server.clock, none⟩ := by
  have gone : server.store.has id = false := by
    rw [Bool.eq_false_iff, Ne, Store.has_iff_find?, absent]
    exact Bool.false_ne_true
  rw [datesAfter, gone, Store.has_of_find? found]
  rfl

theorem datesAfter_of_kept (found : server.store.find? id = some before)
    (kept : server.acceptsWrite visit id = false) :
    server.datesAfter visit id dates? = dates? := by
  rw [datesAfter, Store.has_of_find? found, kept]
  rfl

theorem datesAfter_of_accepted (found : server.store.find? id = some before)
    (accepts : server.acceptsWrite visit id = true) :
    server.datesAfter visit id dates?
      = dates?.map (·.writtenAt server.clock) := by
  rw [datesAfter, Store.has_of_find? found, accepts]
  rfl

end DatesAfter

/-- The dates of an upload after some occurrences. -/
def dates (server : Server) (id : String) :
    List Occurrence → Option Dates → Option Dates
  | [], dates? => dates?
  | .visit visit :: later, dates? =>
      (server.visit visit).2.2.dates id later
        (server.datesAfter visit id dates?)
  | first :: later, dates? => (server.undergo first).dates id later dates?

/--
The clock is never set back, and whenever a request comes it shows a time from
which the calendar has the end of a life.
-/
def KeepsTime (server : Server) : List Occurrence → Prop
  | [] => True
  | .visit visit :: later =>
      server.service.CanDate server.clock ∧
        (server.visit visit).2.2.KeepsTime later
  | .elapse milliseconds :: later =>
      (server.undergo (.elapse milliseconds)).clock.before server.clock
        = false ∧
      (server.undergo (.elapse milliseconds)).KeepsTime later
  | .sweep :: later => (server.undergo .sweep).KeepsTime later

/-- Whether a server keeps time can be computed. -/
def decideKeepsTime (server : Server) :
    (occurrences : List Occurrence) → Decidable (server.KeepsTime occurrences)
  | [] => .isTrue trivial
  | .visit visit :: later =>
      have := (server.visit visit).2.2.decideKeepsTime later
      inferInstanceAs (Decidable (_ ∧ _))
  | .elapse milliseconds :: later =>
      have := (server.undergo (.elapse milliseconds)).decideKeepsTime later
      inferInstanceAs (Decidable (_ ∧ _))
  | .sweep :: later => (server.undergo .sweep).decideKeepsTime later

instance (server : Server) (occurrences : List Occurrence) :
    Decidable (server.KeepsTime occurrences) :=
  server.decideKeepsTime occurrences

/-- Every upload lives by its dates. -/
def LivesBy (server : Server) (dates? : String → Option Dates) : Prop :=
  ∀ id upload, server.store.find? id = some upload →
    ∃ dates, dates? id = some dates ∧ dates.Precede server.clock ∧
      upload.LivesBy server.service dates

namespace IsAlone

/-- What a visit makes of lives: a write that is accepted may move one. -/
theorem visit_ages (alone : server.IsAlone)
    (all : server.service.AccommodatesAll server.store)
    (can : server.service.CanDate server.clock) (visit : Visit) :
    Store.Ages server.service server.clock
      (fun id => server.acceptsWrite visit id = true) server.store
      (server.visit visit).2.2.store := by
  have unwatched := alone.scene visit.client visit.news
  rw [alone.quiet.visit_store]
  refine (Protocol.handle_ages unwatched all can).congr fun id => ?_
  rw [acceptsWrite, Bool.and_eq_true, decide_eq_true_eq, Option.any_eq_true]
  refine and_congr_right fun _ => ⟨?_, ?_⟩
  · rintro ⟨response, after, ends, status⟩
    exact ⟨response, alone.quiet.visit_response? ends, beq_iff_eq.2 status⟩
  · rintro ⟨response, answered, status⟩
    obtain ⟨after, ends⟩ := alone.quiet.play_of_response? answered
    exact ⟨response, after, ends, beq_iff_eq.1 status⟩

/-- What the answer to a visit tells of lives is as it is stored. -/
theorem visit_tells (alone : server.IsAlone)
    (all : server.service.AccommodatesAll server.store)
    (can : server.service.CanDate server.clock) {visit : Visit}
    {response : Response}
    (answered : (server.visit visit).1.response? = some response) :
    response.TellsLives server.service visit.request server.store
      (server.visit visit).2.2.store := by
  obtain ⟨after, ends⟩ := alone.quiet.play_of_response? answered
  rw [alone.quiet.visit_store, ends]
  exact Protocol.handle_tells (alone.scene visit.client visit.news) all can ends

end IsAlone

/-! ## Lives -/

namespace LivesBy

variable {dates? : String → Option Dates}

/-- After a visit every upload lives by its dates after the visit. -/
theorem visit (lives : server.LivesBy dates?) (alone : server.IsAlone)
    (all : server.service.AccommodatesAll server.store)
    (can : server.service.CanDate server.clock) (visit : Visit) :
    (server.visit visit).2.2.LivesBy fun id =>
      server.datesAfter visit id (dates? id) := by
  intro id upload found
  have aged := alone.visit_ages all can visit id upload found
  have clock := alone.quiet.visit_clock visit
  have service := (alone.quiet.visit_succeeds visit).service
  rw [clock, service]
  cases earlier : server.store.find? id with
  | none =>
      rw [earlier] at aged
      cases aged with
      | born born =>
          refine ⟨_, datesAfter_of_created earlier found, ⟨?_, nofun⟩,
            born.livesBy can⟩
          simp [Instant.before]
  | some before =>
      rw [earlier] at aged
      obtain ⟨dates, known, precede, lived⟩ := lives id before earlier
      have accepted (accepts : server.acceptsWrite visit id = true) :
          server.datesAfter visit id (dates? id)
            = some (dates.writtenAt server.clock) := by
        rw [datesAfter_of_accepted earlier accepts, known]
        rfl
      cases aged with
      | kept stays lasting =>
          cases accepts : server.acceptsWrite visit id with
          | false =>
              exact ⟨dates, (datesAfter_of_kept earlier accepts).trans known,
                precede, lasting.livesBy lived⟩
          | true =>
              exact ⟨_, accepted accepts, precede.writtenAt,
                (lasting.livesBy lived).writtenAt (stays accepts) _⟩
      | moved accepts slides renewed part =>
          exact ⟨_, accepted accepts, precede.writtenAt,
            renewed.livesBy_writtenAt can slides precede⟩

/-- While time passes every upload lives by the dates it had. -/
theorem elapse (lives : server.LivesBy dates?) {milliseconds : Int}
    (late : (server.undergo (.elapse milliseconds)).clock.before server.clock
      = false) :
    (server.undergo (.elapse milliseconds)).LivesBy dates? := by
  intro id upload found
  obtain ⟨dates, known, precede, lived⟩ := lives id upload found
  exact ⟨dates, known, precede.later late, lived⟩

/-- What is left by a sweep lives by the dates it had. -/
theorem sweep (lives : server.LivesBy dates?) (quiet : server.IsQuiet)
    (numbered : server.store.IsNumbered) :
    (server.undergo .sweep).LivesBy dates? := by
  intro id upload found
  have service := quiet.sweep_succeeds.service
  obtain ⟨client, news, seen⟩ := quiet.sweep_depicts
  have ground := Program.play_ground (Protocol.sweep server.service).caught
    (server.scene {} [])
  rw [← seen] at ground
  have clock : (server.undergo .sweep).clock = server.clock := ground.clock
  obtain ⟨dates, known, precede, lived⟩ :=
    lives id upload (quiet.find?_of_sweep numbered found)
  exact ⟨dates, known, clock ▸ precede, service ▸ lived⟩

end LivesBy

/-- Whatever happens, every upload lives by its dates. -/
theorem IsAlone.live_livesBy (alone : server.IsAlone)
    (all : server.service.AccommodatesAll server.store)
    (occurrences : List Occurrence) (times : server.KeepsTime occurrences)
    {dates? : String → Option Dates} (lives : server.LivesBy dates?) :
    (server.live occurrences).LivesBy fun id =>
      server.dates id occurrences (dates? id) := by
  induction occurrences generalizing server dates? with
  | nil => exact lives
  | cons first later hypothesis =>
      have succeeds := alone.quiet.undergo_succeeds first
      have within := all.deeds succeeds.deeds
      rw [← succeeds.service] at within
      have alone' := alone.undergo first
      cases first with
      | visit visit =>
          exact hypothesis alone' within times.2
            (lives.visit alone all times.1 visit)
      | elapse milliseconds =>
          exact hypothesis alone' within times.2 (lives.elapse times.1)
      | sweep =>
          exact hypothesis alone' within times
            (lives.sweep alone.quiet all.numbered)

/-- The times of a life are those of its parts. -/
theorem KeepsTime.of_append {earlier later : List Occurrence}
    (times : server.KeepsTime (earlier ++ later)) :
    server.KeepsTime earlier ∧ (server.live earlier).KeepsTime later := by
  induction earlier generalizing server with
  | nil => exact ⟨trivial, times⟩
  | cons first rest hypothesis =>
      cases first with
      | visit visit => exact (hypothesis times.2).imp_left (⟨times.1, ·⟩)
      | elapse milliseconds =>
          exact (hypothesis times.2).imp_left (⟨times.1, ·⟩)
      | sweep => exact hypothesis times

/--
On a server that began empty, without a host, and whose clock is never set back
and shows times that have an end of life in the calendar, every upload lives by
its dates: without a policy, or if it was joined from others, its life has no
end; else the life ends a time after its creation, or after the last write that
was accepted, as the policy says.  Whatever else happens moves no end of life.
And a response tells of no other end of life than the one that is stored.
-/
theorem live_lives_by_dates (alone : server.IsAlone) (empty : server.store = {})
    (occurrences : List Occurrence) (times : server.KeepsTime occurrences) :
    (∀ id upload, (server.live occurrences).store.find? id = some upload →
      ∃ dates, server.dates id occurrences none = some dates ∧
        upload.LivesBy server.service dates) ∧
    ∀ earlier visit later, occurrences = earlier ++ .visit visit :: later →
      ∀ response,
        ((server.live earlier).visit visit).1.response? = some response →
        response.TellsLives server.service visit.request
          (server.live earlier).store
          ((server.live earlier).visit visit).2.2.store := by
  have all : server.service.AccommodatesAll server.store :=
    empty ▸ .empty server.service
  constructor
  · intro id upload found
    have lives : server.LivesBy fun _ => none := by
      intro id upload found
      rw [empty] at found
      cases found
    obtain ⟨dates, known, -, lived⟩ :=
      alone.live_livesBy all occurrences times lives id upload found
    rw [(alone.quiet.live_succeeds occurrences).service] at lived
    exact ⟨dates, known, lived⟩
  · rintro earlier visit later rfl response answered
    have succeeds := alone.quiet.live_succeeds earlier
    have within := all.deeds succeeds.deeds
    have can := times.of_append.2.1
    rw [← succeeds.service] at within ⊢
    exact (alone.live earlier).visit_tells within can answered

/-- A server where lives end a minute after the last write. -/
def sliding : Server where
  service := { config := { expiration := some (.sliding 60) } }

/-- An upload that is written to once, and then refused a write. -/
def writtenOnce : List Occurrence :=
  [.visit (.creating [(HeaderName.uploadLength, "5")]), .elapse 10000,
    .visit (.writing "0" "hel" []), .elapse 5000,
    .visit (.writing "0" "lo" [])]

/-- So the life of an upload ends a minute after the write that was accepted. -/
theorem live_lives_by_dates_of_sliding :
    ∃ upload,
      (sliding.live writtenOnce).store.find? "~0~" = some upload ∧
      sliding.dates "~0~" writtenOnce none
        = some { created := { seconds := 0 }
                 written := some { seconds := 10 } } ∧
      upload.expiry = some { seconds := 70 } := by
  have alone : sliding.IsAlone := ⟨⟨rfl, fun _ => rfl⟩, fun _ => rfl⟩
  have times : sliding.KeepsTime writtenOnce := by
    decide +kernel
  have there : ((sliding.live writtenOnce).store.find? "~0~").map
      (·.part.isJoined) = some false := by
    decide +kernel
  rcases Option.map_eq_some_iff.1 there with ⟨upload, found, apart⟩
  have known : sliding.dates "~0~" writtenOnce none
      = some { created := { seconds := 0 }
               written := some { seconds := 10 } } := by
    decide +kernel
  obtain ⟨dates, same, lives⟩ :=
    (live_lives_by_dates alone rfl writtenOnce times).1 "~0~" upload found
  cases known.symm.trans same
  exact ⟨upload, found, known, lives.sliding 60 (by decide +kernel) apart⟩

end Server

end ResumableUpload
