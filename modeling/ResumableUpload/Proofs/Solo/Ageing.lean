import ResumableUpload.Proofs.CreationWithBody
import ResumableUpload.Proofs.Solo.Form
/-!
# What requests make of lives

The end of a life is moved in two ways and in no other: an upload is given it
when it is created, and where lives slide it is given a new one when a write is
accepted.  `Upload.Ages` says so of a single upload, and the steps of a request
are followed with it, those that fail included.  On the way it is seen that an
answer tells no other end of a life than the one that is stored.
-/

namespace ResumableUpload

variable {service : Service} {exchange checked done : Exchange}
  {scene after : Scene} {intent : Intent} {handling : Handling}
  {now : Instant} {id : String}

/-! ## The ends of lives -/

/-- There is a time, and the calendar has the end of a life that begins now. -/
structure Service.CanDate (service : Service) (now : Instant) : Prop where
  readable : now.isReadable = true
  inCalendar : ∀ policy, service.config.expiration = some policy →
    (now.addSeconds policy.timeout).inCalendar = true

instance (service : Service) (now : Instant) :
    Decidable (service.CanDate now) :=
  decidable_of_iff (now.isReadable = true ∧
      ∀ policy ∈ service.config.expiration,
        (now.addSeconds policy.timeout).inCalendar = true)
    ⟨fun ⟨readable, inCalendar⟩ => ⟨readable, inCalendar⟩,
      fun ⟨readable, inCalendar⟩ => ⟨readable, inCalendar⟩⟩

theorem Lifetime.configured_of_policy? {policy : Policy}
    (limited : policy? service = some policy) :
    service.config.expiration = some policy := by
  rw [policy?] at limited
  split at limited
  · exact limited
  · cases limited

/-- A life that begins now ends after the time that the policy gives it. -/
theorem Service.CanDate.endFrom (dates : service.CanDate now) {policy : Policy}
    (limited : Lifetime.policy? service = some policy) :
    policy.endFrom now = .ok (now.addSeconds policy.timeout) := by
  have inCalendar := dates.inCalendar policy
    (Lifetime.configured_of_policy? limited)
  have readable := dates.readable
  rw [Instant.isReadable, Bool.and_eq_true, decide_eq_true_eq] at readable
  have small : (policy.timeout : Int) ≤ Instant.lastSecond := by
    rw [Instant.addSeconds] at inCalendar
    split at inCalendar
    · rename_i none
      rw [none]
      decide
    · rw [Instant.inCalendar, Bool.and_eq_true, decide_eq_true_eq,
        decide_eq_true_eq] at inCalendar
      have last := inCalendar.2
      simp only at last
      omega
  have last : Instant.lastSecond = 8210266876799 := rfl
  have bound : Decimal.signedBound = 9223372036854775808 := rfl
  have span : Policy.maxSpan = 9223372036854775 := rfl
  rw [Policy.endFrom, if_neg (by omega)]
  simp only
  rw [inCalendar, decide_eq_true (by omega : policy.timeout ≤ Policy.maxSpan)]
  rfl

/--
What a moment makes of the end of a life, if the upload was there before and
if it was not.
-/
inductive Upload.Ages (service : Service) (now : Instant) (accepted : Prop) :
    Option Upload → Upload → Prop where
  | born {upload : Upload} (born : upload.BornAt service now) :
      Ages service now accepted none upload
  /-- It stays; where lives slide, no write was accepted. -/
  | kept {before upload : Upload}
      (stays : accepted → Lifetime.slides service = false)
      (lasting : upload.LivesAs before) :
      Ages service now accepted (some before) upload
  /-- It is moved as if the life began now, for a write that was accepted. -/
  | moved {before upload : Upload} (accepts : accepted)
      (slides : Lifetime.slides service = true)
      (renewed : upload.BornAt service now) (part : upload.part = before.part) :
      Ages service now accepted (some before) upload

theorem Upload.LivesAs.bornAt {one other : Upload} (lasting : one.LivesAs other)
    (born : other.BornAt service now) : one.BornAt service now where
  unlimited free := lasting.expiry.trans (born.unlimited free)
  joined joined := lasting.expiry.trans (born.joined (lasting.part ▸ joined))
  limited policy limited apart := by
    rw [lasting.expiry]
    exact born.limited policy limited (lasting.part ▸ apart)

/-- What takes part alike and is born at a moment has the same life. -/
theorem Upload.BornAt.expiry_eq {one other : Upload}
    (born : one.BornAt service now) (born' : other.BornAt service now)
    (part : one.part = other.part) : one.expiry = other.expiry := by
  cases limited : Lifetime.policy? service with
  | none => rw [born.unlimited limited, born'.unlimited limited]
  | some policy =>
      cases joined : other.part.isJoined with
      | true => rw [born.joined (part ▸ joined), born'.joined joined]
      | false =>
          obtain ⟨expiry, dated, ends⟩ :=
            born.limited policy limited (part ▸ joined)
          obtain ⟨expiry', dated', ends'⟩ := born'.limited policy limited joined
          cases dated.symm.trans dated'
          rw [ends, ends']

/-- What a moment makes of the ends of all lives. -/
def Store.Ages (service : Service) (now : Instant) (accepted : String → Prop)
    (before after : Store) : Prop :=
  ∀ id upload, after.find? id = some upload →
    upload.Ages service now (accepted id) (before.find? id)

namespace Store.Ages

variable {before middle after : Store} {accepted : String → Prop}

theorem congr {others : String → Prop}
    (ages : Ages service now accepted before after)
    (same : ∀ id, accepted id ↔ others id) :
    Ages service now others before after := by
  have equal : accepted = others := funext fun id => propext (same id)
  exact equal ▸ ages

theorem of_eq (none : ∀ id, ¬accepted id) (same : after = before) :
    Ages service now accepted before after := by
  intro id upload found
  rw [← same, found]
  exact .kept (fun here => absurd here (none id)) ⟨rfl, rfl⟩

theorem erase (none : ∀ id, ¬accepted id) (store : Store) (id : String) :
    Ages service now accepted store (store.erase id) := by
  intro other upload found
  rw [Store.find?_erase] at found
  split at found
  · cases found
  · rw [found]
    exact .kept (fun here => absurd here (none other)) ⟨rfl, rfl⟩

theorem insert (none : ∀ id, ¬accepted id) {upload : Upload}
    (born : upload.BornAt service now) :
    Ages service now accepted before (before.insert upload).2 := by
  intro id other found
  rw [Store.find?_insert] at found
  cases earlier : before.find? id with
  | some record =>
      rw [earlier] at found
      cases found
      exact .kept (fun here => absurd here (none id)) ⟨rfl, rfl⟩
  | none =>
      rw [earlier, Option.none_or] at found
      split at found
      · cases found
        exact .born born
      · cases found

/-- One upload is rewritten, and the others stay as they are. -/
theorem alters {written : Upload} (alters : before.AltersAt id after)
    (found : after.find? id = some written)
    (others : ∀ other, other ≠ id → ¬accepted other)
    (ages : written.Ages service now (accepted id) (before.find? id)) :
    Ages service now accepted before after := by
  intro other upload there
  by_cases same : other = id
  · subst same
    cases found.symm.trans there
    exact ages
  · rw [alters.others other same] at there
    rw [there]
    exact .kept (fun here => absurd here (others other same)) ⟨rfl, rfl⟩

/--
What is created and then written to is as old as what is created: there is one
time for both.
-/
theorem trans {later : String → Prop}
    (first : Ages service now (fun _ => False) before middle)
    (second : Ages service now later middle after)
    (same : after.ids = middle.ids)
    (apart : ∀ id, later id → before.find? id = none) :
    Ages service now (fun _ => False) before after := by
  intro id upload found
  have there := second id upload found
  cases between : middle.find? id with
  | none =>
      obtain ⟨other, here⟩ := Store.exists_find?_of_ids same.symm found
      cases between.symm.trans here
  | some record =>
      rw [between] at there
      have here := first id record between
      cases there with
      | kept stays lasting =>
          generalize before.find? id = earlier at here ⊢
          cases here with
          | born born => exact .born (lasting.bornAt born)
          | kept _ lasted =>
              exact .kept False.elim ⟨lasting.expiry.trans lasted.expiry,
                lasting.part.trans lasted.part⟩
          | moved accepted => exact accepted.elim
      | moved accepted slides renewed part =>
          rw [apart id accepted]
          exact .born renewed

end Store.Ages

/-! ## Answers that tell the end of a life -/

namespace Headers

variable {headers : Headers} {name other : String}

theorem values_putText_of_ne (apart : other ≠ name) (text : String) :
    (headers.putText name text).values other = headers.values other := by
  rw [putText]
  split
  · exact values_put apart _
  · rfl

theorem mem_values_putText {text : String} {value : Bytes}
    (present : value ∈ (headers.putText name text).values name) :
    value = Bytes.ofString text ∨ value ∈ headers.values name := by
  rw [putText] at present
  split at present
  · rw [values_put_self] at present
    exact .inl (List.mem_singleton.1 present)
  · exact .inr present

end Headers

namespace Response

/-- It tells the end of no life. -/
def IsUndated (response : Response) : Prop :=
  response.headers.values HeaderName.uploadExpires = []

/-- It tells the end of no life but that of an upload. -/
def TellsLife (response : Response) (upload : Upload) : Prop :=
  ∀ value ∈ response.headers.values HeaderName.uploadExpires,
    ∃ expiry, upload.expiry = some expiry ∧
      value = Bytes.ofString expiry.headerText

end Response

namespace Exchange

/-- It is about an upload, or about none, and tells the end of no life. -/
structure IsSilent (id : String) (exchange : Exchange) : Prop where
  undated : exchange.response.IsUndated
  about : exchange.fileId = id

namespace IsSilent

theorem answerStatus (silent : exchange.IsSilent id) (status : Nat) :
    (exchange.answerStatus status).IsSilent id :=
  ⟨silent.undated, silent.about⟩

theorem answerField (silent : exchange.IsSilent id) {name : String}
    (apart : HeaderName.uploadExpires ≠ name) (text : String) :
    (exchange.answerField name text).IsSilent id :=
  ⟨(Headers.values_putText_of_ne apart text).trans silent.undated, silent.about⟩

theorem answerFieldIf (silent : exchange.IsSilent id) {name : String}
    (apart : HeaderName.uploadExpires ≠ name) (text? : Option String) :
    (exchange.answerFieldIf name text?).IsSilent id := by
  cases text? with
  | none => exact silent
  | some text => exact silent.answerField apart text

theorem notes (silent : exchange.IsSilent id) (notes : exchange.Notes checked) :
    checked.IsSilent id where
  undated := notes.response ▸ silent.undated
  about := notes.fileId.trans silent.about

end IsSilent

theorem mem_values_answerField {name text : String} {value : Bytes}
    (present : value
      ∈ (exchange.answerField name text).response.headers.values name) :
    value = Bytes.ofString text ∨
      value ∈ exchange.response.headers.values name :=
  Headers.mem_values_putText present

/-- What is told of the end of a life is the end that was given. -/
theorem IsSilent.tellsLife {upload : Upload} {expiry? : Option Instant}
    (silent : exchange.IsSilent id)
    (known : ∀ expiry, expiry? = some expiry → upload.expiry = some expiry) :
    (exchange.answerFieldIf HeaderName.uploadExpires
      (expiry?.map Instant.headerText)).response.TellsLife upload := by
  intro value present
  cases expiry? with
  | none =>
      have present : value
        ∈ exchange.response.headers.values HeaderName.uploadExpires := present
      rw [silent.undated] at present
      cases present
  | some expiry =>
      have present : value ∈ (exchange.answerField HeaderName.uploadExpires
        expiry.headerText).response.headers.values HeaderName.uploadExpires :=
        present
      rcases mem_values_answerField present with told | present
      · exact ⟨expiry, known expiry rfl, told⟩
      · rw [silent.undated] at present
        cases present

end Exchange

/--
The answer tells the end of the life of an upload as it is stored, if it tells
any.
-/
def Response.TellsStored (response : Response) (id : String) (store : Store) :
    Prop :=
  response.IsUndated ∨
    ∃ upload, store.find? id = some upload ∧ response.TellsLife upload

/-! ## The work -/

/--
How something is played that makes something of lives.  It is about an upload;
where it ends well it gives a response, which may be one to a write that was
accepted, and tells of no other life.
-/
structure Played.AgesLives {α : Type} (service : Service) (writes : Prop)
    (id : String) (given : α → Response) (scene : Scene)
    (played : Played (Except Failure α)) : Prop where
  ages : Store.Ages service scene.clock
    (fun other => (writes ∧ other = id) ∧ ∃ value after,
      played = .finished (.ok value) after ∧ (given value).status = 204)
    scene.store played.scene.store
  tells : ∀ value after, played = .finished (.ok value) after →
    (given value).TellsStored id after.store

namespace Played.AgesLives

variable {α : Type} {writes others : Prop} {given : α → Response}
  {played : Played (Except Failure α)}

theorem congr (ages : played.AgesLives service writes id given scene)
    (same : writes ↔ others) : played.AgesLives service others id given scene :=
  propext same ▸ ages

/-- Where no write is accepted and nothing is told, only the store counts. -/
theorem of_unaccepted
    (ages : Store.Ages service scene.clock (fun _ => False) scene.store
      played.scene.store)
    (unaccepted : ∀ value after, played = .finished (.ok value) after →
      (given value).status ≠ 204 ∧ (given value).IsUndated) :
    played.AgesLives service writes id given scene where
  ages := by
    refine ages.congr fun other => ⟨False.elim, ?_⟩
    rintro ⟨-, value, after, ends, status⟩
    exact (unaccepted value after ends).1 status
  tells value after ends := .inl (unaccepted value after ends).2

/-- A failure makes of lives what it makes of the store. -/
theorem of_failed
    (ages : Store.Ages service scene.clock (fun _ => False) scene.store
      played.scene.store)
    (fails : ∀ value after, played ≠ .finished (.ok value) after) :
    played.AgesLives service writes id given scene :=
  of_unaccepted ages fun value after ends => absurd ends (fails value after)

end Played.AgesLives

namespace Handling

/-- A creation gives the new upload the life that it is due. -/
theorem carryOut_ages_of_creates (creates : intent.creates = true)
    (handled : ofIntent? service intent = some handling)
    (numbered : scene.store.IsNumbered) (dates : service.CanDate scene.clock)
    (silent : checked.IsSilent id) :
    ((handling.carryOut checked).play scene).AgesLives service False
      (Store.idOf scene.store.created) (·.1.response) scene := by
  have creation := carryOut_creation creates handled numbered checked
  generalize (handling.carryOut checked).play scene = played at creation ⊢
  cases creation with
  | @created upload outcome born =>
      refine ⟨.insert (fun _ here => here.1.1) born, ?_⟩
      intro value after ends
      cases ends
      refine .inr ⟨upload, (find?_inserted numbered upload).1, ?_⟩
      have placed := (silent.answerStatus 201).answerField
        (show HeaderName.uploadExpires ≠ HeaderName.location by decide)
        (addressOf service.config.urlPath (Store.idOf scene.store.created))
      exact placed.tellsLife fun _ known => known
  | failed failure =>
      refine ⟨.of_eq (fun _ here => here.1.1) rfl, ?_⟩
      intro value after ends
      cases ends
  | endless limited endless =>
      rw [dates.endFrom limited] at endless
      cases endless
  | timeless limited unreadable =>
      rw [dates.readable] at unreadable
      cases unreadable

/-- The answer to an accepted write tells the end of life that it is given. -/
theorem written_tellsLife (silent : checked.IsSilent id) (offset : Nat)
    {record : Upload} {expiry? : Option Instant}
    (known : ∀ expiry, expiry? = some expiry → record.expiry = some expiry) :
    (written checked offset expiry?).response.TellsLife record :=
  Exchange.IsSilent.tellsLife ((silent.answerStatus 204).answerField
    (show HeaderName.uploadExpires ≠ HeaderName.uploadOffset by decide)
    (toString offset)) known

section Writes

variable {upload received : Upload} {middle : Scene}

/-- What is written to keeps the end of its life. -/
theorem ages_of_rewrites {accepted : String → Prop}
    (found : scene.store.find? id = some upload)
    (lasting : received.LivesAs upload)
    (rewrites : scene.Rewrites id received middle)
    (others : ∀ other, other ≠ id → ¬accepted other)
    (stays : accepted id → Lifetime.slides service = false) :
    Store.Ages service now accepted scene.store middle.store := by
  refine .alters rewrites.alters rewrites.found others ?_
  rw [found]
  exact .kept stays lasting

/-- Where lives do not slide, an accepted write leaves their ends. -/
theorem written_ages_of_stays {outcome : Outcome}
    (found : scene.store.find? id = some upload)
    (lasting : received.LivesAs upload)
    (rewrites : scene.Rewrites id received middle)
    (stays : Lifetime.slides service = false) (silent : checked.IsSilent id) :
    (Played.finished (.ok (written checked received.offset
        ((Lifetime.policy? service).bind fun _ => received.expiry), outcome))
      middle : Played (Except Failure (Exchange × Outcome))).AgesLives service
        True id (·.1.response) scene where
  ages := ages_of_rewrites found lasting rewrites
    (fun _ apart here => apart here.1.2) fun _ => stays
  tells value after ends := by
    cases ends
    refine .inr ⟨received, rewrites.found, written_tellsLife silent _ ?_⟩
    intro expiry known
    exact (Option.bind_eq_some_iff.1 known).choose_spec.2

/-- Where lives slide, an accepted write moves the end of one. -/
theorem written_ages_of_moves {policy : Policy} {expiry : Instant}
    {outcome : Outcome} (found : scene.store.find? id = some upload)
    (apart : upload.part.isJoined = false)
    (lasting : received.LivesAs upload)
    (rewrites : scene.Rewrites id received middle)
    (slides : Lifetime.slides service = true)
    (limited : Lifetime.policy? service = some policy)
    (dated : policy.endFrom scene.clock = .ok expiry)
    (silent : checked.IsSilent id) :
    (Played.finished
        (.ok (written checked received.offset (some expiry), outcome))
        { middle with store := middle.store.modify id (Upload.renewed expiry) }
      : Played (Except Failure (Exchange × Outcome))).AgesLives service True id
        (·.1.response) scene := by
  have renewed := rewrites.trans
    (.modify rewrites.found (Upload.renewed expiry))
  have born : (received.renewed expiry).BornAt service scene.clock :=
    Upload.bornAt_renewed limited dated (lasting.part ▸ apart)
  refine ⟨.alters renewed.alters renewed.found
    (fun _ apart here => apart here.1.2) ?_, ?_⟩
  · rw [found]
    exact .moved ⟨⟨trivial, rfl⟩, _, _, rfl, rfl⟩ slides born lasting.part
  · intro value after ends
    cases ends
    exact .inr ⟨received.renewed expiry, renewed.found,
      written_tellsLife silent _ fun given known => known⟩

/-- The end of the life is moved as the answer to an accepted write says. -/
theorem Acceptance.ages {played : Played (Except Failure (Exchange × Outcome))}
    (accepts : Acceptance service checked received middle played)
    (found : scene.store.find? checked.fileId = some upload)
    (apart : upload.part.isJoined = false)
    (lasting : received.LivesAs upload)
    (rewrites : scene.Rewrites checked.fileId received middle)
    (dates : service.CanDate scene.clock) (silent : checked.IsSilent id) :
    played.AgesLives service True id (·.1.response) scene := by
  have clock : middle.clock = scene.clock := rewrites.host.clock
  obtain rfl := silent.about
  cases accepts with
  | stays stays =>
      exact written_ages_of_stays found lasting rewrites stays silent
  | moves slides limited dated =>
      rw [clock] at dated
      exact written_ages_of_moves found apart lasting rewrites slides limited
        dated silent
  | endless limited endless =>
      rw [clock, dates.endFrom limited] at endless
      cases endless
  | timeless limited unreadable =>
      rw [clock, dates.readable] at unreadable
      cases unreadable

/-- Only a write that is accepted moves the end of a life, if lives slide. -/
theorem write_carryOut_ages
    (found : scene.store.find? checked.fileId = some upload)
    (may : MayWrite service exchange checked upload)
    (unchecked : IsUnchecked exchange) (apart : upload.part.isJoined = false)
    (dates : service.CanDate scene.clock)
    (silent : checked.IsSilent id) :
    (((write service).carryOut checked).play scene).AgesLives service True id
      (·.1.response) scene := by
  have writing := write_carryOut_writing found may unchecked
  have keeps {received : Upload} {after : Scene}
      (lasting : received.LivesAs upload)
      (rewrites : scene.Rewrites checked.fileId received after) :
      Store.Ages service scene.clock (fun _ => False) scene.store
        after.store :=
    ages_of_rewrites found lasting rewrites (fun _ _ => not_false) False.elim
  generalize ((write service).carryOut checked).play scene = played
    at writing ⊢
  cases writing with
  | accepted lasting rewrites accepts =>
      exact accepts.ages found apart lasting rewrites dates silent
  | mismatched lasting rewrites =>
      refine .of_unaccepted (keeps lasting rewrites) ?_
      intro value last ends
      cases ends
      exact ⟨of_decide_eq_true rfl, silent.undated⟩
  | broken lasting rewrites fails =>
      exact .of_failed (keeps lasting rewrites) fails

end Writes

/-- A deletion tells nothing of lives. -/
theorem delete_carryOut_ages (silent : checked.IsSilent id) :
    (((delete service).carryOut checked).play scene).AgesLives service False id
      (·.1.response) scene where
  ages := by
    rcases delete_store service checked scene with left | left
    · exact .of_eq (fun _ here => here.1.1) left
    · rw [left]
      exact .erase (fun _ here => here.1.1) _ _
  tells value after ends := by
    have gives : ((delete service).carryOut checked).Gives fun given =>
        given.1.response.IsUndated :=
      .bind fun _ => .pure silent.undated
    exact .inl (gives scene value after ends)

/-- The end of the life comes last in the answer about an upload. -/
theorem exists_answerInfo (silent : checked.IsSilent id) (service : Service)
    (length : Option Nat) (offset : Nat) (metadata : Option String)
    (part : Part) (expiry? : Option Instant) :
    ∃ rest : Exchange, rest.IsSilent id ∧
      answerInfo service checked length offset metadata part expiry?
        = rest.answerFieldIf HeaderName.uploadExpires
            (expiry?.map Instant.headerText) := by
  have cached := (silent.answerStatus 200).answerField
    (show HeaderName.uploadExpires ≠ HeaderName.cacheControl by decide)
    "no-store"
  have measured {measured : Exchange} (silent : measured.IsSilent id)
      (assembling : Bool) :
      (if assembling = true then measured
        else measured.answerField HeaderName.uploadOffset
          (toString offset)).IsSilent id := by
    split
    · exact silent
    · exact silent.answerField (by decide) _
  cases length with
  | some length =>
      refine ⟨_, ?_, rfl⟩
      exact ((measured (cached.answerField (by decide) _)
        _).answerFieldIf (by decide) _).answerFieldIf (by decide) _
  | none =>
      refine ⟨_, ?_, rfl⟩
      exact ((measured (cached.answerField (by decide) _)
        _).answerFieldIf (by decide) _).answerFieldIf (by decide) _

/-- Who asks about an upload is told the end of life that is stored. -/
theorem info_carryOut_ages {upload : Upload}
    (found : scene.store.find? id = some upload)
    (silent : checked.IsSilent id) :
    (((info service).carryOut checked).play scene).AgesLives service False id
      (·.1.response) scene := by
  obtain ⟨part, -, ends⟩ := play_info service (silent.about ▸ found)
  rw [ends]
  refine ⟨.of_eq (fun _ here => here.1.1) rfl, ?_⟩
  intro value after same
  cases same
  obtain ⟨rest, silent, answered⟩ := exists_answerInfo silent service
    upload.length upload.offset upload.metadata part
    ((Lifetime.policy? service).bind fun _ => upload.expiry)
  refine .inr ⟨upload, found, ?_⟩
  simp only [answered]
  refine silent.tellsLife ?_
  intro expiry known
  exact (Option.bind_eq_some_iff.1 known).choose_spec.2

/-- Who asks what is on offer is told nothing of lives. -/
theorem options_carryOut_ages (silent : checked.IsSilent id) :
    (((options service).carryOut checked).play scene).AgesLives service False id
      (·.1.response) scene where
  ages := .of_eq (fun _ here => here.1.1)
    (congrArg Scene.store ((options_carryOut_inquires service checked).asks
      scene))
  tells value after ends := by
    have gives : ((options service).carryOut checked).Gives fun given =>
        given.1.response.IsUndated := by
      refine .bind fun algorithms => .pure ?_
      exact (((((silent.answerStatus 204).answerField (by decide)
        _).answerFieldIf (by decide) _).answerFieldIf (by decide)
          _).answerFieldIf (by decide) _).undated
    exact .inl (gives scene value after ends)

end Handling

/-! ## Intents -/

/-- The upload that an intent is about: the next one, if it creates. -/
def Intent.subject (intent : Intent) (exchange : Exchange) (store : Store) :
    String :=
  if intent.creates then Store.idOf store.created else exchange.fileId

namespace Protocol

/-- An answer to a failure accepts no write and tells the end of no life. -/
theorem unaccepted_of_settle_error {failure : Failure}
    (silent : exchange.IsSilent id)
    (settled : settle exchange (.error failure) = .ok done) :
    done.response.status ≠ 204 ∧ done.response.IsUndated := by
  have status := status_of_settle_error settled
  refine ⟨by omega, ?_⟩
  cases failure with
  | refused cause | missing id =>
      cases settled
      exact silent.undated
  | _ => cases settled

variable {writes : Prop}

/-- A request that is turned away makes nothing of lives. -/
theorem rejected_ages (rejection : Rejection) (silent : exchange.IsSilent id)
    (same : after.store = scene.store) {subject : String} :
    (Played.finished (.ok (exchange.reject rejection)) after
      : Played (Except Failure Exchange)).AgesLives service writes subject
        (·.response) scene := by
  refine .of_unaccepted (.of_eq (fun _ => not_false) same) ?_
  intro value last ends
  cases ends
  have bad : 400 ≤ rejection.status := rejection.le_status
  refine ⟨?_, silent.undated⟩
  change rejection.status ≠ 204
  omega

/-- Where all ends in a failure that is settled, only the store counts. -/
theorem settled_ages {subject : String}
    {played : Played (Except Failure Exchange)}
    (silent : exchange.IsSilent id)
    (ages : Store.Ages service scene.clock (fun _ => False) scene.store
      played.scene.store)
    (ends : ∀ result after, played = .finished result after →
      ∃ failure, result = settle exchange (.error failure)) :
    played.AgesLives service writes subject (·.response) scene := by
  refine .of_unaccepted ages ?_
  intro value after same
  obtain ⟨failure, settled⟩ := ends _ _ same
  exact unaccepted_of_settle_error silent settled.symm

/-- Work that fails moves the end of no life. -/
theorem ages_of_failed {subject : String}
    {played : Played (Except Failure (Exchange × Outcome))}
    (carried : played.AgesLives service writes subject (·.1.response) scene)
    (fails : ∀ value after, played ≠ .finished (.ok value) after) :
    Store.Ages service scene.clock (fun _ => False) scene.store
      played.scene.store := by
  refine carried.ages.congr fun other => ⟨?_, False.elim⟩
  rintro ⟨-, value, after, ends, -⟩
  exact fails value after ends

/-- Work that is done counts, whatever becomes of the lease after it. -/
theorem done_ages {subject : String} {outcome : Outcome} {told last : Scene}
    (carried : (Played.finished (.ok (done, outcome)) last
      : Played (Except Failure (Exchange × Outcome))).AgesLives service writes
        subject (·.1.response) told)
    (clock : told.clock = scene.clock) (store : told.store = scene.store)
    (left : after.store = last.store) :
    (Played.finished (.ok done) after
      : Played (Except Failure Exchange)).AgesLives service writes subject
        (·.response) scene where
  ages := by
    have ages := carried.ages
    rw [clock, store] at ages
    have ages : Store.Ages service scene.clock _ scene.store last.store := ages
    rw [← left] at ages
    refine ages.congr fun id => ⟨?_, ?_⟩
    · rintro ⟨about, value, last, same, status⟩
      cases same
      exact ⟨about, _, _, rfl, status⟩
    · rintro ⟨about, value, last, same, status⟩
      cases same
      exact ⟨about, _, _, rfl, status⟩
  tells value _ same := by
    cases same
    rw [left]
    exact carried.tells _ _ rfl

/--
An intent makes of lives what its work does, if it comes to any, and tells of
lives what its work tells.
-/
theorem handleIntent_ages {id : String}
    (handled : Handling.ofIntent? service intent = some handling)
    (blank : exchange.response = {})
    (passes : (handleIntent intent handling exchange).Passes scene)
    (work : ∀ checked asked told, checked.IsSilent exchange.fileId →
      (handling.check (versioned exchange)).play asked
        = .finished (.ok (.ok checked)) asked →
      asked.store = scene.store → told.store = asked.store →
      told.clock = scene.clock →
      ((handling.carryOut checked).play told).AgesLives service writes id
        (·.1.response) told) :
    ((handleIntent intent handling exchange).play scene).AgesLives service
      writes id (·.response) scene := by
  have silent : (versioned exchange).IsSilent exchange.fileId := by
    refine Exchange.IsSilent.answerField ⟨?_, rfl⟩ (by decide) _
    rw [blank]
    rfl
  have carried {checked : Exchange} {asked told : Scene}
      (sight : scene.SameSight asked)
      (checks : (handling.check (versioned exchange)).play asked
        = .finished (.ok (.ok checked)) asked)
      (telling : asked.OnlyTold told) :
      told.clock = scene.clock ∧ told.store = scene.store ∧
        ((handling.carryOut checked).play told).AgesLives service writes id
          (·.1.response) told := by
    have notes : (versioned exchange).Notes checked :=
      Handling.check_admits handled _ _ _ _ checks
    have clock : told.clock = scene.clock :=
      (Scene.SameSight.of_told telling).ground.clock.trans sight.ground.clock
    exact ⟨clock, telling.store.trans sight.store,
      work checked asked told (silent.notes notes) checks sight.store
        telling.store clock⟩
  have concludes := handleIntent_concludes handled passes
  generalize (handleIntent intent handling exchange).play scene = played
    at concludes ⊢
  cases concludes with
  | misversioned given left =>
      have versions := silent.answerField
        (show HeaderName.uploadExpires ≠ HeaderName.tusVersion by decide)
        protocolVersion
      exact rejected_ages _ versions left.store
  | leased left => exact rejected_ages _ silent left.store
  | rejected sight checks left => exact rejected_ages _ silent left.store
  | missed left ends =>
      exact settled_ages silent (.of_eq (fun _ => not_false) left.store) ends
  | broken sight checks telling fails left ends =>
      obtain ⟨clock, store, carried⟩ := carried sight checks telling
      have ages := ages_of_failed carried fails
      rw [clock, store, ← left] at ages
      refine settled_ages silent ages ?_
      intro result after same
      obtain ⟨failure, last, -, closes⟩ := ends _ _ same
      exact ⟨failure, closes⟩
  | done sight checks telling works left =>
      obtain ⟨clock, store, carried⟩ := carried sight checks telling
      rw [works] at carried
      exact done_ages carried clock store left

/-- What every intent makes of lives, on whatever store. -/
theorem handleIntent_agesLives
    (handled : Handling.ofIntent? service intent = some handling)
    (blank : exchange.response = {})
    (unchecked : Handling.IsUnchecked exchange)
    (passes : (handleIntent intent handling exchange).Passes scene)
    (all : service.AccommodatesAll scene.store)
    (dates : service.CanDate scene.clock) :
    ((handleIntent intent handling exchange).play scene).AgesLives service
      (intent = .writeFile) (intent.subject exchange scene.store)
      (·.response) scene := by
  have apart {other : Intent} (different : other ≠ .writeFile) :
      False ↔ other = .writeFile :=
    ⟨False.elim, different⟩
  refine handleIntent_ages handled blank passes ?_
  intro checked asked told silent checks sight telling clock
  have dates : service.CanDate told.clock := clock.symm ▸ dates
  cases intent with
  | createFile | concatenate =>
      have numbered : told.store.IsNumbered := by
        rw [telling, sight]
        exact all.numbered
      have ages := Handling.carryOut_ages_of_creates rfl handled numbered dates
        silent
      rw [telling, sight] at ages
      exact ages.congr (apart nofun)
  | writeFile =>
      cases handled
      obtain ⟨upload, found, may⟩ := Handling.write_check_ends_well checks
      have about : checked.fileId = exchange.fileId := silent.about
      have here : scene.store.find? exchange.fileId = some upload := by
        rw [← sight]
        exact found
      have single : upload.part.isJoined = false := by
        cases joined : upload.part.isJoined with
        | false => rfl
        | true =>
            have supported := ((all.records _ _ here).joined joined).1
            exact joined.symm.trans (may.notJoined supported)
      have there : told.store.find? checked.fileId = some upload := by
        rw [telling, sight, about]
        exact here
      exact (Handling.write_carryOut_ages there may unchecked.versioned single
        dates silent).congr ⟨fun _ => rfl, fun _ => trivial⟩
  | deleteFile =>
      cases handled
      exact (Handling.delete_carryOut_ages silent).congr (apart nofun)
  | fileInfo =>
      cases handled
      rcases Check.bind_ends_well checks with ⟨_, _, present, -⟩
      obtain ⟨⟨upload, found⟩, -⟩ :=
        Requirement.exists_found_of_present present
      have there : told.store.find? exchange.fileId = some upload := by
        rw [telling]
        exact found
      exact (Handling.info_carryOut_ages there silent).congr (apart nofun)
  | options =>
      cases handled
      exact (Handling.options_carryOut_ages silent).congr (apart nofun)
  | notApplicable => cases handled

end Protocol

end ResumableUpload
