import ResumableUpload.Proofs.Solo.Life
/-!
# Creations without a body

A request that creates an upload of a known length, and has no body, leaves a
blank record: no bytes, the length that was given, no end of its life and no
part in which others are joined.  The write that may follow the creation finds
nothing to append.  `Protocol.handle_blank` says so of every id under which
there was nothing before, where lives have no end.
-/

namespace ResumableUpload

variable {service : Service} {exchange checked : Exchange} {scene : Scene}
  {id : String} {length : Nat}

/-! ## Empty bodies -/

/-- An append leaves nothing to be read where there was nothing. -/
theorem Appending.advance_rest_nil (appending : Appending) (cancelled : Bool) :
    (appending.advance [] cancelled).rest = [] := by
  have nothing {σ ε : Type} (consume : σ → Bytes → σ × Option ε) (state : σ) :
      (Body.feed consume state cancelled false []).rest = [] := by
    rw [Body.feed]
    split <;> rfl
  cases appending with
  | buffered transfer =>
      have left := nothing Transfer.consume transfer
      simp only [advance, Transfer.run, Body.inReads]
      generalize Body.feed Transfer.consume transfer cancelled false [] = fed
        at left ⊢
      cases fed.stop <;> exact left
  | streamed target =>
      rw [advance]
      cases target.readSize <;> exact nothing StreamTarget.consume target

namespace Scene

/-- Where there is nothing to be read, nothing that is done brings more. -/
theorem perform_empty {scene : Scene} (empty : scene.client.body = [])
    (action : Action) : (scene.perform action).scene.client.body = [] := by
  have heard (scene : Scene) (first : News) (later : List News)
      (empty : scene.client.body = []) :
      (scene.hear first later).client.body = [] := by
    cases first <;> exact empty
  cases action with
  | acquire id => exact empty
  | release lease => exact empty
  | call asked =>
      change (scene.call asked).scene.client.body = []
      rw [call]
      split <;> exact empty
  | append id route =>
      refine append_keeps id (fun _ empty => empty) ?_ heard route empty
      intro middle appending news empty
      change (appending.advance middle.client.readable
        middle.client.cancelled).rest = []
      rw [Client.readable_of_empty empty]
      exact appending.advance_rest_nil middle.client.cancelled
  | trailers =>
      exact hearTrailers_keeps (fun _ _ empty => empty) heard scene.news empty
  | clock =>
      rw [perform]
      split <;> exact empty
  | tell event => exact (scene.tell_told event).sameMatter.body.trans empty
  | goOn begun =>
      change (scene.news.foldl (fun client news => news.reach client)
        scene.client).body = []
      -- An action that goes on finds nothing to go on with; only news arrive.
      generalize scene.client = client at empty
      induction scene.news generalizing client with
      | nil => exact empty
      | cons first later hypothesis =>
          apply hypothesis _
          cases first <;> exact empty

end Scene

/-- An empty body stays empty. -/
theorem Program.play_empty {α : Type} (program : Program α) {scene : Scene}
    (empty : scene.client.body = []) :
    (program.play scene).scene.client.body = [] := by
  refine @play_keeps α (fun scene => scene.client.body = []) ?_ program scene
    empty
  intro middle action empty
  exact middle.perform_empty empty action

/-! ## Blank records -/

/-- The record of an upload of a known length that has just been created. -/
structure Upload.IsBlank (length : Nat) (upload : Upload) : Prop where
  content : upload.content = []
  length : upload.length = some length
  apart : upload.part.isJoined = false
  immortal : upload.expiry = none

/-- Under an id there is nothing but a blank record. -/
def Store.IsBlankAt (store : Store) (id : String) (length : Nat) : Prop :=
  ∀ upload, store.find? id = some upload → upload.IsBlank length

namespace Store.IsBlankAt

variable {store after : Store} {upload written : Upload} {other : String}

/-- A blank record may be added. -/
theorem insert (blank : store.IsBlankAt id length)
    (new : upload.IsBlank length) :
    (store.insert upload).2.IsBlankAt id length := by
  intro later found
  rw [find?_insert] at found
  cases earlier : store.find? id with
  | some kept =>
      rw [earlier] at found
      cases found
      exact blank _ earlier
  | none =>
      rw [earlier, Option.none_or] at found
      split at found
      · cases found
        exact new
      · cases found

/-- A blank record stays blank if a write adds nothing. -/
theorem write (blank : store.IsBlankAt id length)
    (lasting : Lifetime.policy? service = none)
    (found : store.find? other = some upload)
    (writes : service.Writes upload written)
    (same : written.content = upload.content)
    (alters : store.AltersAt other after)
    (left : after.find? other = some written) :
    after.IsBlankAt id length := by
  intro later there
  by_cases equal : id = other
  · subst equal
    rw [left] at there
    cases there
    rcases blank upload found with ⟨content, known, apart, immortal⟩
    refine ⟨same.trans content, ?_, ?_, (writes.expiry lasting).trans immortal⟩
    · rcases writes.length with still | ⟨_, fixes, -⟩
      · exact still.trans known
      · rw [fixes.unknown] at known
        cases known
    · rw [writes.part]
      exact apart
  · rw [alters.others id equal] at there
    exact blank later there

end Store.IsBlankAt

/-! ## What is required of a creation -/

/-- The number that is given for the length of an upload. -/
def Headers.lengthGiven? (headers : Headers) : Option Int :=
  (headers.text? HeaderName.uploadLength).bind fun text =>
    Decimal.signed? (Blank.trimmed text.toList)

theorem Headers.has_of_lengthGiven? {headers : Headers} {number : Int}
    (given : headers.lengthGiven? = some number) :
    headers.has HeaderName.uploadLength = true := by
  rcases Option.bind_eq_some_iff.1 given with ⟨text, found, -⟩
  exact has_of_text? found

namespace Requirement

/-- The length that is given is the length of the new upload. -/
theorem newLength_eq
    (given : exchange.headers.lengthGiven? = some (length : Int))
    (apart : exchange.part.isJoined = false)
    (known : exchange.declared.deferred = false)
    (reads : newLength service exchange = .ok checked) :
    checked.newLength = some length := by
  rw [newLength, apart, Headers.has_of_lengthGiven? given] at reads
  simp only [Bool.false_eq_true, if_false] at reads
  split at reads
  · cases reads
  · rename_i contrary _
    cases contrary
  · rename_i contrary _
    cases contrary
  · rw [lengthOf] at reads
    rw [Headers.lengthGiven?] at given
    rw [given] at reads
    simp only at reads
    rw [if_neg (by omega)] at reads
    split at reads
    · cases reads
    · cases reads
      simp [Exchange.newLength, known]

/-- An upload whose length is given does not join others. -/
theorem isJoined_of_part {after : Scene}
    (measured : exchange.headers.has HeaderName.uploadLength = true)
    (ends : (part service exchange).play scene
      = .finished (.ok (.ok checked)) after) :
    checked.part.isJoined = false ∧ checked.headers = exchange.headers ∧
      checked.declared.deferred = exchange.declared.deferred := by
  rw [part] at ends
  simp only at ends
  split at ends
  · cases ends
  · rename_i part parsed
    rcases Check.bind_ends_well ends with ⟨_, _, possible, ends⟩
    cases ends
    refine ⟨?_, rfl, rfl⟩
    cases part with
    | whole => rfl
    | piece => rfl
    | joined ids =>
        rcases Check.bind_ends_well possible with ⟨_, _, joinable, ends⟩
        rw [measured] at ends
        cases ends

/-- The declared length is the length that is given. -/
theorem newLength_of_declared
    (given : exchange.headers.lengthGiven? = some (length : Int))
    (apart : exchange.part.isJoined = false)
    (known : exchange.declared.deferred = false)
    (reads : (newLength service exchange >>= metadata service) = .ok checked) :
    checked.newLength = some length := by
  cases first : newLength service exchange with
  | error rejection =>
      rw [first] at reads
      cases reads
  | ok middle =>
      rw [first] at reads
      rw [(metadata_keeps reads).1, newLength_eq given apart known first]

end Requirement

/-! ## What a creation leaves -/

/-- Where lives have no end, none is renewed. -/
theorem Lifetime.renew_asks (unlimited : service.config.expiration = none)
    (id : String) : (renew service id).Asks := by
  rw [renew, policy?_of_unlimited unlimited]
  exact .pure none

namespace Handling

/-- A new upload is blank if its length is known and nothing is joined. -/
theorem call_blank {asked : Call} {means : Means} {upload : Upload}
    (needs : asked.means? = some means)
    (creates : (scene.call asked).scene.store = (scene.store.insert upload).2)
    (new : upload.IsBlank length) (blank : scene.store.IsBlankAt id length)
    {α : Type} {rest : asked.Reply → Attempt α}
    (asks : ∀ reply, (rest reply).Asks) :
    ((service.call asked >>= rest).play scene).scene.store.IsBlankAt id
      length := by
  have told := Attempt.OnlyTells.play_bind_told
    (fun reply => .of_asks (asks reply)) (service.call asked) scene
  rw [told.store]
  cases granted : service.terms.grants means with
  | true =>
      rw [Attempt.play_serviceCall needs granted, creates]
      exact blank.insert new
  | false =>
      rw [Attempt.play_serviceCall_of_not_granted needs granted]
      exact blank

/--
The work of a creation leaves a blank record, if the length was given and lives
have no end.
-/
theorem carryOut_blank {intent : Intent} {handling : Handling}
    (unlimited : service.config.expiration = none)
    (given : exchange.headers.lengthGiven? = some (length : Int))
    (known : exchange.declared.deferred = false)
    (unchecked : IsUnchecked exchange) (creates : intent.creates = true)
    (handled : ofIntent? service intent = some handling) {after : Scene}
    (checks : (handling.check exchange).play scene
      = .finished (.ok (.ok checked)) after)
    {later : Scene} (blank : later.store.IsBlankAt id length) :
    ((handling.carryOut checked).play later).scene.store.IsBlankAt id
      length := by
  cases intent with
  | createFile =>
      cases handled
      rcases Check.ends_well_of_play (Check.play_ofExcept _ _) checks with
          ⟨reads, -⟩
      have apart : exchange.part.isJoined = false := by
        rw [Exchange.part, unchecked.part]
        rfl
      have measured :=
        Requirement.newLength_of_declared given apart known reads
      exact call_blank rfl rfl ⟨rfl, measured, rfl, rfl⟩ blank fun new =>
        .bind (Lifetime.renew_asks unlimited new) fun _ => .pure _
  | concatenate =>
      cases handled
      rcases Check.bind_ends_well checks with ⟨middle, _, parted, reads⟩
      rcases Requirement.isJoined_of_part (Headers.has_of_lengthGiven? given)
          parted with ⟨apart, headers, deferred⟩
      rcases Requirement.part_ends_well unchecked.length parted with ⟨fresh, -⟩
      rcases Check.ends_well_of_play (Check.play_ofExcept _ _) reads with
          ⟨reads, -⟩
      rw [← headers] at given
      have measured := Requirement.newLength_of_declared given apart
        (deferred.trans known) reads
      rw [← (Requirement.declared_accepts fresh reads).2] at apart
      have pieced : ((createPiece service checked).play
          later).scene.store.IsBlankAt id length :=
        call_blank rfl rfl ⟨rfl, measured, rfl, rfl⟩ blank fun new =>
          .bind (Lifetime.renew_asks unlimited new) fun _ => .pure _
      rw [concatenate]
      simp only
      cases played : checked.part with
      | whole => exact pieced
      | piece => exact pieced
      | joined ids =>
          rw [played] at apart
          cases apart
  | _ => cases creates

/-- A write that has nothing to append leaves a blank record blank. -/
theorem write_carryOut_blank (unlimited : service.config.expiration = none)
    (unchecked : IsUnchecked exchange) {after : Scene}
    (checks : ((write service).check exchange).play scene
      = .finished (.ok (.ok checked)) after)
    {later : Scene} (same : later.store = scene.store)
    (empty : later.client.body = []) (blank : later.store.IsBlankAt id length) :
    (((write service).carryOut checked).play later).scene.store.IsBlankAt id
      length := by
  rcases write_check_ends_well checks with ⟨upload, found, may⟩
  rw [← may.fileId, ← same] at found
  rcases write_carryOut_spec found may unchecked.length unchecked.pledge with
      ⟨written, writes, -, nothing, rewrites, -⟩
  exact blank.write (Lifetime.policy?_of_unlimited unlimited) found writes
    (nothing empty) rewrites.alters rewrites.found

end Handling

namespace Protocol

variable {handling : Handling}

/-- What is around the work of a handling puts nothing into the store. -/
theorem handleIntent_blank {intent : Intent}
    (handled : Handling.ofIntent? service intent = some handling)
    (empty : scene.client.body = []) (blank : scene.store.IsBlankAt id length)
    (works : ∀ {checked asked later},
      (handling.check (versioned exchange)).play asked
        = .finished (.ok (.ok checked)) asked →
      later.store = asked.store → later.client.body = [] →
      later.store.IsBlankAt id length →
      ((handling.carryOut checked).play later).scene.store.IsBlankAt id
        length) :
    ((handleIntent intent handling exchange).play
      scene).scene.store.IsBlankAt id length := by
  rcases handleIntent_store (Handling.asks_check handled (versioned exchange))
      intent scene with
      same | ⟨checked, asked, later, first, second, checks, left⟩
  · rw [same]
    exact blank
  · rw [← left]
    refine works checks (second.store.trans first.store.symm)
      (second.body.trans empty) ?_
    rw [second.store]
    exact blank

/-- What is sent to create something asks for a creation, or for nothing. -/
theorem creates_primary_of_post (terms : Terms) (address : Address)
    (headers : Headers) :
    Intent.primary terms .post address headers = .notApplicable ∨
      (Intent.primary terms .post address headers).creates = true := by
  cases address with
  | base =>
      rw [Intent.primary]
      split
      · exact .inr rfl
      · split
        · exact .inr rfl
        · exact .inl rfl
  | upload id => exact .inl rfl
  | elsewhere => exact .inl rfl

/-- What a request asks for that is sent to create something. -/
theorem intentsOf_of_post {request : Request}
    (method : request.method.effective request.headers = .post)
    (service : Service) :
    ∃ first rest, intentsOf service request = first :: rest ∧
      (first = .notApplicable ∨ first.creates = true) ∧
      (rest.head? = none ∨ rest.head? = some .writeFile) := by
  have creates (address : Address) :=
    creates_primary_of_post service.terms address request.headers
  rw [intentsOf, method, Intent.ofRequest]
  split
  · exact ⟨_, [], rfl, .inl rfl, .inl rfl⟩
  · simp only
    split
    · exact ⟨_, [.writeFile], rfl, creates _, .inr rfl⟩
    · exact ⟨_, [], rfl, creates _, .inl rfl⟩

theorem handleSecond_blank (unlimited : service.config.expiration = none)
    {second? : Option Intent}
    (writes : second? = none ∨ second? = some .writeFile)
    (empty : scene.client.body = []) (blank : scene.store.IsBlankAt id length) :
    ((handleSecond service exchange second?).play
      scene).scene.store.IsBlankAt id length := by
  rw [handleSecond.eq_def]
  split
  · rename_i intent handling new identified handled
    split
    · rcases writes with contrary | same
      · cases contrary
      · cases same
        cases handled
        rw [play_handleBody_store]
        exact handleIntent_blank rfl empty blank fun checks same empty blank =>
          Handling.write_carryOut_blank unlimited
            (.versioned (.continueWith exchange new)) checks same empty blank
    · exact blank
  · exact blank

/--
A request that gives a length and has no body leaves nothing but a blank record
under an id under which there was nothing, if lives have no end.
-/
theorem handle_blank {request : Request}
    (unlimited : service.config.expiration = none)
    (method : request.method.effective request.headers = .post)
    (given : request.headers.lengthGiven? = some (length : Int))
    (empty : scene.client.body = []) (blank : scene.store.IsBlankAt id length) :
    ((handle service request).play scene).scene.store.IsBlankAt id length := by
  rcases intentsOf_of_post method service with
      ⟨first, rest, asked, creates, writes⟩
  rw [handle, asked]
  simp only
  rcases creates with rfl | creates
  · exact blank
  · cases handled : Handling.ofIntent? service first with
    | none => exact blank
    | some handling =>
        have measured : (versioned (.ofRequest service
            request)).headers.lengthGiven? = some (length : Int) := given
        have created := handleIntent_blank handled empty blank
          fun checks _ _ blank => Handling.carryOut_blank unlimited measured rfl
            (.versioned (.ofRequest service request)) creates handled checks
            blank
        have still := (handleIntent first handling
          (.ofRequest service request)).play_empty empty
        simp only
        rw [Attempt.play_bind]
        change ((handleIntent first handling
          (.ofRequest service request)).play scene).scene.client.body = []
          at still
        generalize (handleIntent first handling
          (.ofRequest service request)).play scene = played at created still ⊢
        cases played with
        | waiting after | collapsed after => exact created
        | finished result after =>
            cases result with
            | error failure => exact created
            | ok exchange =>
                rw [Played.finished_andThen, Attempt.orFailure_ok,
                  (Attempt.OnlyTells.play_bind_told (fun _ => .pure _) _
                    after).store]
                exact handleSecond_blank unlimited writes still created

end Protocol

end ResumableUpload
