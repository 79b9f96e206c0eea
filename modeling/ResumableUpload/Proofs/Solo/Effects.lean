import ResumableUpload.Proofs.Solo.Writing
/-!
# What a write does

The work of a write has four parts: a deferred length is fixed, the body is
appended, the appended bytes are held against the checksum that was promised,
and the client is told how far the upload is.  Each part is described here by
the record that it leaves.  `Handling.play_write` puts the parts together, and
`Handling.write_carryOut_spec` says what the whole makes of the record.
-/

namespace ResumableUpload

variable {service : Service} {exchange checked : Exchange} {scene : Scene}
  {id : String} {upload : Upload}

/-! ## The end of a life -/

/-- An upload whose life has a new end. -/
def Upload.renewed (expiry : Instant) (upload : Upload) : Upload :=
  { upload with expiry := some expiry }

/--
At most the end of the life of one upload has changed, and that only under a
policy.
-/
def Scene.Renews (service : Service) (id : String) (before after : Scene) :
    Prop :=
  after = before ∨ Lifetime.policy? service ≠ none ∧ ∃ expiry, after =
    { before with store := before.store.modify id (Upload.renewed expiry) }

namespace Lifetime

theorem policy?_of_unlimited (unlimited : service.config.expiration = none) :
    policy? service = none := by
  rw [policy?, unlimited, ite_self]

theorem call_setExpiry_renews (limited : policy? service ≠ none)
    (scene : Scene) (id : String) (expiry : Instant) :
    scene.Renews service id (scene.call (.setExpiry id expiry)).scene := by
  rw [Scene.call, if_neg (by simp [Call.looksAtClock])]
  simp only [Store.answer, Store.change]
  split
  · exact .inr ⟨limited, expiry, rfl⟩
  · exact .inl rfl

theorem renew_renews (service : Service) (id : String) (scene : Scene) :
    scene.Renews service id ((renew service id).play scene).scene := by
  rw [renew]
  cases limited : policy? service with
  | none => exact .inl rfl
  | some policy =>
      simp only [Attempt.play_bind, Attempt.play_now]
      split
      · simp only [Played.finished_andThen, Attempt.orFailure_ok]
        cases policy.endFrom scene.clock with
        | error cause => exact .inl rfl
        | ok expiry =>
            simp only [Attempt.play_bind]
            cases granted : service.terms.grants .expiration with
            | true =>
                rw [Attempt.play_serviceCall rfl granted]
                have applies : policy? service ≠ none := by simp [limited]
                have renews := call_setExpiry_renews applies scene id expiry
                generalize scene.call (.setExpiry id expiry) = played
                  at renews ⊢
                cases played with
                | finished result after => cases result <;> exact renews
                | waiting after => exact renews
                | collapsed after => exact renews
            | false =>
                rw [Attempt.play_serviceCall_of_not_granted rfl granted]
                exact .inl rfl
      · exact .inl rfl

theorem afterWrite_renews (service : Service) (id : String) (scene : Scene) :
    scene.Renews service id ((afterWrite service id).play scene).scene := by
  rw [afterWrite.eq_def]
  split
  · exact renew_renews service id scene
  · exact .inl ((current_inquires service id).asks scene)

end Lifetime

theorem Scene.Renews.rewrites {after : Scene}
    (renews : scene.Renews service id after)
    (found : scene.store.find? id = some upload) :
    ∃ expiry, (Lifetime.policy? service = none → expiry = upload.expiry) ∧
      Rewrites id { upload with expiry := expiry } scene after ∧
      after.client = scene.client := by
  rcases renews with rfl | ⟨limited, expiry, rfl⟩
  · exact ⟨upload.expiry, fun _ => rfl, .refl found, rfl⟩
  · exact ⟨some expiry, fun unlimited => absurd unlimited limited,
      .modify found (Upload.renewed expiry), rfl⟩

/-! ## The length -/

/-- An upload with the length that a write has declared for it, if it has. -/
def Upload.fixedBy (checked : Exchange) (upload : Upload) : Upload :=
  { upload with length := checked.declared.length.or upload.length }

namespace Handling

/-- The length that a write may fix is fixed. -/
theorem play_fixLength
    (found : scene.store.find? checked.fileId = some upload)
    (may : MayWrite service exchange checked upload)
    (fresh : exchange.declared.length = none) :
    ∃ after, (fixLength service checked).play scene = .finished (.ok ()) after ∧
      scene.Rewrites checked.fileId (upload.fixedBy checked) after ∧
      after.client = scene.client ∧ after.news = scene.news := by
  rw [fixLength]
  rcases may.length with same | ⟨length, fixes, given⟩
  · rw [fresh] at same
    refine ⟨scene, ?_, ?_, rfl, rfl⟩
    · rw [same]
      rfl
    · rw [Upload.fixedBy, same]
      exact .refl found
  · let fix (upload : Upload) : Upload := { upload with length := some length }
    refine ⟨{ scene with store := scene.store.modify checked.fileId fix }, ?_,
      ?_, rfl, rfl⟩
    · rw [given]
      simp only
      rw [Attempt.play_serviceCall rfl
        (Terms.grants_of_supports rfl fixes.deferrable)]
      simp [Scene.call, Call.looksAtClock, Store.answer, Store.setLength, found,
        fixes.unknown, fix]
    · rw [Upload.fixedBy, given]
      exact .modify found fix

end Handling

/-! ## The checksum -/

/-- The checksum that fields after a body give, as far as it can be used. -/
def Checksum.heard (headers? : Option Headers) : Checksum :=
  match (headers?.bind (·.text? HeaderName.uploadChecksum)).bind parse? with
  | none => .sentinel
  | some checksum =>
      if checksum.isAmong (Algorithm.all.map Algorithm.name) then checksum
      else .sentinel

/-- Whether bytes have a checksum. -/
def Checksum.vouches (checksum : Checksum) (bytes : Bytes) : Bool :=
  match Algorithm.ofName? checksum.algorithm with
  | some algorithm => algorithm.agrees bytes checksum.hash
  | none => false

/-- The digest of bytes that have a checksum is the one that it names. -/
theorem Checksum.digest_of_vouches {checksum : Checksum} {bytes : Bytes}
    (vouches : checksum.vouches bytes = true) :
    ∃ algorithm, Algorithm.ofName? checksum.algorithm = some algorithm ∧
      algorithm.digest bytes = checksum.hash := by
  rw [Checksum.vouches] at vouches
  cases named : Algorithm.ofName? checksum.algorithm with
  | none =>
      rw [named] at vouches
      cases vouches
  | some algorithm =>
      rw [named] at vouches
      have both := (Bool.and_eq_true_iff.1 vouches).2
      exact ⟨algorithm, rfl, eq_of_beq both⟩

/--
The checksum that a body has to have, once it is known what the client has sent
after it.
-/
def Pledge.claimed? (client : Client) : Pledge → Option Checksum
  | .none => .none
  | .given checksum => some checksum
  | .announced => some (.heard client.heard?.join)

namespace Handling

/-- A checksum that is looked for is one that can be verified. -/
theorem supports_of_pledgeOf {pledge : Pledge}
    (fresh : exchange.pledge = .none)
    (agreed : Requirement.pledgeOf service exchange = .ok pledge)
    (pledged : pledge ≠ .none) :
    service.terms.supports .checksum = true := by
  cases supported : service.terms.supports .checksum with
  | true => rfl
  | false =>
      rw [Requirement.pledgeOf, supported] at agreed
      cases agreed
      exact absurd fresh pledged

end Handling

/-- An upload with further bytes that have been verified. -/
def Upload.verified (upload : Upload) (kept : Bytes) : Upload :=
  { upload with content := upload.content ++ kept, chunkStart := none }

/--
Verifying an append compares exactly the bytes that were appended, and takes
them away again if they do not have the checksum.
-/
theorem Scene.call_verify {kept : Bytes}
    (found : scene.store.find? id = some (upload.appended kept))
    (checksum : Checksum) :
    ∃ after,
      scene.call (.verify id checksum.algorithm checksum.hash)
        = .finished (.ok (checksum.vouches kept)) after ∧
      after.client = scene.client ∧
      scene.Rewrites id
        (upload.verified (if checksum.vouches kept then kept else []))
        after := by
  let settle (upload' : Upload) : Upload :=
    { upload' with
      chunkStart := none
      content :=
        if checksum.vouches kept then upload'.content
        else upload'.content.take upload.content.length }
  have rewrites := Rewrites.modify found settle
  have settled : settle (upload.appended kept)
      = upload.verified (if checksum.vouches kept then kept else []) := by
    cases agrees : checksum.vouches kept <;>
      simp [settle, agrees, Upload.appended, Upload.beginChunk,
        Upload.verified]
  rw [settled] at rewrites
  refine ⟨{ scene with store := scene.store.modify id settle }, ?_, rfl,
    rewrites⟩
  rw [call, if_neg (by simp [Call.looksAtClock])]
  simp only [Store.answer, Store.verify, found]
  have start : (upload.appended kept).chunkStart = some upload.content.length :=
    rfl
  have content : (upload.appended kept).content = upload.content ++ kept := rfl
  simp only [start, content, Option.getD_some, List.drop_left,
    Checksum.vouches, settle]
  rfl

/--
How the look for trailing fields ends: with what is known of them then, and
without a trace in the store.
-/
inductive Scene.Hears (id : String) (upload : Upload) (scene : Scene) :
    Played (Option Headers) → Prop where
  | heard {heard : Option Headers} {after : Scene}
      (known : after.client.heard? = some heard)
      (rewrites : scene.Rewrites id upload after) :
      Hears id upload scene (.finished heard after)
  | waiting {after : Scene} (rewrites : scene.Rewrites id upload after) :
      Hears id upload scene (.waiting after)

theorem Scene.Hears.trans {middle : Scene} {played : Played (Option Headers)}
    (first : scene.Rewrites id upload middle)
    (second : middle.Hears id upload played) :
    scene.Hears id upload played := by
  cases second with
  | heard known rewrites => exact .heard known (first.trans rewrites)
  | waiting rewrites => exact .waiting (first.trans rewrites)

theorem Scene.hearTrailers_hears
    (found : scene.store.find? id = some upload) (news : List News) :
    scene.Hears id upload (scene.hearTrailers news) := by
  induction news generalizing scene with
  | nil =>
      have same : scene.Rewrites id upload { scene with news := [] } :=
        ⟨⟨rfl, rfl, rfl, rfl, rfl, rfl, rfl⟩, .refl id scene.store, found⟩
      rw [hearTrailers]
      simp only
      cases known : scene.client.heard? with
      | some heard => exact .heard known same
      | none => exact .waiting same
  | cons first later hypothesis =>
      have same : scene.Rewrites id upload
          { scene with news := first :: later } :=
        ⟨⟨rfl, rfl, rfl, rfl, rfl, rfl, rfl⟩, .refl id scene.store, found⟩
      rw [hearTrailers]
      simp only
      cases known : scene.client.heard? with
      | some heard => exact .heard known same
      | none => exact .trans (same.hear first later) (hypothesis found)

namespace Handling

/-- The checksum after a body is the one that was heard. -/
theorem play_trailingChecksum
    (supported : service.terms.supports .checksum = true) (scene : Scene) :
    (trailingChecksum service).play scene
      = (scene.hearTrailers scene.news).andThen fun heard scene =>
          .finished (.ok (Checksum.heard heard)) scene := by
  rw [trailingChecksum, Attempt.play_bind, Attempt.play_trailers,
    Played.andThen_assoc]
  refine congrArg (scene.hearTrailers scene.news).andThen
    (funext fun heard => funext fun scene => ?_)
  have asked : (service.call .algorithms).play scene
      = .finished (.ok (Algorithm.all.map Algorithm.name)) scene :=
    Attempt.play_serviceCall rfl
      (Terms.grants_of_supports rfl supported) scene
  simp only [Played.finished_andThen, Attempt.orFailure_ok]
  have same : (do
      let trailers ← heard
      let text ← trailers.text? HeaderName.uploadChecksum
      Checksum.parse? text)
      = (heard.bind (·.text? HeaderName.uploadChecksum)).bind
          Checksum.parse? := by
    cases heard <;> rfl
  rw [same, Checksum.heard]
  cases (heard.bind (·.text? HeaderName.uploadChecksum)).bind
      Checksum.parse? with
  | none => rfl
  | some checksum =>
      simp only [Attempt.play_bind, asked, Played.finished_andThen,
        Attempt.orFailure_ok, Attempt.play_pure]

/-- How it ends when appended bytes are held against what was promised. -/
inductive PledgeEnds (id : String) (upload : Upload) (kept : Bytes)
    (pledge : Pledge) (scene : Scene) :
    Played (Except Failure Bool) → Prop where
  | unpledged (free : pledge = .none) :
      PledgeEnds id upload kept pledge scene (.finished (.ok true) scene)
  | held {after : Scene} {checksum : Checksum}
      (claimed : pledge.claimed? after.client = some checksum)
      (vouches : checksum.vouches kept = true)
      (rewrites : scene.Rewrites id (upload.verified kept) after) :
      PledgeEnds id upload kept pledge scene (.finished (.ok true) after)
  | broken {after : Scene}
      (rewrites : scene.Rewrites id (upload.verified []) after) :
      PledgeEnds id upload kept pledge scene (.finished (.ok false) after)
  | waiting {after : Scene}
      (rewrites : scene.Rewrites id (upload.appended kept) after) :
      PledgeEnds id upload kept pledge scene (.waiting after)

/-- Holding appended bytes against a checksum. -/
theorem verify_ends {pledge : Pledge} {kept : Bytes} {checksum : Checksum}
    (found : scene.store.find? id = some (upload.appended kept))
    (supported : service.terms.supports .checksum = true)
    (claimed : pledge.claimed? scene.client = some checksum) :
    PledgeEnds id upload kept pledge scene
      ((service.call (.verify id checksum.algorithm checksum.hash)).play
        scene) := by
  rcases Scene.call_verify found checksum with
      ⟨after, verified, client, rewrites⟩
  rw [Attempt.play_serviceCall rfl (Terms.grants_of_supports rfl supported),
    verified]
  cases agrees : checksum.vouches kept with
  | true =>
      rw [agrees, if_pos rfl] at rewrites
      rw [← client] at claimed
      exact .held claimed agrees rewrites
  | false =>
      rw [agrees, if_neg Bool.false_ne_true] at rewrites
      exact .broken rewrites

theorem PledgeEnds.trans {pledge : Pledge} {kept : Bytes} {middle : Scene}
    {played : Played (Except Failure Bool)} (pledged : pledge ≠ .none)
    (first : scene.Rewrites id (upload.appended kept) middle)
    (second : PledgeEnds id upload kept pledge middle played) :
    PledgeEnds id upload kept pledge scene played := by
  cases second with
  | unpledged free => exact absurd free pledged
  | held claimed vouches rewrites =>
      exact .held claimed vouches (first.trans rewrites)
  | broken rewrites => exact .broken (first.trans rewrites)
  | waiting rewrites => exact .waiting (first.trans rewrites)

/-- What was appended is held against what was promised, if anything was. -/
theorem keepsPledge_ends {kept : Bytes}
    (found : scene.store.find? checked.fileId = some (upload.appended kept))
    (supports : checked.pledge ≠ .none →
      service.terms.supports .checksum = true) :
    PledgeEnds checked.fileId upload kept checked.pledge scene
      ((keepsPledge service checked).play scene) := by
  rw [keepsPledge]
  cases pledge : checked.pledge with
  | none => exact .unpledged rfl
  | given checksum =>
      have supported := supports (by simp [pledge])
      exact verify_ends found supported rfl
  | announced =>
      have supported := supports (by simp [pledge])
      have heard := Scene.hearTrailers_hears found scene.news
      simp only [pledged, Attempt.play_bind, map_eq_pure_bind,
        play_trailingChecksum supported, Played.andThen_assoc]
      generalize scene.hearTrailers scene.news = played at heard ⊢
      cases heard with
      | @heard heard after known rewrites =>
          refine .trans (by simp) rewrites ?_
          have claimed : Pledge.announced.claimed? after.client
              = some (.heard heard) := by
            rw [Pledge.claimed?, known]
            rfl
          exact verify_ends rewrites.found supported claimed
      | waiting rewrites => exact .waiting rewrites

end Handling

/-! ## The write as a whole -/

/-- What a write may make of the record of an upload. -/
structure Service.Writes (service : Service) (upload written : Upload) :
    Prop where
  metadata : written.metadata = upload.metadata
  part : written.part = upload.part
  notJoined : service.terms.supports .concatenation = true →
    upload.part.isJoined = false
  length : written.length = upload.length ∨
    ∃ length, Requirement.FixesLength service upload length ∧
      written.length = some length
  content : ∃ kept, written.content = upload.content ++ kept ∧
    { upload with length := written.length }.Admits kept.length
  expiry : Lifetime.policy? service = none → written.expiry = upload.expiry

namespace Handling

/-- A record with further bytes, for which there was room, has been written. -/
theorem MayWrite.writes (may : MayWrite service exchange checked upload)
    (fresh : exchange.declared.length = none) {kept : Bytes}
    (admits : (upload.fixedBy checked).Admits kept.length)
    (chunkStart : Option Nat) {expiry : Option Instant}
    (lasting : Lifetime.policy? service = none → expiry = upload.expiry) :
    service.Writes upload
      { upload.fixedBy checked with
        content := upload.content ++ kept
        chunkStart := chunkStart
        expiry := expiry } where
  metadata := rfl
  part := rfl
  notJoined := may.notJoined
  length := by
    rcases may.length with same | ⟨length, fixes, given⟩
    · left
      rw [fresh] at same
      simp only [Upload.fixedBy, same, Option.none_or]
    · right
      refine ⟨length, fixes, ?_⟩
      simp only [Upload.fixedBy, given, Option.some_or]
  content := ⟨kept, rfl, admits⟩
  expiry := lasting

/--
How far the work of a write comes that keeps some bytes of the body: it breaks
off with them, or they are taken away again as they are not what was promised,
or the write is answered.
-/
inductive WriteCourse (service : Service) (checked : Exchange)
    (upload : Upload) (scene : Scene) (kept : Bytes) :
    Played (Except Failure (Exchange × Outcome)) → Prop where
  | broken {played : Played (Except Failure (Exchange × Outcome))}
      (rewrites : scene.Rewrites checked.fileId
        ((upload.fixedBy checked).appended kept) played.scene)
      (breaks : ∀ result after, played = .finished result after →
        ∃ excess, result = .error (.refused (.excess excess))) :
      WriteCourse service checked upload scene kept played
  | mismatched {after : Scene}
      (rewrites : scene.Rewrites checked.fileId
        ((upload.fixedBy checked).verified []) after) :
      WriteCourse service checked upload scene kept (.finished
        (.ok (checked.reject .checksumMismatch, .settled)) after)
  | answered {middle : Scene} (chunkStart : Option Nat)
      (rewrites : scene.Rewrites checked.fileId
        { upload.fixedBy checked with
          content := upload.content ++ kept
          chunkStart := chunkStart } middle)
      (vouched : ∀ checksum,
        checked.pledge.claimed? middle.client = some checksum →
        checksum.vouches kept = true) :
      WriteCourse service checked upload scene kept
        ((answerWritten service checked).play middle)

/-- A write whose requirements are met takes its course. -/
theorem play_write
    (found : scene.store.find? checked.fileId = some upload)
    (may : MayWrite service exchange checked upload)
    (fresh : exchange.declared.length = none)
    (unpledged : exchange.pledge = .none) :
    ∃ kept, (upload.fixedBy checked).Admits kept.length ∧
      (scene.client.body = [] → kept = []) ∧
      WriteCourse service checked upload scene kept
        (((write service).carryOut checked).play scene) := by
  rcases play_fixLength found may fresh with
      ⟨middle, fixed, prepared, client, -⟩
  rcases Scene.append_spec prepared.found (route service) with
      ⟨kept, admits, empty, appended, ends⟩
  have appended := prepared.trans appended
  rw [client] at empty
  refine ⟨kept, admits, empty, ?_⟩
  rw [write]
  simp only
  rw [Attempt.play_bind, fixed, Played.finished_andThen, Attempt.orFailure_ok,
    Attempt.play_bind, Attempt.play_append]
  generalize middle.append checked.fileId (route service) = played
    at appended ends ⊢
  rcases ends with ends | ⟨-, after, rfl⟩
  · cases ends with
    | waiting after => exact .broken appended (by rintro _ _ ⟨⟩)
    | refused excess after =>
        refine .broken appended ?_
        rintro _ _ ⟨⟩
        exact ⟨excess, rfl⟩
    | done after =>
        have appended : scene.Rewrites checked.fileId
          ((upload.fixedBy checked).appended kept) after := appended
        have pledged := keepsPledge_ends appended.found
          (supports_of_pledgeOf unpledged may.pledge)
        rw [Played.finished_andThen, Attempt.orFailure_ok, Attempt.play_bind]
        generalize (keepsPledge service checked).play after = played
          at pledged ⊢
        cases pledged with
        | unpledged free =>
            refine .answered _ appended fun checksum claimed => ?_
            rw [free] at claimed
            cases claimed
        | held claimed vouches verified =>
            refine .answered _ (appended.trans verified) fun other given => ?_
            cases claimed.symm.trans given
            exact vouches
        | broken verified => exact .mismatched (appended.trans verified)
        | waiting still =>
            exact .broken (appended.trans still) (by rintro _ _ ⟨⟩)
  · exact .broken appended (by rintro _ _ ⟨⟩)

/-- How the work of a write ends. -/
inductive WriteEnds (checked : Exchange) (upload written : Upload) :
    Played (Except Failure (Exchange × Outcome)) → Prop where
  | accepted {done : Exchange} {outcome : Outcome} {after : Scene}
      (status : done.response.status = 204)
      (vouched : ∀ checksum,
        checked.pledge.claimed? after.client = some checksum →
        checksum.vouches (written.content.drop upload.content.length) = true) :
      WriteEnds checked upload written (.finished (.ok (done, outcome)) after)
  | mismatched {after : Scene} (same : written.content = upload.content) :
      WriteEnds checked upload written
        (.finished (.ok (checked.reject .checksumMismatch, .settled)) after)
  | failed (failure : Failure) (after : Scene) :
      WriteEnds checked upload written (.finished (.error failure) after)
  | waiting (after : Scene) : WriteEnds checked upload written (.waiting after)
  | collapsed (after : Scene) :
      WriteEnds checked upload written (.collapsed after)

/-- The answer to a write that was accepted. -/
theorem play_answerWritten {written : Upload}
    (found : scene.store.find? checked.fileId = some written) :
    ∃ expiry, (Lifetime.policy? service = none → expiry = written.expiry) ∧
      scene.Rewrites checked.fileId { written with expiry := expiry }
        ((answerWritten service checked).play scene).scene ∧
      ((answerWritten service checked).play scene).scene.client
        = scene.client ∧
      ∀ result after, (answerWritten service checked).play scene
          = .finished (.ok result) after →
        result.1.response.status = 204 := by
  have renews := Lifetime.afterWrite_renews service checked.fileId scene
  rw [answerWritten, Attempt.play_bind]
  generalize (Lifetime.afterWrite service checked.fileId).play scene = played
    at renews ⊢
  rcases renews.rewrites found with ⟨expiry, lasting, rewrites, client⟩
  refine ⟨expiry, lasting, ?_⟩
  cases played with
  | finished result after =>
      cases result with
      | error failure =>
          refine ⟨rewrites, client, fun result after ends => by cases ends⟩
      | ok expiry =>
          have there : after.store.find? checked.fileId = some _ :=
            rewrites.found
          rw [Played.finished_andThen, Attempt.orFailure_ok,
            Attempt.play_call_bind (Scene.call_offset there),
            Attempt.play_call_bind (Scene.call_length there)]
          refine ⟨rewrites, client, ?_⟩
          intro result after ends
          cases ends
          cases expiry <;> rfl
  | waiting after | collapsed after =>
      refine ⟨rewrites, client, ?_⟩
      intro result after ends
      cases ends

/-- A write is accepted once what was promised has been found to hold. -/
theorem accept_ends (service : Service) (upload : Upload) {written : Upload}
    (found : scene.store.find? checked.fileId = some written)
    (vouched : ∀ checksum,
      checked.pledge.claimed? scene.client = some checksum →
      checksum.vouches (written.content.drop upload.content.length) = true) :
    ∃ expiry, (Lifetime.policy? service = none → expiry = written.expiry) ∧
      scene.Rewrites checked.fileId { written with expiry := expiry }
        ((answerWritten service checked).play scene).scene ∧
      WriteEnds checked upload { written with expiry := expiry }
        ((answerWritten service checked).play scene) := by
  rcases play_answerWritten found with
      ⟨expiry, lasting, rewrites, client, status⟩
  refine ⟨expiry, lasting, rewrites, ?_⟩
  generalize (answerWritten service checked).play scene = played
    at client status ⊢
  rw [← client] at vouched
  cases played with
  | finished result after =>
      cases result with
      | error failure => exact .failed failure after
      | ok result => exact .accepted (status result after rfl) vouched
  | waiting after => exact .waiting after
  | collapsed after => exact .collapsed after

/--
A write whose requirements are met leaves the record as a write may, with the
length that it has fixed, and every other record as it was.  With an empty body
the content is left as it was.
-/
theorem write_carryOut_spec
    (found : scene.store.find? checked.fileId = some upload)
    (may : MayWrite service exchange checked upload)
    (fresh : exchange.declared.length = none)
    (unpledged : exchange.pledge = .none) :
    ∃ written, service.Writes upload written ∧
      written.length = (upload.fixedBy checked).length ∧
      (scene.client.body = [] → written.content = upload.content) ∧
      scene.Rewrites checked.fileId written
        (((write service).carryOut checked).play scene).scene ∧
      WriteEnds checked upload written
        (((write service).carryOut checked).play scene) := by
  rcases play_write found may fresh unpledged with
      ⟨kept, admits, empty, course⟩
  have same : scene.client.body = [] →
      upload.content ++ kept = upload.content := by
    intro nothing
    rw [empty nothing, List.append_nil]
  generalize ((write service).carryOut checked).play scene = played
    at course ⊢
  cases course with
  | broken rewrites breaks =>
      refine ⟨_, may.writes fresh admits (some upload.content.length)
        fun _ => rfl, rfl, same, rewrites, ?_⟩
      cases played with
      | finished result after =>
          rcases breaks result after rfl with ⟨excess, rfl⟩
          exact .failed _ after
      | waiting after => exact .waiting after
      | collapsed after => exact .collapsed after
  | mismatched rewrites =>
      -- What was appended is taken away again: the write adds nothing.
      exact ⟨_, may.writes fresh .zero none fun _ => rfl, rfl,
        fun _ => List.append_nil upload.content, rewrites,
        .mismatched (List.append_nil upload.content)⟩
  | answered chunkStart rewrites vouched =>
      obtain ⟨expiry, lasting, answers, ends⟩ := accept_ends service upload
        rewrites.found fun checksum claimed => by
          rw [List.drop_left]
          exact vouched checksum claimed
      exact ⟨_, may.writes fresh admits chunkStart lasting, rfl, same,
        rewrites.trans answers, ends⟩

end Handling

end ResumableUpload
