import ResumableUpload.Proofs.Solo.Append
import ResumableUpload.Proofs.Solo.Checks
/-!
# What is required of a write

On a scene every requirement of a write is a plain function of the scene and
the exchange.  `Handling.write_check_ends_well` reads off what is known once
all of them are met: `Handling.MayWrite`.
-/

namespace ResumableUpload

/-! ## Lengths -/

theorem Decimal.digitsFrom_lt {bound value result : Nat} {chars : List Char}
    (below : value < bound)
    (reads : digitsFrom bound value chars = some result) : result < bound := by
  induction chars generalizing value with
  | nil =>
      cases reads
      exact below
  | cons c rest hypothesis =>
      rw [digitsFrom] at reads
      split at reads
      · rename_i within
        have less := (Bool.and_eq_true_iff.1 within).2
        exact hypothesis (of_decide_eq_true less) reads
      · cases reads

theorem Decimal.digits?_lt {bound result : Nat} {chars : List Char}
    (reads : digits? bound chars = some result) : result < bound := by
  cases chars with
  | nil => cases reads
  | cons c rest =>
      rw [digits?] at reads
      · by_cases positive : 0 < bound
        · exact digitsFrom_lt positive reads
        · have zero : bound = 0 := by omega
          subst zero
          simp [digitsFrom] at reads
      · simp

/-- A signed number is a number of 64 bits. -/
theorem Decimal.signed?_toNat_lt {chars : List Char} {value : Int}
    (reads : signed? chars = some value) (positive : ¬value < 0) :
    value.toNat < signedBound := by
  simp only [signed?.eq_def] at reads
  split at reads
  · simp only [Option.map_eq_some_iff, Option.bind_eq_bind,
      Option.bind_eq_some_iff, Option.pure_def, Option.some.injEq] at reads
    rcases reads with ⟨-, ⟨digits, -, rfl⟩, rfl⟩
    have zero : digits = 0 := by omega
    rw [zero]
    decide
  · simp only [Option.map_eq_some_iff, Option.bind_eq_bind,
      Option.bind_eq_some_iff, Option.pure_def, Option.some.injEq] at reads
    rcases reads with ⟨-, ⟨digits, small, rfl⟩, rfl⟩
    exact digits?_lt small
  · simp only [Option.map_eq_some_iff, Option.bind_eq_bind,
      Option.bind_eq_some_iff, Option.pure_def, Option.some.injEq] at reads
    rcases reads with ⟨-, ⟨digits, small, rfl⟩, rfl⟩
    exact digits?_lt small

/-- A length that a server accepts of a client. -/
structure Service.AcceptsLength (service : Service) (length : Nat) : Prop where
  small : length < Decimal.signedBound
  allowed : ∀ max, service.config.maxSize = some max → length ≤ max

namespace Requirement

theorem acceptsLength_of_lengthOf {service : Service} {text? : Option String}
    {length : Nat}
    (reads : lengthOf text? service.config.maxSize = .ok length) :
    service.AcceptsLength length := by
  rw [lengthOf] at reads
  split at reads
  · cases reads
  · rename_i value found
    rcases Option.bind_eq_some_iff.1 found with ⟨text, -, signed⟩
    split at reads
    · cases reads
    · split at reads
      · cases reads
      · rename_i positive within
        cases reads
        refine ⟨Decimal.signed?_toNat_lt signed positive, ?_⟩
        intro max limited
        simp only [limited, Option.any_some, decide_eq_true_eq] at within
        omega

end Requirement

/-! ## Asking about an upload that is there -/

namespace Scene

variable {scene : Scene} {id : String} {upload : Upload}

theorem call_has (scene : Scene) (id : String) :
    scene.call (.has id) = .finished (.ok (scene.store.has id)) scene :=
  rfl

theorem call_length (found : scene.store.find? id = some upload) :
    scene.call (.length id) = .finished (.ok upload.length) scene := by
  simp [call, Call.looksAtClock, Store.answer, Store.ask, found]

theorem call_offset (found : scene.store.find? id = some upload) :
    scene.call (.offset id) = .finished (.ok upload.offset) scene := by
  simp [call, Call.looksAtClock, Store.answer, Store.ask, found]

theorem call_part (found : scene.store.find? id = some upload) :
    scene.call (.part id) = .finished (.ok upload.part) scene := by
  simp [call, Call.looksAtClock, Store.answer, Store.ask, found]

theorem call_expiry (found : scene.store.find? id = some upload) :
    scene.call (.expiry id) = .finished (.ok upload.expiry) scene := by
  simp [call, Call.looksAtClock, Store.answer, Store.ask, found]

end Scene

/-- An attempt that begins with a call to the store goes on with its answer. -/
theorem Attempt.play_call_bind {β : Type} {asked : Call} {scene after : Scene}
    {reply : asked.Reply}
    (called : scene.call asked = .finished (.ok reply) after)
    (rest : asked.Reply → Attempt β) :
    (Attempt.call asked >>= rest).play scene = (rest reply).play after := by
  rw [play_bind, play_call, called]
  rfl

/-- A check that calls the store gets its answer. -/
theorem Check.play_call {asked : Call} {scene after : Scene}
    {reply : asked.Reply}
    (called : scene.call asked = .finished (.ok reply) after) :
    (Check.call asked).play scene = .finished (.ok (.ok reply)) after := by
  rw [Check.call, play_attempt, Attempt.play_call, called]
  rfl

/-- What a check is known to come to is what it ends well in. -/
theorem Check.ends_well_of_play {α : Type} {check : Check α}
    {scene after : Scene} {result : Except Rejection α} {value : α}
    (plays : check.play scene = .finished (.ok result) scene)
    (ends : check.play scene = .finished (.ok (.ok value)) after) :
    result = .ok value ∧ scene = after := by
  rw [plays] at ends
  cases ends
  exact ⟨rfl, rfl⟩

/-- A check that begins with a call to the store goes on with its answer. -/
theorem Check.play_call_bind {β : Type} {asked : Call} {scene after : Scene}
    {reply : asked.Reply}
    (called : scene.call asked = .finished (.ok reply) after)
    (rest : asked.Reply → Check β) :
    (Check.call asked >>= rest).play scene = (rest reply).play after := by
  rw [play_bind, play_call called]
  rfl

/-! ## Means -/

/-- Means for an extension may be used where the extension is on offer. -/
theorem Terms.grants_of_supports {terms : Terms} {means : Means}
    {extension : Extension} (serves : means.extension? = some extension)
    (supported : terms.supports extension = true) :
    terms.grants means = true := by
  have offered : terms.offers means = true := by
    have both : (terms.offers extension.means && terms.allowed.has extension)
        = true := supported
    have first := (Bool.and_eq_true_iff.1 both).1
    cases means <;> cases serves <;> exact first
  simp [grants, serves, supported, offered]

/-- A policy for the ends of lives stands behind its extension. -/
theorem Lifetime.supports_of_policy? {service : Service} {policy : Policy}
    (limited : policy? service = some policy) :
    service.terms.supports .expiration = true := by
  rw [policy?] at limited
  split at limited
  · assumption
  · cases limited

namespace Attempt

/-- A call whose means may be used is a call. -/
theorem play_serviceCall {service : Service} {asked : Call} {means : Means}
    (needs : asked.means? = some means)
    (granted : service.terms.grants means = true) (scene : Scene) :
    (service.call asked).play scene = scene.call asked := by
  rw [Service.call, Service.permit, needs]
  simp [Service.require, granted]

/-- A call whose means may not be used is a failure. -/
theorem play_serviceCall_of_not_granted {service : Service} {asked : Call}
    {means : Means} (needs : asked.means? = some means)
    (granted : service.terms.grants means = false) (scene : Scene) :
    (service.call asked).play scene
      = .finished (.error (.unsupported means)) scene := by
  rw [Service.call, Service.permit, needs]
  simp [Service.require, granted]

end Attempt

/-! ## Header fields -/

namespace Headers

theorem has_eq_isSome (headers : Headers) (name : String) :
    headers.has name = (headers.first? name).isSome := by
  rw [has, first?, Option.isSome_map, Bool.eq_iff_iff, List.any_eq_true,
    List.find?_isSome]

/-- A field whose text can be read is there. -/
theorem has_of_text? {headers : Headers} {name text : String}
    (found : headers.text? name = some text) : headers.has name = true := by
  rcases Option.bind_eq_some_iff.1 found with ⟨value, first, -⟩
  rw [has_eq_isSome, first]
  rfl

/-- Whether the fields before a body give its checksum or announce it. -/
def promiseChecksum (headers : Headers) : Bool :=
  headers.has HeaderName.uploadChecksum || Requirement.announcesChecksum headers

end Headers

/-! ## Requirements of a write -/

namespace Exchange

/-- The exchange once the place where its body is to be appended is known. -/
def withOffset (exchange : Exchange) (offset : Nat) : Exchange :=
  { exchange with
    declared := { exchange.declared with offset := some offset } }

/-- The exchange once the length of its upload is known. -/
def withLength (exchange : Exchange) (length : Nat) : Exchange :=
  { exchange with
    declared := { exchange.declared with length := some length } }

/-- The exchange once the checksum that its body has to have is known. -/
def withPledge (exchange : Exchange) (pledge : Pledge) : Exchange :=
  { exchange with pledge := pledge }

end Exchange

namespace Requirement

variable {service : Service} {exchange : Exchange} {scene : Scene}
  {upload : Upload}

/-- The checksum that a body has to have, as far as the fields before it say. -/
def pledgeOf (service : Service) (exchange : Exchange) :
    Except Rejection Pledge :=
  if !service.terms.supports .checksum then .ok exchange.pledge
  else
    match exchange.headers.first? HeaderName.uploadChecksum,
      announcesChecksum exchange.headers with
    | some _, true => .error .checksumTwice
    | none, true =>
        if !exchange.hasTrailers
            || !service.terms.supports .checksumTrailer then
          .error .trailerUnsupported
        else .ok .announced
    | none, false => .ok exchange.pledge
    | some value, false =>
        match Checksum.parse? ((Field.textOf? value).getD "") with
        | none => .error .checksumUnreadable
        | some checksum =>
            let supported := Algorithm.all.map Algorithm.name
            if checksum.isAmong supported then .ok (.given checksum)
            else .error (.algorithmUnsupported supported)

theorem play_checksum (service : Service) (exchange : Exchange)
    (scene : Scene) :
    (checksum service exchange).play scene
      = .finished (.ok ((pledgeOf service exchange).map exchange.withPledge))
          scene := by
  rw [checksum, pledgeOf]
  cases supported : service.terms.supports .checksum with
  | false => rfl
  | true =>
      have granted : service.terms.grants .checksum = true :=
        Terms.grants_of_supports rfl supported
      simp only [Bool.not_true, Bool.false_eq_true, if_false]
      cases exchange.headers.first? HeaderName.uploadChecksum with
      | none =>
          cases announcesChecksum exchange.headers with
          | true =>
              simp only
              split <;> rfl
          | false => rfl
      | some value =>
          cases announcesChecksum exchange.headers with
          | true => rfl
          | false =>
              simp only
              cases Checksum.parse? ((Field.textOf? value).getD "") with
              | none => rfl
              | some checksum =>
                  have asked : (service.call .algorithms).play scene
                      = .finished
                          (.ok (Algorithm.all.map Algorithm.name)) scene :=
                    Attempt.play_serviceCall rfl granted scene
                  simp only [Check.play_bind, Check.play_attempt, asked,
                    Played.finished_andThen, Attempt.orFailure_ok,
                    Check.orRejection]
                  split <;> rfl

theorem play_present (exchange : Exchange) (scene : Scene) :
    (present exchange).play scene
      = .finished (.ok (if scene.store.has exchange.fileId then .ok ()
          else .error .notFound)) scene := by
  rw [present, Check.play_call_bind (scene.call_has exchange.fileId)]
  cases scene.store.has exchange.fileId <;> rfl

theorem play_partOf (found : scene.store.find? exchange.fileId = some upload)
    (service : Service) :
    (partOf service exchange.fileId).play scene
      = .finished (.ok (if service.terms.supports .concatenation then
          upload.part else .whole)) scene := by
  rw [partOf]
  cases supported : service.terms.supports .concatenation with
  | false => rfl
  | true =>
      rw [if_pos rfl, Attempt.play_serviceCall rfl
        (Terms.grants_of_supports rfl supported), Scene.call_part found]
      rfl

theorem play_notJoined
    (found : scene.store.find? exchange.fileId = some upload)
    (service : Service) :
    (notJoined service exchange).play scene
      = .finished (.ok (if service.terms.supports .concatenation
          && upload.part.isJoined then .error .joined else .ok ())) scene := by
  rw [notJoined, Check.play_bind]
  simp only [Check.play_attempt, play_partOf found, Played.finished_andThen,
    Attempt.orFailure_ok, Check.orRejection]
  cases service.terms.supports .concatenation with
  | false => rfl
  | true =>
      rw [if_pos rfl]
      cases upload.part.isJoined <;> rfl

theorem play_offsetMatches
    (found : scene.store.find? exchange.fileId = some upload) :
    (offsetMatches exchange).play scene
      = .finished (.ok
          (if upload.offset = exchange.declared.offset.getD 0 then .ok ()
          else .error (.offsetMismatch upload.offset
            (exchange.declared.offset.getD 0)))) scene := by
  rw [offsetMatches, Check.play_call_bind (Scene.call_offset found)]
  by_cases same : upload.offset = exchange.declared.offset.getD 0
  · simp [same]
  · simp [same]

theorem play_incomplete
    (found : scene.store.find? exchange.fileId = some upload) :
    (incomplete exchange).play scene
      = .finished (.ok (if upload.isComplete then .error .complete
          else .ok ())) scene := by
  rw [incomplete, Check.play_call_bind (Scene.call_length found),
    Upload.isComplete]
  cases upload.length with
  | none => rfl
  | some length =>
      simp only
      rw [Check.play_call_bind (Scene.call_offset found)]
      by_cases same : upload.offset = length
      · simp [same]
      · have apart : ¬length = upload.offset := fun equal => same equal.symm
        simp [same, apart]

theorem play_deferredLength_of_absent
    (absent : exchange.headers.has HeaderName.uploadLength = false)
    (service : Service) (scene : Scene) :
    (deferredLength service exchange).play scene
      = .finished (.ok (.ok exchange)) scene := by
  rw [deferredLength, absent]
  rfl

/-- What is known of a length that was deferred and has been accepted. -/
structure FixesLength (service : Service) (upload : Upload)
    (length : Nat) : Prop where
  accepted : service.AcceptsLength length
  deferrable : service.terms.supports .creationDeferLength = true
  unknown : upload.length = none
  offset_le : upload.offset ≤ length

theorem deferredLength_ends_well {checked : Exchange} {after : Scene}
    (found : scene.store.find? exchange.fileId = some upload)
    (ends : (deferredLength service exchange).play scene
      = .finished (.ok (.ok checked)) after) :
    checked = exchange ∨ ∃ length, FixesLength service upload length ∧
      lengthOf (exchange.headers.text? HeaderName.uploadLength)
        service.config.maxSize = .ok length ∧
      checked = exchange.withLength length := by
  cases given : exchange.headers.has HeaderName.uploadLength with
  | false =>
      rw [play_deferredLength_of_absent given] at ends
      cases ends
      exact .inl rfl
  | true =>
      rw [deferredLength, given] at ends
      rcases Check.bind_ends_well ends with ⟨length, middle, reads, ends⟩
      cases accepted : lengthOf
          (exchange.headers.text? HeaderName.uploadLength)
          service.config.maxSize with
      | error rejection =>
          rw [accepted] at reads
          cases reads
      | ok length =>
          rw [accepted] at reads
          cases reads
          cases deferrable : service.terms.supports .creationDeferLength with
          | false =>
              rw [deferrable] at ends
              cases ends
          | true =>
              rw [deferrable] at ends
              simp only [Bool.not_true, Bool.false_eq_true, if_false] at ends
              rw [Check.play_call_bind (Scene.call_length found)] at ends
              cases unknown : upload.length with
              | some known =>
                  rw [unknown] at ends
                  cases ends
              | none =>
                  rw [unknown] at ends
                  simp only [Option.isSome_none, Bool.false_eq_true,
                    if_false] at ends
                  rw [Check.play_call_bind (Scene.call_offset found)] at ends
                  split at ends
                  · cases ends
                  · rename_i enough
                    cases ends
                    exact .inr ⟨length,
                      ⟨acceptsLength_of_lengthOf accepted, deferrable, unknown,
                        Nat.le_of_not_lt enough⟩, rfl, rfl⟩

theorem offset_eq_ok {checked : Exchange}
    (reads : offset exchange = .ok checked) :
    ∃ given, checked = exchange.withOffset given := by
  rw [offset] at reads
  split at reads
  · cases reads
  · split at reads
    · cases reads
    · split at reads
      · cases reads
      · cases reads
        exact ⟨_, rfl⟩

/-- What is known of the checksum does not depend on the offset. -/
theorem pledgeOf_withOffset (given : Nat) :
    pledgeOf service (exchange.withOffset given) = pledgeOf service exchange :=
  rfl

theorem exists_pledgeOf {checked : Exchange}
    (pledges : (pledgeOf service exchange).map exchange.withPledge
      = .ok checked) :
    ∃ pledge, pledgeOf service exchange = .ok pledge ∧
      checked = exchange.withPledge pledge := by
  cases pledged : pledgeOf service exchange with
  | error rejection =>
      rw [pledged] at pledges
      cases pledges
  | ok pledge =>
      rw [pledged] at pledges
      cases pledges
      exact ⟨pledge, rfl, rfl⟩

theorem matches_of_offsetMatches {after : Scene} {given : Nat}
    (found : scene.store.find? exchange.fileId = some upload)
    (declared : exchange.declared.offset = some given)
    (ends : (offsetMatches exchange).play scene
      = .finished (.ok (.ok ())) after) :
    upload.offset = given ∧ scene = after := by
  rcases Check.ends_well_of_play (play_offsetMatches found) ends with
      ⟨same, here⟩
  refine ⟨?_, here⟩
  split at same
  · rename_i matched
    rw [declared] at matched
    exact matched
  · cases same

theorem isComplete_of_incomplete {after : Scene}
    (found : scene.store.find? exchange.fileId = some upload)
    (ends : (incomplete exchange).play scene = .finished (.ok (.ok ())) after) :
    upload.isComplete = false ∧ scene = after := by
  rcases Check.ends_well_of_play (play_incomplete found) ends with
      ⟨lacking, here⟩
  refine ⟨?_, here⟩
  split at lacking
  · cases lacking
  · exact Bool.eq_false_iff.2 ‹_›

theorem isJoined_of_notJoined {after : Scene}
    (found : scene.store.find? exchange.fileId = some upload)
    (ends : (notJoined service exchange).play scene
      = .finished (.ok (.ok ())) after) :
    (service.terms.supports .concatenation = true →
      upload.part.isJoined = false) ∧ scene = after := by
  rcases Check.ends_well_of_play (play_notJoined found service) ends with
      ⟨whole, here⟩
  refine ⟨fun supported => ?_, here⟩
  split at whole
  · cases whole
  · rename_i apart
    simpa [supported] using apart

theorem exists_found_of_present {after : Scene}
    (ends : (present exchange).play scene = .finished (.ok (.ok ())) after) :
    (∃ upload, scene.store.find? exchange.fileId = some upload) ∧
      scene = after := by
  rcases Check.ends_well_of_play (play_present exchange scene) ends with
      ⟨here, same⟩
  refine ⟨?_, same⟩
  split at here
  · exact Store.exists_find?_of_has ‹_›
  · cases here

end Requirement

/-! ## What a write may be sure of -/

namespace Handling

/-- What is known of a write to an upload all of whose requirements are met. -/
structure MayWrite (service : Service) (exchange checked : Exchange)
    (upload : Upload) : Prop where
  notJoined : service.terms.supports .concatenation = true →
    upload.part.isJoined = false
  incomplete : upload.isComplete = false
  pledge : Requirement.pledgeOf service exchange = .ok checked.pledge
  length : checked.declared.length = exchange.declared.length ∨
    ∃ length, Requirement.FixesLength service upload length ∧
      checked.declared.length = some length
  reads : exchange.declared.length = none →
    ∀ length, checked.declared.length = some length →
      Requirement.lengthOf (exchange.headers.text? HeaderName.uploadLength)
        service.config.maxSize = .ok length
  offset : Requirement.offset exchange = .ok (exchange.withOffset upload.offset)
  id : checked.id = exchange.id

theorem MayWrite.fileId {service : Service} {exchange checked : Exchange}
    {upload : Upload} (may : MayWrite service exchange checked upload) :
    checked.fileId = exchange.fileId :=
  congrArg (Option.getD · "") may.id

/--
If the requirements of a write are met, the upload is there, it is neither
joined nor complete, and the write begins where it ends.
-/
theorem write_check_ends_well {service : Service} {exchange checked : Exchange}
    {scene after : Scene}
    (ends : ((write service).check exchange).play scene
      = .finished (.ok (.ok checked)) after) :
    ∃ upload, scene.store.find? exchange.fileId = some upload ∧
      MayWrite service exchange checked upload := by
  -- One requirement after another, in the order in which they are checked.
  rcases Check.bind_ends_well ends with ⟨_, _, typed, ends⟩
  rcases Check.ends_well_of_play (Check.play_ofExcept _ _) typed with ⟨-, rfl⟩
  rcases Check.bind_ends_well ends with ⟨second, _, offset, ends⟩
  rcases Check.ends_well_of_play (Check.play_ofExcept _ _) offset with
      ⟨reads, rfl⟩
  rcases Requirement.offset_eq_ok reads with ⟨given, rfl⟩
  rcases Check.bind_ends_well ends with ⟨third, _, pledged, ends⟩
  rcases Check.ends_well_of_play (Requirement.play_checksum service _ _) pledged
      with ⟨pledges, rfl⟩
  rcases Requirement.exists_pledgeOf pledges with ⟨pledge, agreed, rfl⟩
  rcases Check.bind_ends_well ends with ⟨_, _, present, ends⟩
  rcases Requirement.exists_found_of_present present with ⟨⟨upload, found⟩, rfl⟩
  rcases Check.bind_ends_well ends with ⟨_, _, alive, ends⟩
  rcases (Requirement.alive_inquires service _).asks.same alive with rfl
  rcases Check.bind_ends_well ends with ⟨_, _, whole, ends⟩
  rcases Requirement.isJoined_of_notJoined found whole with ⟨notJoined, rfl⟩
  rcases Check.bind_ends_well ends with ⟨fourth, _, fixed, ends⟩
  rcases (Requirement.deferredLength_inquires service _).asks.same fixed with
      rfl
  rcases Check.bind_ends_well ends with ⟨_, _, matching, ends⟩
  rcases Check.bind_ends_well ends with ⟨_, _, lacking, ends⟩
  cases ends
  refine ⟨upload, found, ?_⟩
  rcases Requirement.deferredLength_ends_well found fixed with
      rfl | ⟨length, fixes, accepted, rfl⟩
  · rcases Requirement.matches_of_offsetMatches found rfl matching with
        ⟨rfl, rfl⟩
    rcases Requirement.isComplete_of_incomplete found lacking with
        ⟨incomplete, -⟩
    refine ⟨notJoined, incomplete, agreed, .inl rfl, ?_, reads, rfl⟩
    intro fresh length known
    have known : exchange.declared.length = some length := known
    rw [fresh] at known
    cases known
  · rcases Requirement.matches_of_offsetMatches found rfl matching with
        ⟨rfl, rfl⟩
    have there : scene.store.find? (((exchange.withOffset
        upload.offset).withPledge pledge).withLength length).fileId
        = some upload := found
    rcases Requirement.isComplete_of_incomplete there lacking with
        ⟨incomplete, -⟩
    refine ⟨notJoined, incomplete, agreed, .inr ⟨length, fixes, rfl⟩, ?_, reads,
      rfl⟩
    intro fresh other known
    cases known
    exact accepted

end Handling

end ResumableUpload
