import ResumableUpload.Proofs.Solo.Work
import ResumableUpload.Proofs.Traffic.Answers
/-!
# The form of answers

An answer has one of eleven statuses, names the version of the protocol, and
has words for the client exactly where something was wrong that words can
explain.  It is put together step by step: `Exchange.IsOpen` is what holds of
it until something is rejected or done, and each way to close it leads to a
well-formed answer.
-/

namespace ResumableUpload

variable {service : Service} {exchange checked done : Exchange}
  {scene after : Scene} {intent : Intent} {handling : Handling}

/-! ## Fields that are written -/

namespace Field

/-- A character that is no control character, as far as ASCII has them. -/
def isPlain (c : Char) : Bool :=
  0x20 ≤ c.toNat && c.toNat != 0x7F

theorem isWritable_ofNat {number : Nat} (low : 0x20 ≤ number)
    (high : number < 256) (apart : number ≠ 0x7F) :
    isWritable (UInt8.ofNat number) = true := by
  have all : ∀ number < 256, 0x20 ≤ number → number ≠ 0x7F →
      isWritable (UInt8.ofNat number) = true := by
    decide +kernel
  exact all number high low apart

theorem isWritable_of_isPlain {c : Char} (plain : isPlain c = true) :
    (String.utf8EncodeChar c).all isWritable = true := by
  obtain ⟨low, apart⟩ := Bool.and_eq_true_iff.1 plain
  have low : 0x20 ≤ c.val.toNat := of_decide_eq_true low
  have apart : c.val.toNat ≠ 0x7F := by simpa using apart
  -- The bytes of longer forms have their highest bit set.
  rw [String.utf8EncodeChar]
  split
  · exact (Bool.and_true _).trans (isWritable_ofNat low (by omega) apart)
  · split
    · simp only [List.all_cons, List.all_nil, Bool.and_true,
        Bool.and_eq_true_iff]
      exact ⟨isWritable_ofNat (by omega) (by omega) (by omega),
        isWritable_ofNat (by omega) (by omega) (by omega)⟩
    · split
      · simp only [List.all_cons, List.all_nil, Bool.and_true,
          Bool.and_eq_true_iff]
        exact ⟨isWritable_ofNat (by omega) (by omega) (by omega),
          isWritable_ofNat (by omega) (by omega) (by omega),
          isWritable_ofNat (by omega) (by omega) (by omega)⟩
      · simp only [List.all_cons, List.all_nil, Bool.and_true,
          Bool.and_eq_true_iff]
        exact ⟨isWritable_ofNat (by omega) (by omega) (by omega),
          isWritable_ofNat (by omega) (by omega) (by omega),
          isWritable_ofNat (by omega) (by omega) (by omega),
          isWritable_ofNat (by omega) (by omega) (by omega)⟩

/-- A text without control characters can be written into a field. -/
theorem isWritable_of_plain {text : String}
    (plain : ∀ c ∈ text.toList, isPlain c = true) :
    (Bytes.ofString text).all isWritable = true := by
  rw [Bytes.ofString_eq_flatMap, List.all_flatMap, List.all_eq_true]
  exact fun c present => isWritable_of_isPlain (plain c present)

end Field

/-- A text that can be written is found where it has been put. -/
theorem Headers.first?_putText (headers : Headers) (name : String)
    {text : String} (writable : (Bytes.ofString text).all Field.isWritable
      = true) :
    (headers.putText name text).first? name = some (Bytes.ofString text) := by
  rw [putText, if_pos writable, first?_put]

theorem Exchange.first?_answerField (exchange : Exchange) (name : String)
    {text : String} (writable : (Bytes.ofString text).all Field.isWritable
      = true) :
    (exchange.answerField name text).response.headers.first? name
      = some (Bytes.ofString text) :=
  Headers.first?_putText _ name writable

/-- The address of an upload can be written if the base path can. -/
theorem isWritable_addressOf {urlPath : String}
    (plain : ∀ c ∈ urlPath.toList, Field.isPlain c = true) (number : Nat) :
    (Bytes.ofString (addressOf urlPath (Store.idOf number))).all
      Field.isWritable = true := by
  refine Field.isWritable_of_plain fun c present => ?_
  rw [addressOf, String.toList_append, String.toList_append,
    String.toList_ofList] at present
  rcases List.mem_append.1 present with base | id
  · rcases List.mem_append.1 base with base | slash
    · refine plain c ?_
      rw [baseChars, Split.trimEnd, List.mem_reverse] at base
      exact List.mem_reverse.1 ((List.dropWhile_sublist _).subset base)
    · rw [List.mem_singleton.1 slash]
      rfl
  · have chars : (Store.idOf number).toList
        = '~' :: (Nat.toDigits 10 number ++ ['~']) := by
      simp [Store.idOf, Nat.toList_repr]
    rw [chars, List.mem_cons, List.mem_append, List.mem_singleton] at id
    rcases id with rfl | digit | rfl
    · rfl
    · have digit : c.isDigit = true :=
        Nat.isDigit_of_mem_toDigits (by decide) (by decide) digit
      obtain ⟨low, high⟩ := Bool.and_eq_true_iff.1 digit
      have low : 48 ≤ c.toNat := of_decide_eq_true low
      have high : c.toNat ≤ 57 := of_decide_eq_true high
      simp [Field.isPlain]
      omega
    · rfl

theorem isWritable_protocolVersion :
    (Bytes.ofString protocolVersion).all Field.isWritable = true :=
  of_decide_eq_true rfl

/-! ## Answers under way -/

namespace Exchange

/--
Nothing is wrong so far; the version of the answer is known, and its status is
given.
-/
structure IsOpen (status : Nat) (exchange : Exchange) : Prop where
  status : exchange.response.status = status
  message : exchange.response.message = none
  version : exchange.response.headers.first? HeaderName.tusResumable
    = some (Bytes.ofString protocolVersion)

namespace IsOpen

variable {status : Nat}

theorem of_blank (blank : exchange.response = {}) :
    (Protocol.versioned exchange).IsOpen 200 := by
  refine ⟨?_, ?_, first?_answerField _ _ isWritable_protocolVersion⟩
  · change exchange.response.status = 200
    rw [blank]
  · change exchange.response.message = none
    rw [blank]

theorem notes (isOpen : exchange.IsOpen status)
    (notes : exchange.Notes checked) : checked.IsOpen status := by
  rw [notes]
  exact ⟨isOpen.status, isOpen.message, isOpen.version⟩

theorem answerStatus (isOpen : exchange.IsOpen status) (other : Nat) :
    (exchange.answerStatus other).IsOpen other :=
  ⟨rfl, isOpen.message, isOpen.version⟩

theorem answerField (isOpen : exchange.IsOpen status) {name : String}
    (apart : HeaderName.tusResumable ≠ name) (text : String) :
    (exchange.answerField name text).IsOpen status :=
  ⟨isOpen.status, isOpen.message,
    (first?_answerField_of_ne apart text).trans isOpen.version⟩

theorem answerFieldIf (isOpen : exchange.IsOpen status) {name : String}
    (apart : HeaderName.tusResumable ≠ name) (text? : Option String) :
    (exchange.answerFieldIf name text?).IsOpen status := by
  cases text? with
  | none => exact isOpen
  | some text => exact isOpen.answerField apart text

end IsOpen

end Exchange

/-! ## Well-formed answers -/

/-- The statuses that answers have. -/
def Response.statuses : List Nat :=
  [200, 201, 204, 400, 403, 404, 409, 412, 413, 415, 460]

/-- The statuses that need no words. -/
def Response.wordless : List Nat :=
  [200, 201, 204, 404]

/-- An answer as the protocol has it. -/
structure Response.IsWellFormed (response : Response) : Prop where
  status : response.status ∈ statuses
  version : response.headers.first? HeaderName.tusResumable
    = some (Bytes.ofString protocolVersion)
  message : response.message.isSome = true ↔ response.status ∉ wordless
  /-- Who follows another version is told which one is followed here. -/
  versions : response.status = 412 →
    response.headers.first? HeaderName.tusVersion
      = some (Bytes.ofString protocolVersion)

theorem Rejection.status_mem (rejection : Rejection) :
    rejection.status ∈ Response.statuses := by
  cases rejection <;> exact of_decide_eq_true rfl

/-- Every rejection has words, but for that of an upload that is not there. -/
theorem Rejection.message?_isSome (rejection : Rejection) :
    rejection.message?.isSome = true ↔
      rejection.status ∉ Response.wordless := by
  cases rejection <;> simp [message?, status, Response.wordless]

theorem Rejection.IsOrdinary.status_ne {rejection : Rejection}
    (ordinary : rejection.IsOrdinary) : rejection.status ≠ 412 := by
  cases rejection with
  | version given => cases ordinary
  | _ => exact of_decide_eq_true rfl

namespace Exchange.IsOpen

variable {status : Nat}

/-- What is done without fault is answered well. -/
theorem isWellFormed (isOpen : exchange.IsOpen status)
    (good : status ∈ [200, 201, 204]) : exchange.response.IsWellFormed := by
  obtain ⟨known, wordless, apart⟩ : status ∈ Response.statuses ∧
      status ∈ Response.wordless ∧ status ≠ 412 := by
    simp only [List.mem_cons, List.not_mem_nil, or_false] at good
    rcases good with rfl | rfl | rfl <;> decide
  constructor
  · rw [isOpen.status]
    exact known
  · exact isOpen.version
  · rw [isOpen.message, isOpen.status]
    simp [wordless]
  · rw [isOpen.status]
    exact fun contrary => absurd contrary apart

/-- What is rejected for an ordinary reason is answered well. -/
theorem reject (isOpen : exchange.IsOpen status) {rejection : Rejection}
    (ordinary : rejection.IsOrdinary) :
    (exchange.reject rejection).response.IsWellFormed where
  status := rejection.status_mem
  version := isOpen.version
  message := rejection.message?_isSome
  versions contrary := absurd contrary ordinary.status_ne

/-- Who follows another version is answered well. -/
theorem misversioned (isOpen : exchange.IsOpen status) (given : String) :
    ((exchange.answerField HeaderName.tusVersion protocolVersion).reject
      (.version given)).response.IsWellFormed where
  status := Rejection.status_mem (.version given)
  version := (isOpen.answerField (by decide) protocolVersion).version
  message := Rejection.message?_isSome (.version given)
  versions _ := Exchange.first?_answerField _ _ isWritable_protocolVersion

/-- A failure that becomes an answer becomes a well-formed one. -/
theorem settle (isOpen : exchange.IsOpen status) {failure : Failure}
    (settles : Protocol.settle exchange (.error failure) = .ok done) :
    done.response.IsWellFormed := by
  cases failure with
  | refused cause =>
      cases settles
      refine ⟨of_decide_eq_true rfl, isOpen.version, ?_, ?_⟩
      · simp [answerMessage, Response.wordless]
      · intro contrary
        cases contrary
  | missing id =>
      cases settles
      exact isOpen.reject trivial
  | _ => cases settles

end Exchange.IsOpen

/-! ## The answers of the handlings -/

namespace Handling

variable {status : Nat}

/-- The answer to a creation says that it is one. -/
theorem answerCreated_isOpen (isOpen : checked.IsOpen status)
    (service : Service) (id : String) (expiry : Option Instant) :
    (answerCreated service checked id expiry).IsOpen 201 := by
  have answered := ((isOpen.answerStatus 201).answerField
    (show HeaderName.tusResumable ≠ HeaderName.location by decide)
    (addressOf service.config.urlPath id)).answerFieldIf
      (show HeaderName.tusResumable ≠ HeaderName.uploadExpires by decide)
      (expiry.map Instant.headerText)
  exact ⟨answered.status, answered.message, answered.version⟩

/-- Who has created an upload is told its address. -/
theorem location_answerCreated
    (plain : ∀ c ∈ service.config.urlPath.toList, Field.isPlain c = true)
    (checked : Exchange) (number : Nat) (expiry : Option Instant) :
    (answerCreated service checked (Store.idOf number)
        expiry).response.headers.first? HeaderName.location
      = some (Bytes.ofString
          (addressOf service.config.urlPath (Store.idOf number))) := by
  rw [answerCreated]
  simp only
  rw [Exchange.first?_answerFieldIf_of_ne (by decide)]
  exact Exchange.first?_answerField _ _ (isWritable_addressOf plain number)

/-- The answer to a write says that it was accepted. -/
theorem written_isOpen (isOpen : checked.IsOpen status) (offset : Nat)
    (expiry : Option Instant) : (written checked offset expiry).IsOpen 204 :=
  ((isOpen.answerStatus 204).answerField (by decide) _).answerFieldIf
    (by decide) _

/-- Whose write is accepted is told where it has ended. -/
theorem offset_written (checked : Exchange) (offset : Nat)
    (expiry : Option Instant) :
    (written checked offset expiry).response.headers.first?
        HeaderName.uploadOffset
      = some (Bytes.ofString (toString offset)) := by
  rw [written]
  exact (Exchange.first?_answerFieldIf_of_ne (by decide) _).trans
    (Headers.first?_putText_toString _ _ offset)

theorem answerInfo_isOpen (isOpen : checked.IsOpen status) (service : Service)
    (length : Option Nat) (offset : Nat) (metadata : Option String)
    (part : Part) (expiry : Option Instant) :
    (answerInfo service checked length offset metadata part expiry).IsOpen
      200 := by
  have cached := (isOpen.answerStatus 200).answerField
    (show HeaderName.tusResumable ≠ HeaderName.cacheControl by decide)
    "no-store"
  rw [answerInfo.eq_def]
  refine .answerFieldIf (.answerFieldIf (.answerFieldIf ?_ (by decide) _)
    (by decide) _) (by decide) _
  cases length with
  | some length =>
      have measured := cached.answerField
        (show HeaderName.tusResumable ≠ HeaderName.uploadLength by decide)
        (toString length)
      split
      · exact measured
      · exact measured.answerField (by decide) _
  | none =>
      have deferred := cached.answerField
        (show HeaderName.tusResumable ≠ HeaderName.uploadDeferLength by decide)
        "1"
      split
      · exact deferred
      · exact deferred.answerField (by decide) _

/--
What is done is answered without fault, by a status that tells creations from
everything else; only a checksum may turn out not to match.
-/
theorem carryOut_closes {status : Nat}
    (handled : ofIntent? service intent = some handling)
    (isOpen : checked.IsOpen status) :
    (handling.carryOut checked).Gives fun given =>
      (∃ final, given.1.IsOpen final ∧ final ∈ [200, 201, 204] ∧
        (final = 201 ↔ intent.creates = true)) ∨
      given.1 = checked.reject .checksumMismatch ∧ intent.creates = false := by
  have created (id : String) (expiry : Option Instant) (outcome : Outcome) :
      (pure (answerCreated service checked id expiry, outcome) :
        Attempt (Exchange × Outcome)).Gives fun given =>
        (∃ final, given.1.IsOpen final ∧ final ∈ [200, 201, 204] ∧
          (final = 201 ↔ true = true)) ∨
        given.1 = checked.reject .checksumMismatch ∧ true = false :=
    .pure (.inl ⟨201, answerCreated_isOpen isOpen service id expiry, by decide,
      by decide⟩)
  cases intent with
  | notApplicable => cases handled
  | createFile =>
      cases handled
      exact .bind fun id => .bind fun expiry => created id expiry _
  | concatenate =>
      cases handled
      rw [concatenate]
      simp only
      cases checked.part with
      | joined ids =>
          exact .bind fun id => .bind fun length => created id none _
      | piece | whole =>
          exact .bind fun id => .bind fun expiry => created id expiry _
  | writeFile =>
      cases handled
      refine .bind fun _ => .bind fun _ => .bind fun keeps => ?_
      cases keeps with
      | false => exact .pure (.inr ⟨rfl, rfl⟩)
      | true =>
          exact .bind fun expiry => .bind fun offset => .bind fun length =>
            .pure (.inl ⟨204, written_isOpen isOpen offset expiry, by decide,
              by decide⟩)
  | deleteFile =>
      cases handled
      exact .bind fun _ => .pure (.inl ⟨204, isOpen.answerStatus 204, by decide,
        by decide⟩)
  | fileInfo =>
      cases handled
      exact .bind fun length => .bind fun offset => .bind fun metadata =>
        .bind fun part => .bind fun expiry => .pure (.inl ⟨200,
          answerInfo_isOpen isOpen service length offset metadata part expiry,
          by decide, by decide⟩)
  | options =>
      cases handled
      refine .bind fun algorithms => .pure (.inl ⟨204, ?_, by decide,
        by decide⟩)
      exact ((((isOpen.answerStatus 204).answerField (by decide)
        _).answerFieldIf (by decide) _).answerFieldIf (by decide)
          _).answerFieldIf (by decide) _

end Handling

/-! ## The answers to intents -/

namespace Protocol

/-- Whatever an intent comes to is answered well. -/
theorem handleIntent_closes
    (handled : Handling.ofIntent? service intent = some handling)
    (blank : exchange.response = {})
    (passes : (handleIntent intent handling exchange).Passes scene)
    (ends : (handleIntent intent handling exchange).play scene
      = .finished (.ok done) after) :
    done.response.IsWellFormed ∧
      (intent.creates = false → done.response.status ≠ 201) := by
  have isOpen : (versioned exchange).IsOpen 200 := .of_blank blank
  have bad {response : Response} (wellFormed : response.IsWellFormed)
      (bad : 400 ≤ response.status) :
      response.IsWellFormed ∧ (intent.creates = false →
        response.status ≠ 201) :=
    ⟨wellFormed, fun _ => by omega⟩
  have settled {failure : Failure}
      (closes : Except.ok done = settle (versioned exchange)
        (.error failure)) :
      done.response.IsWellFormed ∧ (intent.creates = false →
        done.response.status ≠ 201) := by
    have status := status_of_settle_error closes.symm
    exact bad (isOpen.settle closes.symm) (by omega)
  have concludes := handleIntent_concludes handled passes
  rw [ends] at concludes
  cases concludes with
  | misversioned given left =>
      exact bad (isOpen.misversioned given) (Rejection.version given).le_status
  | leased left =>
      exact bad (isOpen.reject trivial)
        (Rejection.leased (versioned exchange).fileId).le_status
  | @rejected rejection asked after sight checks left =>
      have ordinary : rejection.IsOrdinary :=
        Handling.check_admits handled _ _ _ _ checks
      exact bad (isOpen.reject ordinary) rejection.le_status
  | missed left closes =>
      obtain ⟨failure, closes⟩ := closes _ _ rfl
      exact settled closes
  | broken sight checks telling fails left closes =>
      obtain ⟨failure, last, works, closes⟩ := closes _ _ rfl
      exact settled closes
  | @done checked _ outcome asked told last _ sight checks telling works left =>
      have notes : (versioned exchange).Notes checked :=
        Handling.check_admits handled _ _ _ _ checks
      have closed := Handling.carryOut_closes handled (isOpen.notes notes) _ _ _
        works
      rcases closed with ⟨final, closed, good, creates⟩ | ⟨mismatch, -⟩
      · refine ⟨closed.isWellFormed good, fun none contrary => ?_⟩
        rw [closed.status, creates, none] at contrary
        cases contrary
      · have same : done = checked.reject .checksumMismatch := mismatch
        rw [same]
        exact bad ((isOpen.notes notes).reject trivial)
          Rejection.checksumMismatch.le_status

/--
What creates is answered as a creation exactly if there is an upload more, and
then the answer is about that upload and tells its address.
-/
theorem handleIntent_adds
    (handled : Handling.ofIntent? service intent = some handling)
    (creates : intent.creates = true) (numbered : scene.store.IsNumbered)
    (passes : (handleIntent intent handling exchange).Passes scene)
    (ends : (handleIntent intent handling exchange).play scene
      = .finished (.ok done) after) :
    (done.response.status = 201 ∧
      done.id = some (Store.idOf scene.store.created) ∧
      after.store.ids
        = scene.store.ids ++ [Store.idOf scene.store.created] ∧
      ((∀ c ∈ service.config.urlPath.toList, Field.isPlain c = true) →
        done.response.headers.first? HeaderName.location
          = some (Bytes.ofString (addressOf service.config.urlPath
              (Store.idOf scene.store.created))))) ∨
      done.response.status ≠ 201 ∧ after.store.ids = scene.store.ids := by
  have settled {failure : Failure} {after : Scene}
      (same : after.store.ids = scene.store.ids)
      (closes : Except.ok done = settle (versioned exchange)
        (.error failure)) :
      done.response.status ≠ 201 ∧ after.store.ids = scene.store.ids := by
    have status := status_of_settle_error closes.symm
    exact ⟨by omega, same⟩
  have concludes := handleIntent_concludes handled passes
  rw [ends] at concludes
  cases concludes with
  | misversioned given left =>
      exact .inr ⟨of_decide_eq_true rfl, congrArg Store.ids left.store⟩
  | leased left =>
      exact .inr ⟨of_decide_eq_true rfl, congrArg Store.ids left.store⟩
  | @rejected rejection asked after sight checks left =>
      have bad : 400 ≤ rejection.status := rejection.le_status
      refine .inr ⟨?_, congrArg Store.ids left.store⟩
      change rejection.status ≠ 201
      omega
  | missed left closes =>
      obtain ⟨failure, closes⟩ := closes _ _ rfl
      exact .inr (settled (congrArg Store.ids left.store) closes)
  | @broken checked asked told _ sight checks telling fails left closes =>
      obtain ⟨failure, last, works, closes⟩ := closes _ _ rfl
      have same : told.store = scene.store :=
        telling.store.trans sight.store
      have creation := Handling.carryOut_creation creates handled
        (same ▸ numbered) checked
      rw [works] at creation left
      cases creation with
      | failed failure =>
          have left : after.store = told.store := left
          exact .inr (settled (congrArg Store.ids (left.trans same)) closes)
      | endless limited endless => cases closes
  | @done checked _ outcome asked told last _ sight checks telling works left =>
      have same : told.store = scene.store :=
        telling.store.trans sight.store
      have creation := Handling.carryOut_creation creates handled
        (same ▸ numbered) checked
      rw [works] at creation
      cases creation with
      | @created upload outcome born =>
          refine .inl ⟨?_, ?_, ?_, ?_⟩
          · cases upload.expiry <;> rfl
          · rw [← same]
            rfl
          · rw [left, Store.ids_insert, same]
          · intro plain
            rw [← same]
            exact Handling.location_answerCreated plain checked _ _

end Protocol

end ResumableUpload
