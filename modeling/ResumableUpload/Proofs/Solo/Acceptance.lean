import ResumableUpload.Proofs.Solo.Host
import ResumableUpload.Proofs.Solo.Life
/-!
# Writes that are accepted

A plain write gives an offset, and neither a checksum nor a length.  If it
begins where its upload ends, the upload lacks bytes, and there is room and
memory for what the client delivers, then it is accepted: the bytes are stored,
and the answer says where the upload ends now.
`Protocol.handleIntent_write_accepts` says so where the host agrees, the lease
is free and lives have no end.
-/

namespace ResumableUpload

variable {service : Service} {exchange checked : Exchange} {scene : Scene}
  {id : String} {upload : Upload} {offset : Nat}

/-! ## Numbers in answers -/

theorem Field.isWritable_of_isDigit {c : Char} (digit : c.isDigit = true) :
    (String.utf8EncodeChar c).all isWritable = true := by
  rcases Bool.and_eq_true_iff.1 digit with ⟨low, high⟩
  have low : 48 ≤ c.toNat := of_decide_eq_true low
  have high : c.toNat ≤ 57 := of_decide_eq_true high
  have all : ∀ value < 10,
      (String.utf8EncodeChar (Char.ofNat (48 + value))).all isWritable
        = true := by
    decide
  have one := all (c.toNat - 48) (by omega)
  rwa [Nat.add_sub_cancel' low, c.ofNat_toNat] at one

/-- The decimal form of a number can be written into a field. -/
theorem Field.isWritable_toString (number : Nat) :
    (Bytes.ofString (toString number)).all isWritable = true := by
  rw [Bytes.ofString_eq_flatMap, List.all_flatMap, List.all_eq_true]
  intro c present
  have digits : c ∈ Nat.toDigits 10 number := by
    rw [← Nat.toList_repr]
    exact present
  exact isWritable_of_isDigit
    (Nat.isDigit_of_mem_toDigits (by decide) (by decide) digits)

theorem Headers.first?_put (headers : Headers) (name : String) (value : Bytes) :
    (headers.put name value).first? name = some value := by
  have gone : (headers.remove name).find? (·.name == name) = none := by
    rw [List.find?_eq_none]
    intro field present
    simpa using (List.mem_filter.1 present).2
  rw [put, first?, List.find?_append, gone]
  simp

/-- A number that is put into the fields is found there. -/
theorem Headers.first?_putText_toString (headers : Headers) (name : String)
    (number : Nat) :
    (headers.putText name (toString number)).first? name
      = some (Bytes.ofString (toString number)) := by
  rw [putText, if_pos (Field.isWritable_toString number), first?_put]

/-! ## Plain writes -/

/-- The fields of a write at an offset, without a checksum and a length. -/
structure Headers.WriteAt (headers : Headers) (offset : Nat) : Prop where
  version : headers.text? HeaderName.tusResumable = some protocolVersion
  typed : headers.announceBody = true
  offset : ((headers.text? HeaderName.uploadOffset).bind fun text =>
    Decimal.signed? (Blank.trimmed text.toList)) = some (offset : Int)
  unpledged : headers.promiseChecksum = false
  unmeasured : headers.has HeaderName.uploadLength = false

instance (headers : Headers) (offset : Nat) :
    Decidable (headers.WriteAt offset) :=
  decidable_of_iff
    (headers.text? HeaderName.tusResumable = some protocolVersion ∧
      headers.announceBody = true ∧
      ((headers.text? HeaderName.uploadOffset).bind fun text =>
        Decimal.signed? (Blank.trimmed text.toList)) = some (offset : Int) ∧
      headers.promiseChecksum = false ∧
      headers.has HeaderName.uploadLength = false)
    ⟨fun ⟨version, typed, offset, unpledged, unmeasured⟩ =>
        ⟨version, typed, offset, unpledged, unmeasured⟩,
      fun ⟨version, typed, offset, unpledged, unmeasured⟩ =>
        ⟨version, typed, offset, unpledged, unmeasured⟩⟩

namespace Headers.WriteAt

/-- The offset of a plain write is read as it is given. -/
theorem offset_eq (plain : exchange.headers.WriteAt offset) :
    Requirement.offset exchange = .ok (exchange.withOffset offset) := by
  have given := plain.offset
  rcases Option.bind_eq_some_iff.1 given with ⟨text, found, -⟩
  rw [Requirement.offset, has_of_text? found, given]
  simp only [Bool.not_true, Bool.false_eq_true, if_false]
  rw [if_neg (by omega)]
  rfl

/-- A plain write promises no checksum. -/
theorem pledgeOf_eq (plain : exchange.headers.WriteAt offset) :
    Requirement.pledgeOf service exchange = .ok exchange.pledge := by
  have unpledged := plain.unpledged
  rw [promiseChecksum, has_eq_isSome, Bool.or_eq_false_iff,
    Option.isSome_eq_false_iff, Option.isNone_iff_eq_none] at unpledged
  rw [Requirement.pledgeOf, unpledged.1, unpledged.2]
  split <;> rfl

end Headers.WriteAt

/-- An upload without an end of its life is alive. -/
theorem Requirement.play_alive_of_immortal
    (found : scene.store.find? exchange.fileId = some upload)
    (immortal : upload.expiry = none) (service : Service) :
    (alive service exchange).play scene = .finished (.ok (.ok ())) scene := by
  rw [alive]
  cases supported : service.terms.supports .expiration with
  | false => rfl
  | true =>
      have asked : (service.call (.expiry exchange.fileId)).play scene
          = .finished (.ok none) scene := by
        rw [Attempt.play_serviceCall rfl
          (Terms.grants_of_supports rfl supported), Scene.call_expiry found,
          immortal]
      rw [if_pos rfl, Check.play_bind, Check.play_attempt, asked]
      rfl

/--
All that a plain write asks for: the upload is there, it may be written and has
room for what the client delivers, and the host agrees.
-/
structure Scene.Welcomes (scene : Scene) (service : Service)
    (exchange : Exchange) (upload : Upload) (bytes : Bytes) : Prop where
  agrees : scene.HostAgrees
  unlimited : service.config.expiration = none
  unchecked : Handling.IsUnchecked exchange
  plain : exchange.headers.WriteAt upload.offset
  found : scene.store.find? exchange.fileId = some upload
  immortal : upload.expiry = none
  apart : upload.part.isJoined = false
  lacking : upload.isComplete = false
  room : ¬upload.Exceeds bytes.length
  allocatable : (Handling.route service).isAllocatable scene.settings = true
  delivers : scene.client.delivers? scene.settings (Handling.route service)
    scene.news = some bytes

namespace Scene.Welcomes

variable {after : Scene} {bytes : Bytes}

/-- A host that was told of something changes nothing of that. -/
theorem of_told (welcomes : scene.Welcomes service exchange upload bytes)
    (told : scene.HasTold after) :
    after.Welcomes service exchange upload bytes := by
  rcases told with ⟨⟨hooks, told, rfl⟩, agrees⟩
  exact { welcomes with agrees := agrees }

/-- Nor does a lease that is granted. -/
theorem leased (welcomes : scene.Welcomes service exchange upload bytes)
    (id : String) : (scene.leased id).Welcomes service exchange upload bytes :=
  { welcomes with
    delivers := by
      rw [← welcomes.delivers]
      exact Client.delivers?_lease _ _ scene.client _ scene.news }

theorem versioned (welcomes : scene.Welcomes service exchange upload bytes) :
    scene.Welcomes service (Protocol.versioned exchange) upload bytes :=
  { welcomes with unchecked := welcomes.unchecked.versioned }

end Scene.Welcomes

namespace Handling

variable {bytes : Bytes}

/-- The requirements of a plain write are met where its upload ends. -/
theorem play_write_check
    (welcomes : scene.Welcomes service exchange upload bytes) :
    ((write service).check exchange).play scene
      = .finished (.ok (.ok (exchange.withOffset upload.offset))) scene := by
  have plain := welcomes.plain
  have typed : (Check.ofExcept (Requirement.contentType exchange)).play scene
      = .finished (.ok (.ok ())) scene := by
    rw [Requirement.contentType, plain.typed]
    rfl
  have placed : (Check.ofExcept (Requirement.offset exchange)).play scene
      = .finished (.ok (.ok (exchange.withOffset upload.offset))) scene := by
    rw [plain.offset_eq]
    rfl
  have pledged : (Requirement.pledgeOf service
        (exchange.withOffset upload.offset)).map
        (exchange.withOffset upload.offset).withPledge
      = .ok (exchange.withOffset upload.offset) := by
    rw [Requirement.pledgeOf_withOffset, plain.pledgeOf_eq]
    rfl
  have there : scene.store.find? (exchange.withOffset upload.offset).fileId
      = some upload := welcomes.found
  have here : scene.store.has (exchange.withOffset upload.offset).fileId
      = true := Store.has_of_find? there
  have present := Requirement.play_present
    (exchange.withOffset upload.offset) scene
  rw [if_pos here] at present
  have alive := Requirement.play_alive_of_immortal there welcomes.immortal
    service
  have whole := Requirement.play_notJoined there service
  rw [welcomes.apart, Bool.and_false, if_neg Bool.false_ne_true] at whole
  have absent : (exchange.withOffset upload.offset).headers.has
      HeaderName.uploadLength = false := plain.unmeasured
  have unmeasured :=
    Requirement.play_deferredLength_of_absent absent service scene
  have matching := Requirement.play_offsetMatches there
  have same : upload.offset
      = (exchange.withOffset upload.offset).declared.offset.getD 0 := rfl
  rw [if_pos same] at matching
  have missing := Requirement.play_incomplete there
  rw [welcomes.lacking, if_neg Bool.false_ne_true] at missing
  have pledges := Requirement.play_checksum service
    (exchange.withOffset upload.offset) scene
  rw [pledged] at pledges
  rw [write]
  simp only
  rw [Check.play_bind_of_ends typed, Check.play_bind_of_ends placed,
    Check.play_bind_of_ends pledges, Check.play_bind_of_ends present,
    Check.play_bind_of_ends alive, Check.play_bind_of_ends whole,
    Check.play_bind_of_ends unmeasured, Check.play_bind_of_ends matching,
    Check.play_bind_of_ends missing]
  rfl

theorem play_afterWrite_of_unlimited
    (unlimited : service.config.expiration = none) (id : String)
    (scene : Scene) :
    (Lifetime.afterWrite service id).play scene
      = .finished (.ok none) scene := by
  rw [Lifetime.afterWrite.eq_def, unlimited]
  simp only
  rw [Lifetime.current, Lifetime.policy?_of_unlimited unlimited]
  rfl

/-- The exchange when a write has been accepted that ends at an offset. -/
def accepted (checked : Exchange) (offset : Nat) : Exchange :=
  (checked.answerStatus 204).answerField HeaderName.uploadOffset
    (toString offset)

/-- The answer to a plain write says where the upload ends. -/
theorem play_answerWritten_of_unlimited
    (unlimited : service.config.expiration = none)
    (found : scene.store.find? checked.fileId = some upload) :
    (answerWritten service checked).play scene
      = .finished (.ok (accepted checked upload.offset,
          .written checked.fileId (upload.length == some upload.offset)))
        scene := by
  have after := play_afterWrite_of_unlimited unlimited checked.fileId scene
  rw [answerWritten, Attempt.play_bind, after, Played.finished_andThen,
    Attempt.orFailure_ok, Attempt.play_call_bind (Scene.call_offset found),
    Attempt.play_call_bind (Scene.call_length found)]
  rfl

/-- The work of a plain write stores what is delivered, and is accepted. -/
theorem play_write_carryOut
    (welcomes : scene.Welcomes service exchange upload bytes) (offset : Nat) :
    ∃ outcome after,
      ((write service).carryOut (exchange.withOffset offset)).play scene
        = .finished (.ok (accepted (exchange.withOffset offset)
            (upload.offset + bytes.length), outcome)) after ∧
      scene.Rewrites exchange.fileId (upload.appended bytes) after := by
  rcases Scene.append_delivers welcomes.found welcomes.allocatable
      welcomes.delivers welcomes.room with ⟨after, ends, rewrites⟩
  have fixed : (fixLength service (exchange.withOffset offset)).play scene
      = .finished (.ok ()) scene := by
    rw [fixLength, Exchange.withOffset, welcomes.unchecked.length]
    rfl
  have kept : (keepsPledge service (exchange.withOffset offset)).play after
      = .finished (.ok true) after := by
    rw [keepsPledge, Exchange.withOffset, welcomes.unchecked.pledge]
    rfl
  have there : after.store.find? (exchange.withOffset offset).fileId
      = some (upload.appended bytes) := rewrites.found
  have answered := play_answerWritten_of_unlimited welcomes.unlimited there
  have grown : (upload.appended bytes).offset = upload.offset + bytes.length :=
    List.length_append
  rw [grown] at answered
  refine ⟨.written exchange.fileId ((upload.appended bytes).length
    == some (upload.offset + bytes.length)), after, ?_, rewrites⟩
  rw [write]
  simp only
  rw [Attempt.play_bind, fixed, Played.finished_andThen, Attempt.orFailure_ok,
    Attempt.play_bind, Attempt.play_append]
  change ((scene.append exchange.fileId (route service)).andThen _) = _
  rw [ends, Played.finished_andThen, Attempt.orFailure_ok, Attempt.play_bind,
    kept, Played.finished_andThen, Attempt.orFailure_ok, if_pos rfl, answered]
  rfl

end Handling

/-- Whether an answer says that bytes have been stored up to an offset. -/
structure Response.Accepts (response : Response) (offset : Nat) : Prop where
  status : response.status = 204
  offset : response.headers.first? HeaderName.uploadOffset
    = some (Bytes.ofString (toString offset))

theorem Handling.accepts_accepted (checked : Exchange) (offset : Nat) :
    (accepted checked offset).response.Accepts offset :=
  ⟨rfl, Headers.first?_putText_toString _ _ offset⟩

/-- Where there is no lease one is granted. -/
theorem LockTable.exists_acquire {table : LockTable}
    (free : table.isLocked id = false) :
    ∃ lease, (table.acquire id).1 = some lease := by
  rw [acquire, free]
  exact ⟨_, rfl⟩

namespace Protocol

variable {bytes : Bytes}

theorem execute_write_accepts
    (welcomes : scene.Welcomes service exchange upload bytes) :
    ∃ done after,
      (execute (Handling.write service) exchange).play scene
        = .finished (.ok done) after ∧
      done.response.Accepts (upload.offset + bytes.length) ∧
      after.store.find? exchange.fileId = some (upload.appended bytes) := by
  rcases play_afterCheck_of_agrees welcomes.agrees (Handling.write service)
      exchange (exchange.withOffset upload.offset) with ⟨asked, told, executed⟩
  rcases Handling.play_write_carryOut (welcomes.of_told told) upload.offset with
      ⟨outcome, left, works, rewrites⟩
  have agrees : left.HostAgrees := by
    rw [Scene.HostAgrees, rewrites.host.hooks]
    exact told.agrees
  rcases play_carryOut_of_agrees works agrees with ⟨after, last, ends⟩
  refine ⟨Handling.accepted (exchange.withOffset upload.offset)
    (upload.offset + bytes.length), after, ?_,
    Handling.accepts_accepted _ _, ?_⟩
  · rw [play_execute, Handling.play_write_check welcomes,
      Played.finished_andThen, Attempt.orFailure_ok, executed, ends]
  · rw [last.told.store, rewrites.found]

theorem executeLeased_write_accepts
    (welcomes : scene.Welcomes service exchange upload bytes)
    (free : scene.locks.isLocked exchange.fileId = false) :
    ∃ done after,
      (executeLeased (Handling.write service) exchange).play scene
        = .finished (.ok done) after ∧
      done.response.Accepts (upload.offset + bytes.length) ∧
      after.store.find? exchange.fileId = some (upload.appended bytes) := by
  rcases LockTable.exists_acquire free with ⟨lease, granted⟩
  rcases execute_write_accepts (welcomes.leased exchange.fileId) with
      ⟨done, after, ends, accepts, left⟩
  refine ⟨done, after.release lease, ?_, accepts, left⟩
  rw [play_executeLeased granted, play_executeSettled, ends]
  rfl

/--
A plain write is accepted that begins where its upload ends, where the host
agrees and nobody else holds the lease.
-/
theorem handleIntent_write_accepts
    (welcomes : scene.Welcomes service exchange upload bytes)
    (free : scene.locks.isLocked exchange.fileId = false) :
    ∃ done after,
      (handleIntent .writeFile (Handling.write service) exchange).play scene
        = .finished (.ok done) after ∧
      done.response.Accepts (upload.offset + bytes.length) ∧
      after.store.find? exchange.fileId = some (upload.appended bytes) := by
  rcases play_handleIntent_of_agrees welcomes.agrees .writeFile (Handling.write
      service) exchange with ⟨told, rest, handled⟩
  have version : versionOf exchange = protocolVersion := by
    rw [versionOf, welcomes.plain.version]
    rfl
  have leases : Intent.writeFile.needsLease = true := rfl
  rw [← rest.told.locks] at free
  rw [handled, executeVersioned_of_version version, if_pos leases]
  exact executeLeased_write_accepts (welcomes.of_told rest).versioned free

end Protocol

end ResumableUpload
