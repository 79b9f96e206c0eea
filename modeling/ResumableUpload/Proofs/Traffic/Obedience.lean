import ResumableUpload.Proofs.Traffic.Conduct
/-!
# Every request obeys its law

A handling either needs no lease, and then it is gentle throughout, or all its
work is done between the grant of a lease and its return.  Together with what is
known of a creation that is followed by a write, this is
`Protocol.program_obeys`: the program of every request obeys the law of the
request, and ends without a lease.
-/

namespace ResumableUpload

open Standing

variable {service : Service} {exchange : Exchange} {law : Law} {id : String}
  {lease : Lease} {standing : Standing} {handling : Handling} {σ : Type}

/-! ## Handlings that need no lease -/

@[simp]
theorem Exchange.answerFieldIf_headers (exchange : Exchange) (name : String)
    (text? : Option String) :
    (exchange.answerFieldIf name text?).headers = exchange.headers := by
  cases text? <;> rfl

@[simp]
theorem Handling.answerCreated_headers (service : Service)
    (exchange : Exchange) (id : String) (expiry : Option Instant) :
    (answerCreated service exchange id expiry).headers = exchange.headers := by
  simp [answerCreated, Exchange.answerField, Exchange.answerStatus]

theorem Requirement.newLength_headers {checked : Exchange}
    (reads : newLength service exchange = .ok checked) :
    checked.headers = exchange.headers := by
  simp only [newLength] at reads
  split at reads
  · cases reads
    rfl
  · split at reads
    · cases reads
    · cases reads
    · split at reads
      · cases reads
      · split at reads
        · cases reads
          rfl
        · cases reads
    · cases given : lengthOf (exchange.headers.text? HeaderName.uploadLength)
        service.config.maxSize with
      | error rejection =>
          rw [given] at reads
          cases reads
      | ok length =>
          rw [given] at reads
          cases reads
          rfl

theorem Requirement.metadata_headers {checked : Exchange}
    (reads : metadata service exchange = .ok checked) :
    checked.headers = exchange.headers := by
  simp only [metadata] at reads
  split at reads
  · cases reads
    rfl
  · split at reads
    · cases reads
      rfl
    · cases reads

/-- The fields of a new upload are checked without changing them. -/
theorem Requirement.declared_headers {checked : Exchange}
    (reads : (do
      let exchange ← newLength service exchange
      metadata service exchange) = .ok checked) :
    checked.headers = exchange.headers := by
  cases first : newLength service exchange with
  | error rejection =>
      rw [first] at reads
      cases reads
  | ok between =>
      rw [first] at reads
      exact (metadata_headers reads).trans (newLength_headers first)

/--
A handling that is obeyed without a lease; the fields of the request stay as
they are.
-/
structure Handling.IsFree (law : Law) (handling : Handling) : Prop where
  checks : ∀ {exchange : Exchange} {standing : Standing}, standing.IsBefore →
    (handling.check exchange).Obeys law.rules IsBefore
      (fun standing checked => standing.IsBefore ∧
        checked.headers = exchange.headers) standing
  works : ∀ {exchange : Exchange} {standing : Standing}, standing.IsBefore →
    (handling.carryOut exchange).Obeys law.rules IsBefore
      (fun standing result => standing.IsBefore ∧
        result.1.headers = exchange.headers) standing

namespace Handling

theorem declared_obeys (law : Law) (before : standing.IsBefore)
    {original : Headers} (headers : exchange.headers = original) :
    (Check.ofExcept (do
      let exchange ← Requirement.newLength service exchange
      Requirement.metadata service exchange)).Obeys law.rules IsBefore
      (fun standing checked => standing.IsBefore ∧ checked.headers = original)
      standing :=
  .ofExcept before fun _ reads =>
    ⟨before, (Requirement.declared_headers reads).trans headers⟩

theorem part_obeys (law : Law) (before : standing.IsBefore) :
    (Requirement.part service exchange).Obeys law.rules IsBefore
      (fun standing checked => standing.IsBefore ∧
        checked.headers = exchange.headers) standing := by
  rw [Requirement.part]
  split
  · exact .reject before
  · rename_i part _
    refine .bind ((Requirement.partIsPossible_inquires service exchange
      part).isGentle.obeys_before law before) ?_
    intro standing _ before
    exact .pure ⟨before, rfl⟩

theorem createPiece_obeys (law : Law) (before : standing.IsBefore) :
    (createPiece service exchange).Obeys law.rules IsBefore
      (fun standing result => standing.IsBefore ∧
        result.1.headers = exchange.headers) standing := by
  have creates : (service.call (.createPiece exchange.newLength
      exchange.declared.metadataText)).IsGentle := .serviceCall service rfl
  refine .bind (creates.obeys_before law before) fun standing id before => ?_
  refine .bind ((Lifetime.renew_isGentle service id).obeys_before law before) ?_
  intro standing expiry before
  exact .pure ⟨before, answerCreated_headers service exchange id expiry⟩

theorem createJoined_obeys (law : Law) (before : standing.IsBefore)
    (ids : List String) :
    (createJoined service exchange ids).Obeys law.rules IsBefore
      (fun standing result => standing.IsBefore ∧
        result.1.headers = exchange.headers) standing := by
  have creates : (service.call (.createJoined ids
      exchange.declared.metadataText)).IsGentle := .serviceCall service rfl
  refine .bind (creates.obeys_before law before) fun standing id before => ?_
  have asks : (Attempt.call (.length id)).IsGentle := .call rfl
  refine .bind (asks.obeys_before law before) fun standing length before => ?_
  exact .pure ⟨before, answerCreated_headers service exchange id none⟩

theorem create_isFree (service : Service) (law : Law) :
    (create service).IsFree law := by
  refine ⟨fun before => declared_obeys law before rfl, ?_⟩
  intro exchange standing before
  have creates : (service.call (.create exchange.newLength
      exchange.declared.metadataText)).IsGentle := .serviceCall service rfl
  refine .bind (creates.obeys_before law before) fun standing id before => ?_
  refine .bind ((Lifetime.renew_isGentle service id).obeys_before law before)
    fun standing expiry before => ?_
  exact .pure ⟨before, answerCreated_headers service exchange id expiry⟩

theorem concatenate_isFree (service : Service) (law : Law) :
    (concatenate service).IsFree law := by
  constructor
  · intro exchange standing before
    refine .bind (part_obeys law before) ?_
    rintro standing checked ⟨before, headers⟩
    exact declared_obeys law before headers
  · intro exchange standing before
    simp only [concatenate]
    split
    · exact createJoined_obeys law before _
    · exact createPiece_obeys law before
    · exact createPiece_obeys law before

theorem info_isFree (service : Service) (law : Law) :
    (info service).IsFree law := by
  constructor
  · intro exchange standing before
    refine .bind ((Requirement.present_inquires
      exchange).isGentle.obeys_before law before) fun _ _ before => ?_
    refine .bind ((Requirement.alive_inquires service
      exchange).isGentle.obeys_before law before) fun _ _ before => ?_
    exact .pure ⟨before, rfl⟩
  · intro exchange standing before
    have asks {asked : Call} (gentle : asked.isGentle = true) :
        (Attempt.call asked).IsGentle := .call gentle
    refine .bind ((asks rfl).obeys_before law before)
      fun _ length before => ?_
    refine .bind ((asks rfl).obeys_before law before)
      fun _ offset before => ?_
    refine .bind ((asks rfl).obeys_before law before)
      fun _ metadata before => ?_
    refine .bind ((Requirement.partOf_inquires service
      _).isGentle.obeys_before law before) fun _ part before => ?_
    refine .bind ((Lifetime.current_inquires service
      _).isGentle.obeys_before law before) fun _ expiry before => ?_
    refine .pure ⟨before, ?_⟩
    simp only [answerInfo, Exchange.answerFieldIf_headers]
    split <;> split <;> rfl

theorem options_isFree (service : Service) (law : Law) :
    (options service).IsFree law := by
  refine ⟨fun before => .pure ⟨before, rfl⟩, ?_⟩
  intro exchange standing before
  have asks : (advertisedAlgorithms service exchange).IsGentle := by
    rw [advertisedAlgorithms]
    split
    · exact .bind (.serviceCall service rfl) fun _ => .pure _
    · exact .pure none
  refine .bind (asks.obeys_before law before) fun _ algorithms before => ?_
  refine .pure ⟨before, ?_⟩
  simp only [Exchange.answerFieldIf_headers]
  rfl

/-- Only writes and deletions need a lease. -/
theorem isFree {intent : Intent} (needless : intent.needsLease = false)
    (handled : ofIntent? service intent = some handling) (law : Law) :
    handling.IsFree law := by
  cases intent with
  | createFile =>
      cases handled
      exact create_isFree service law
  | concatenate =>
      cases handled
      exact concatenate_isFree service law
  | fileInfo =>
      cases handled
      exact info_isFree service law
  | options =>
      cases handled
      exact options_isFree service law
  | writeFile | deleteFile => cases needless
  | notApplicable => cases handled

end Handling

namespace Protocol

/-- Some failures are settled with an answer that has the same fields. -/
theorem settle_ending {fails : σ → Prop} {ends : σ → Exchange → Prop}
    {state : σ}
    {result : Except Failure Exchange} (here : Ending fails ends state result)
    (settled : ∀ response, fails state →
      ends state { exchange with response := response }) :
    Ending fails ends state (settle exchange result) := by
  rcases result with failure | value
  · cases failure with
    | refused cause | missing id => exact settled _ here
    | _ => exact here
  · exact here

/-- Without a lease a handling is executed and settled by gentle actions. -/
theorem executeSettled_obeys_of_isFree (free : handling.IsFree law)
    (before : standing.IsBefore) :
    (executeSettled handling exchange).Obeys law.rules IsBefore
      (fun standing answered => standing.IsBefore ∧
        answered.headers = exchange.headers) standing := by
  have executes : (execute handling exchange).Obeys law.rules IsBefore
      (fun standing answered => standing.IsBefore ∧
        answered.headers = exchange.headers) standing := by
    refine .bind (free.checks before) ?_
    rintro standing (rejection | checked) here
    · exact .pure ⟨here, rfl⟩
    · obtain ⟨before, headers⟩ := here
      refine .bind ((tellBefore_isGentle _).obeys_before law before) ?_
      intro standing verdict before
      split
      · exact .pure ⟨before, headers⟩
      · refine .bind (free.works before) ?_
        rintro standing ⟨done, outcome⟩ ⟨before, same⟩
        refine .bind ((tellOutcome_isGentle done outcome).obeys_before law
          before) ?_
        intro standing verdict before
        refine .pure ⟨before, ?_⟩
        split <;> exact same.trans headers
  refine Program.Obeys.map executes ?_
  intro standing result here
  exact settle_ending here fun _ before => ⟨before, rfl⟩

end Protocol

/-! ## Handlings that need a lease -/

/-- What is done with a lease is within the law, and keeps it to the end. -/
def Law.Binds (law : Law) (handling : Handling) (exchange : Exchange) : Prop :=
  ∀ lease, (Protocol.execute handling exchange).Obeys law.rules
    (Holds exchange.fileId lease)
    (fun standing _ => standing.Holds exchange.fileId lease)
    (.holding exchange.fileId lease .unsure)

namespace Protocol

/-- Between the requirements and the work the host is asked, and no more. -/
theorem execute_obeys {low : Stage} {suits : Exchange → Prop}
    (checks : (handling.check exchange).Obeys law.rules (Holds id lease)
      (fun standing checked => standing.HasReached id lease low ∧
        suits checked) standing)
    (works : ∀ {standing : Standing} {checked : Exchange},
      standing.HasReached id lease low → suits checked →
      (handling.carryOut checked).Obeys law.rules (Holds id lease)
        (fun standing _ => standing.Holds id lease) standing) :
    (execute handling exchange).Obeys law.rules (Holds id lease)
      (fun standing _ => standing.Holds id lease) standing := by
  refine .bind checks ?_
  rintro standing (rejection | checked) here
  · exact .pure here
  · obtain ⟨reached, suits⟩ := here
    refine .bind ((tellBefore_isGentle _).obeys law reached) ?_
    intro standing verdict reached
    split
    · exact .pure reached.holds
    · refine .bind (works reached suits) ?_
      rintro standing ⟨done, outcome⟩ holds
      refine .bind ((tellOutcome_isGentle done outcome).obeys_holding law
        holds) ?_
      intro standing verdict holds
      exact .pure holds

theorem write_binds (governs : law.Governs service exchange) :
    law.Binds (Handling.write service) exchange :=
  fun _ => execute_obeys (Handling.write_check_obeys governs .of_eq)
    fun reached suits => Handling.write_carryOut_obeys suits reached

theorem delete_binds (deletes : law.deletes = true) (exchange : Exchange) :
    law.Binds (Handling.delete service) exchange := by
  intro lease
  refine execute_obeys (Handling.delete_check_obeys exchange law .of_eq) ?_
  rintro standing checked reached rfl
  exact Handling.delete_carryOut_obeys deletes reached.holds

/--
A lease that is granted is given back in the end.  If it is refused, that is the
end, and a conflict is answered.
-/
theorem executeLeased_obeys (binds : law.Binds handling exchange) :
    (executeLeased handling exchange).Obeys law.rules (EndsIn False)
      (fun standing answered =>
        standing.EndsIn (answered.response.status = 409)) (.before true) := by
  have asks : (Attempt.acquire exchange.fileId).Obeys law.rules (EndsIn False)
      (fun standing lease? => (lease? = none → standing = .refused) ∧
        ∀ lease, lease? = some lease →
          standing = .holding exchange.fileId lease .unsure)
      (.before true) := by
    refine .acquire exchange.fileId ?_
    rintro (failure | (_ | lease))
    · exact ⟨.parted, rfl, trivial⟩
    · exact ⟨.refused, rfl, fun _ => rfl, by rintro lease ⟨⟩⟩
    · refine ⟨.holding exchange.fileId lease .unsure, rfl, by rintro ⟨⟩, ?_⟩
      rintro granted ⟨⟩
      rfl
  refine .bind asks ?_
  rintro standing lease? ⟨refused, granted⟩
  cases lease? with
  | none =>
      obtain rfl := refused rfl
      exact .pure rfl
  | some lease =>
      obtain rfl := granted lease rfl
      have settles : (executeSettled handling exchange).Obeys law.rules
          (Holds exchange.fileId lease)
          (fun standing _ => standing.Holds exchange.fileId lease)
          (.holding exchange.fileId lease .unsure) :=
        Program.Obeys.map (binds lease) fun standing result here =>
          settle_ending here fun _ holds => holds
      refine Program.Obeys.bind settles ?_
      intro standing result here
      have holds : standing.Holds exchange.fileId lease := by
        cases result <;> exact here
      obtain ⟨stage, rfl⟩ := holds
      have returns : (Program.perform (.release lease)).Obeys law.rules
          (fun standing _ => standing = .parted)
          (.holding exchange.fileId lease stage) :=
        Program.Obeys.perform rfl fun _ => ⟨.parted, if_pos rfl, rfl⟩
      refine Program.Obeys.bind returns ?_
      rintro standing - rfl
      refine .done ?_
      cases result <;> trivial

/-! ## Intents -/

variable {intent : Intent}

/-- The host is asked first. -/
theorem handleIntent_obeys {fails : Standing → Prop}
    {ends : Standing → Exchange → Prop} {authorized : Bool}
    (refused : ∀ response, ends (.before true)
      { exchange with response := response })
    (executes : (executeVersioned intent handling exchange).Obeys law.rules
      fails ends (.before true)) :
    (handleIntent intent handling exchange).Obeys law.rules fails ends
      (.before authorized) := by
  have asks : (Attempt.tell (.authorize intent exchange.method exchange.id
      exchange.headers)).Obeys law.rules fails
      (fun standing _ => standing = .before true) (.before authorized) :=
    .tell _ fun verdict => ⟨.before true, by cases authorized <;> rfl, rfl⟩
  refine .bind asks ?_
  rintro standing verdict rfl
  split
  · exact .pure (refused _)
  · exact executes

theorem handleIntent_obeys_of_isFree (needless : intent.needsLease = false)
    (free : handling.IsFree law) (authorized : Bool) :
    (handleIntent intent handling exchange).Obeys law.rules IsBefore
      (fun standing answered => standing.IsBefore ∧
        answered.headers = exchange.headers) (.before authorized) := by
  have before : (Standing.before true).IsBefore := ⟨true, rfl⟩
  refine handleIntent_obeys (fun _ => ⟨before, rfl⟩) ?_
  rw [executeVersioned]
  split
  · exact .pure ⟨before, rfl⟩
  · rw [needless, if_neg Bool.false_ne_true]
    exact (executeSettled_obeys_of_isFree free before).mono
      (fun _ _ here => here) fun _ here => here

theorem handleIntent_obeys_of_binds (needs : intent.needsLease = true)
    (binds : law.Binds handling
      (exchange.answerField HeaderName.tusResumable protocolVersion))
    (authorized : Bool) :
    (handleIntent intent handling exchange).Obeys law.rules (EndsIn False)
      (fun standing answered =>
        standing.EndsIn (answered.response.status = 409))
      (.before authorized) := by
  refine handleIntent_obeys (fun _ => trivial) ?_
  rw [executeVersioned]
  split
  · exact .pure trivial
  · exact executeLeased_obeys binds

end Protocol

/-! ## Requests -/

namespace Headers

variable {headers : Headers} {name other : String}

theorem has_eq_values (headers : Headers) (name : String) :
    headers.has name = !(headers.values name).isEmpty := by
  induction headers with
  | nil => rfl
  | cons field later hypothesis =>
      rw [has] at hypothesis ⊢
      rw [List.any_cons, hypothesis]
      by_cases here : field.name = name <;> simp [values, here]

theorem values_remove (apart : other ≠ name) :
    (headers.remove name).values other = headers.values other := by
  rw [values, values, remove, List.filter_filter]
  refine congrArg (List.map Field.value) (List.filter_congr ?_)
  intro field _
  by_cases here : field.name = other <;> simp [here, apart]

theorem values_put (apart : other ≠ name) (value : Bytes) :
    (headers.put name value).values other = headers.values other := by
  rw [put, values, List.filter_append,
    List.filter_cons_of_neg (by simpa using apart.symm), List.filter_nil,
    List.append_nil]
  exact values_remove apart

end Headers

namespace Exchange

/-- The write after a creation promises what the creation promised. -/
theorem promiseChecksum_continueWith (exchange : Exchange) (id : String) :
    (exchange.continueWith id).headers.promiseChecksum
      = exchange.headers.promiseChecksum := by
  have values {name : String} (length : name ≠ HeaderName.uploadLength)
      (offset : name ≠ HeaderName.uploadOffset) :
      (exchange.continueWith id).headers.values name
        = exchange.headers.values name := by
    rw [continueWith]
    exact (Headers.values_put offset _).trans (Headers.values_remove length)
  rw [Headers.promiseChecksum, Headers.promiseChecksum, Headers.has_eq_values,
    Headers.has_eq_values, Requirement.announcesChecksum,
    Requirement.announcesChecksum, values (by decide) (by decide),
    values (by decide) (by decide)]

/-- The write after a creation begins at the beginning. -/
theorem offsetGiven?_continueWith (exchange : Exchange) (id : String) :
    (exchange.continueWith id).headers.offsetGiven? = some 0 := by
  have given : (exchange.continueWith id).headers.text? HeaderName.uploadOffset
      = some "0" := by
    rw [Headers.text?, continueWith, Headers.first?_put]
    decide +kernel
  rw [Headers.offsetGiven?, given]
  decide +kernel

end Exchange

namespace Protocol

variable {request : Request}

/-- Only a creation asks for something else: that its body is written. -/
theorem intentsOf_cases (service : Service) (request : Request) :
    ∃ first, intentsOf service request = [first] ∨
      first.creates = true ∧
        intentsOf service request = [first, .writeFile] := by
  rw [intentsOf, Intent.ofRequest]
  split
  · exact ⟨_, .inl rfl⟩
  · simp only
    split
    · rename_i both
      rw [Bool.and_eq_true, Bool.and_eq_true] at both
      exact ⟨_, .inr ⟨both.1.1, rfl⟩⟩
    · exact ⟨_, .inl rfl⟩

/-- The fields of a request that asks for something else than a creation. -/
theorem governs_ofRequest {first : Intent}
    (asks : intentsOf service request = [first])
    (creates : first.creates = false) :
    (Law.ofRequest service request).Governs service
      ((Exchange.ofRequest service request).answerField HeaderName.tusResumable
        protocolVersion) := by
  refine ⟨?_, fun supported promises =>
    Bool.and_eq_true_iff.2 ⟨supported, promises⟩, rfl⟩
  intro offset given
  rw [Law.ofRequest, asks]
  simp only [List.head?_cons, Option.any_some, creates, Bool.false_eq_true,
    if_false]
  exact given

/-- A write or a deletion that is no part of a creation. -/
theorem binds_of_needsLease {first : Intent}
    (handled : Handling.ofIntent? service first = some handling)
    (asks : intentsOf service request = [first])
    (needs : first.needsLease = true) :
    (Law.ofRequest service request).Binds handling
      ((Exchange.ofRequest service request).answerField HeaderName.tusResumable
        protocolVersion) := by
  cases first with
  | writeFile =>
      cases handled
      exact write_binds (governs_ofRequest asks rfl)
  | deleteFile =>
      cases handled
      refine delete_binds ?_ _
      rw [Law.ofRequest, asks]
      rfl
  | _ => cases needs

/-- The write of a body after a creation obeys the law of the creation. -/
theorem handleBody_obeys (creates : law.creates = true)
    (begins : law.offset = some 0)
    (promises : service.terms.supports .checksum = true →
      exchange.headers.promiseChecksum = true → law.pledged = true)
    (id : String) (authorized : Bool) :
    (handleBody .writeFile (Handling.write service) exchange id).Obeys
      law.rules (EndsIn False)
      (fun standing response => standing.EndsIn (law.IsConflict response))
      (.before authorized) := by
  have governs : law.Governs service ((exchange.continueWith id).answerField
      HeaderName.tusResumable protocolVersion) := by
    refine ⟨?_, ?_, rfl⟩
    · intro offset given
      rw [begins, ← given]
      exact (exchange.offsetGiven?_continueWith id).symm
    · intro supported promised
      apply promises supported
      rw [← exchange.promiseChecksum_continueWith id]
      exact promised
  have writes : (handleIntent .writeFile (Handling.write service)
      (exchange.continueWith id)).Obeys law.rules (EndsIn False)
      (fun standing answered =>
        standing.EndsIn (answered.response.status = 409))
      (.before authorized) :=
    handleIntent_obeys_of_binds rfl (write_binds governs) authorized
  refine .bind (.lift (Program.Obeys.mono writes fun _ _ here => here)) ?_
  intro standing result here
  refine .pure ?_
  cases result with
  | error failure => exact here.mono False.elim
  | ok written =>
      refine here.mono fun refused => ?_
      rw [Law.IsConflict, if_pos creates]
      exact ⟨exchange.response, written.response, refused, rfl⟩

theorem handleSecond_obeys {second? : Option Intent}
    (writes : ∀ second ∈ second?, second = .writeFile ∧ law.creates = true ∧
      law.offset = some 0)
    (promises : service.terms.supports .checksum = true →
      exchange.headers.promiseChecksum = true → law.pledged = true)
    (authorized : Bool) :
    (handleSecond service exchange second?).Obeys law.rules (EndsIn False)
      (fun standing response => standing.EndsIn (law.IsConflict response))
      (.before authorized) := by
  have as_it_is : (Pure.pure exchange.response : Attempt Response).Obeys
      law.rules (EndsIn False)
      (fun standing response => standing.EndsIn (law.IsConflict response))
      (.before authorized) := .pure trivial
  rw [handleSecond.eq_def]
  split
  · rename_i second handling id identified handled
    rcases writes second rfl with ⟨rfl, creates, begins⟩
    cases handled
    split
    · exact handleBody_obeys creates begins promises id authorized
    · exact as_it_is
  · exact as_it_is

/--
What is asked first obeys the law, and so does what is asked then, if it is a
write that follows a creation.
-/
theorem handle_obeys {first : Intent}
    (handled : Handling.ofIntent? service first = some handling)
    {rest : List Intent} (asks : intentsOf service request = first :: rest)
    (follows : rest = [] ∨ first.creates = true ∧ rest = [.writeFile]) :
    Attempt.Obeys (Law.ofRequest service request).rules (EndsIn False)
      (fun standing answer => standing.EndsIn (∃ response,
        answer = .respond response ∧
          (Law.ofRequest service request).IsConflict response))
      (.before false) (do
        let exchange ← handleIntent first handling
          (Exchange.ofRequest service request)
        return Answer.respond
          (← handleSecond service exchange rest.head?)) := by
  have creates : (Law.ofRequest service request).creates = first.creates := by
    rw [Law.ofRequest, asks, List.head?_cons, Option.any_some]
  cases needs : first.needsLease with
  | true =>
      have no_creation : first.creates = false := by
        cases first <;> first | rfl | cases needs
      rcases follows with rfl | ⟨contrary, -⟩
      · refine .bind (handleIntent_obeys_of_binds needs
          (binds_of_needsLease handled asks needs) false) ?_
        intro standing answered ends
        refine .pure (ends.mono fun refused => ⟨answered.response, rfl, ?_⟩)
        rw [Law.IsConflict, creates, no_creation, if_neg Bool.false_ne_true]
        exact refused
      · rw [no_creation] at contrary
        cases contrary
  | false =>
      refine .bind ((handleIntent_obeys_of_isFree needs
        (Handling.isFree needs handled _) false).mono (fun _ _ here => here)
          fun _ before => before.endsIn False) ?_
      rintro standing answered ⟨⟨authorized, rfl⟩, headers⟩
      refine .bind (handleSecond_obeys ?_ ?_ authorized)
        fun standing response ends =>
          .pure (ends.mono fun conflict => ⟨response, rfl, conflict⟩)
      · intro second present
        rcases follows with rfl | ⟨creation, rfl⟩
        · cases present
        · cases present
          rw [creates, creation]
          refine ⟨rfl, rfl, ?_⟩
          rw [Law.ofRequest, asks]
          simp [creation]
      · intro supported promises
        rw [headers] at promises
        exact Bool.and_eq_true_iff.2 ⟨supported, promises⟩

/-- The program of every request obeys the law of the request. -/
theorem program_obeys (service : Service) (request : Request) :
    (program service request).Obeys (Law.ofRequest service request).rules
      (Law.ofRequest service request).ends (.before false) := by
  rcases intentsOf_cases service request with ⟨first, asks⟩
  obtain ⟨rest, asks, follows⟩ : ∃ rest,
      intentsOf service request = first :: rest ∧
        (rest = [] ∨ first.creates = true ∧ rest = [.writeFile]) := by
    rcases asks with asks | ⟨creates, asks⟩
    · exact ⟨[], asks, .inl rfl⟩
    · exact ⟨[.writeFile], asks, .inr ⟨creates, rfl⟩⟩
  rw [program, handle, asks]
  simp only
  cases handled : Handling.ofIntent? service first with
  | none => exact .done trivial
  | some handling =>
      refine Program.Obeys.mono (handle_obeys handled asks follows) ?_
      rintro standing (failure | answer) here
      · exact here.mono False.elim
      · refine here.mono ?_
        rintro ⟨response, rfl, conflict⟩
        exact ⟨response, rfl, conflict⟩

end Protocol

end ResumableUpload
