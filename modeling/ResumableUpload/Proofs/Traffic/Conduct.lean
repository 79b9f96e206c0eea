import ResumableUpload.Proofs.Solo.Acceptance
import ResumableUpload.Proofs.Traffic.Standing
/-!
# Every request obeys its law

The handlings are looked through once more, this time for the order of what they
do.  Gentle parts of a request obey its law wherever it stands.  A write obeys
it because its requirements find the upload and the end of the upload before the
body is appended: `Handling.write_check_obeys`.

`Protocol.program_obeys` says that the program of every request obeys the law of
the request: it asks for a lease only when it has done nothing but ask the host,
and it ends without a lease.
-/

namespace ResumableUpload

open Standing

variable {service : Service} {exchange : Exchange} {law : Law} {id : String}
  {lease : Lease} {standing : Standing}

/-! ## Gentle programs -/

/-- An attempt that needs no lease, and is not about leases. -/
abbrev Attempt.IsGentle {α : Type} (attempt : Attempt α) : Prop :=
  attempt.Uses fun action => action.isGentle = true

/-- A check that needs no lease, and is not about leases. -/
abbrev Check.IsGentle {α : Type} (check : Check α) : Prop :=
  check.Uses fun action => action.isGentle = true

theorem Attempt.Inquires.isGentle {α : Type} {attempt : Attempt α}
    (inquires : attempt.Inquires) : attempt.IsGentle :=
  inquires.mono fun _ => Action.isGentle_of_isInquiry

theorem Check.Inquires.isGentle {α : Type} {check : Check α}
    (inquires : check.Inquires) : check.IsGentle :=
  Attempt.Inquires.isGentle inquires

theorem Lifetime.renew_isGentle (service : Service) (id : String) :
    (renew service id).IsGentle := by
  rw [renew]
  split
  · exact .pure none
  · refine .bind (.now rfl) ?_
    intro now
    split
    · exact .fail _
    · exact .bind (.serviceCall service rfl) fun _ => .pure _

theorem Lifetime.afterWrite_isGentle (service : Service) (id : String) :
    (afterWrite service id).IsGentle := by
  rw [afterWrite.eq_def]
  split
  · exact renew_isGentle service id
  · exact (current_inquires service id).isGentle

theorem Handling.answerWritten_isGentle (service : Service)
    (exchange : Exchange) : (answerWritten service exchange).IsGentle :=
  .bind (Lifetime.afterWrite_isGentle service _) fun _ =>
    .bind (.call rfl) fun _ => .bind (.call rfl) fun _ => .pure _

theorem Protocol.tellBefore_isGentle (event? : Option Event) :
    (tellBefore event?).IsGentle := by
  rw [tellBefore.eq_def]
  split
  · exact .tell rfl
  · exact .pure _

theorem Protocol.tellOutcome_isGentle (exchange : Exchange)
    (outcome : Outcome) : (tellOutcome exchange outcome).IsGentle := by
  cases outcome with
  | created id length complete =>
      refine .bind (.tell rfl) ?_
      intro verdict
      split
      · exact .pure _
      · exact .tell rfl
  | written id complete =>
      rw [tellOutcome]
      split
      · exact .tell rfl
      · exact .pure _
  | deleted id => exact .tell rfl
  | settled => exact .pure _

/-! ### Before a lease is asked for -/

theorem Attempt.IsGentle.obeys_before {α : Type} {attempt : Attempt α}
    (gentle : attempt.IsGentle) (law : Law) (before : standing.IsBefore) :
    attempt.Obeys law.rules IsBefore (fun standing _ => standing.IsBefore)
      standing := by
  refine .of_uses gentle ?_ before
  rintro - action ⟨authorized, rfl⟩ permitted
  refine ⟨Action.isFresh_of_isGentle permitted, fun reply => ?_⟩
  rcases law.rules_before permitted authorized reply with ⟨after, follows⟩
  exact ⟨_, follows, after, rfl⟩

theorem Check.IsGentle.obeys_before {α : Type} {check : Check α}
    (gentle : check.IsGentle) (law : Law) (before : standing.IsBefore) :
    check.Obeys law.rules IsBefore (fun standing _ => standing.IsBefore)
      standing := by
  refine (Attempt.IsGentle.obeys_before gentle law before).mono ?_
    fun _ here => here
  intro standing result here
  cases result <;> exact here

/-! ### With a lease -/

theorem Standing.HasReached.rules_of_gentle {low : Stage}
    (reached : standing.HasReached id lease low) (law : Law) {action : Action}
    (gentle : action.isGentle = true) (reply : action.Reply) :
    ∃ after, law.rules standing (action.upshot reply) = some after ∧
      after.HasReached id lease low := by
  rcases reached with ⟨stage, rfl, leads⟩
  rcases law.stage?_of_gentle gentle leads reply with ⟨next, follows, leads⟩
  refine ⟨_, ?_, next, rfl, leads⟩
  rw [Law.rules_holding (Action.isLeasing_of_isGentle gentle), follows]
  rfl

theorem Attempt.IsGentle.obeys {α : Type} {attempt : Attempt α}
    (gentle : attempt.IsGentle) (law : Law) {low : Stage}
    (reached : standing.HasReached id lease low) :
    attempt.Obeys law.rules (Holds id lease)
      (fun standing _ => standing.HasReached id lease low) standing := by
  refine (Attempt.Obeys.of_uses gentle ?_ reached).mono (fun _ _ here => here)
    fun _ here => here.holds
  intro standing action reached permitted
  exact ⟨Action.isFresh_of_isGentle permitted,
    reached.rules_of_gentle law permitted⟩

theorem Check.IsGentle.obeys {α : Type} {check : Check α}
    (gentle : check.IsGentle) (law : Law) {low : Stage}
    (reached : standing.HasReached id lease low) :
    check.Obeys law.rules (Holds id lease)
      (fun standing _ => standing.HasReached id lease low) standing := by
  refine (Attempt.IsGentle.obeys gentle law reached).mono ?_ fun _ here => here
  intro standing result here
  cases result with
  | ok value => exact here
  | error rejection => exact here.holds

/-! ## What is required of a write -/

/-- What the fields of a request say is known to the law. -/
structure Law.Governs (law : Law) (service : Service) (exchange : Exchange) :
    Prop where
  offset : ∀ offset, exchange.headers.offsetGiven? = some offset →
    law.offset = some offset
  pledged : service.terms.supports .checksum = true →
    exchange.headers.promiseChecksum = true → law.pledged = true
  unpledged : exchange.pledge = .none

/-- What has been checked of a write to an upload is within the law. -/
structure Law.Suits (law : Law) (id : String) (checked : Exchange) : Prop where
  same : checked.fileId = id
  offset : law.offset = checked.declared.offset
  given : checked.declared.offset.isSome = true
  pledged : checked.pledge ≠ .none → law.pledged = true

namespace Requirement

theorem offset_suits (governs : law.Governs service exchange)
    {checked : Exchange}
    (reads : offset exchange = .ok checked) :
    law.Suits exchange.fileId checked ∧
      checked.headers = exchange.headers := by
  simp only [offset] at reads
  split at reads
  · cases reads
  · rename_i present
    cases given : (exchange.headers.text? HeaderName.uploadOffset).bind
        fun text => Decimal.signed? (Blank.trimmed text.toList) with
    | none =>
        rw [given] at reads
        cases reads
    | some value =>
        rw [given] at reads
        simp only at reads
        split at reads
        · cases reads
        · rename_i positive
          cases reads
          have known : exchange.headers.offsetGiven? = some value.toNat := by
            rw [Headers.offsetGiven?, given, Option.bind_some, if_neg positive]
          exact ⟨⟨rfl, governs.offset _ known, rfl,
            fun pledged => absurd governs.unpledged pledged⟩, rfl⟩

theorem checksum_obeys (suits : law.Suits id exchange)
    (promises : service.terms.supports .checksum = true →
      exchange.headers.promiseChecksum = true → law.pledged = true)
    (reached : standing.HasReached id lease .unsure) :
    (checksum service exchange).Obeys law.rules (Holds id lease)
      (fun standing checked => standing.HasReached id lease .unsure ∧
        law.Suits id checked) standing := by
  have as_it_is : (Pure.pure exchange : Check Exchange).Obeys law.rules
      (Holds id lease) (fun standing checked =>
        standing.HasReached id lease .unsure ∧ law.Suits id checked)
      standing := .pure ⟨reached, suits⟩
  rw [checksum]
  split
  · exact as_it_is
  · rename_i supported
    have promises := promises (by simpa using supported)
    simp only
    cases given : exchange.headers.first? HeaderName.uploadChecksum with
    | none =>
        cases announced : announcesChecksum exchange.headers with
        | false => exact as_it_is
        | true =>
            have promised : exchange.headers.promiseChecksum = true := by
              rw [Headers.promiseChecksum, announced, Bool.or_true]
            simp only
            split
            · exact .reject reached.holds
            · exact .pure ⟨reached, suits.same, suits.offset, suits.given,
                fun _ => promises promised⟩
    | some value =>
        have promised : exchange.headers.promiseChecksum = true := by
          rw [Headers.promiseChecksum, Headers.has_eq_isSome, given,
            Option.isSome_some, Bool.true_or]
        cases announcesChecksum exchange.headers with
        | true => exact .reject reached.holds
        | false =>
            simp only
            split
            · exact .reject reached.holds
            · have asks : (service.call .algorithms).IsGentle :=
                .serviceCall service rfl
              refine .bind (.attempt (asks.obeys law reached)) ?_
              intro standing supported reached
              split
              · exact .pure ⟨reached, suits.same, suits.offset, suits.given,
                  fun _ => promises promised⟩
              · exact .reject reached.holds

theorem present_obeys (same : exchange.fileId = id) (law : Law)
    (reached : standing.HasReached id lease .unsure) :
    (present exchange).Obeys law.rules (Holds id lease)
      (fun standing _ => standing.HasReached id lease .found) standing := by
  subst same
  have asked : (Check.call (.has exchange.fileId)).Obeys law.rules
      (Holds exchange.fileId lease)
      (fun standing here => if here = true then
        standing.HasReached exchange.fileId lease .found
        else standing.Holds exchange.fileId lease) standing := by
    refine .call (.has exchange.fileId) ?_
    rcases reached with ⟨stage, rfl, leads⟩
    rintro (failure | (_ | _))
    · exact ⟨_, rfl, stage, rfl⟩
    · exact ⟨_, rfl, stage, rfl⟩
    · refine ⟨_, rfl, _, rfl, ?_⟩
      cases stage with
      | unsure | found | matched => simp [Stage.leadsTo]
      | _ => cases leads
  refine .bind asked ?_
  intro standing here known
  cases here with
  | false => exact .reject known
  | true => exact .pure known

theorem deferredLength_obeys (suits : law.Suits id exchange)
    (reached : standing.HasReached id lease .found) :
    (deferredLength service exchange).Obeys law.rules (Holds id lease)
      (fun standing checked => standing.HasReached id lease .found ∧
        law.Suits id checked) standing := by
  rw [deferredLength]
  split
  · exact .pure ⟨reached, suits⟩
  · have reads (result : Except Rejection Nat) :
        (Check.ofExcept result).IsGentle := .ofExcept result
    have asks {asked : Call} (gentle : asked.isGentle = true) :
        (Check.call asked).IsGentle := .call gentle
    refine .bind ((reads _).obeys law reached) fun standing length reached => ?_
    split
    · exact .reject reached.holds
    · refine .bind ((asks rfl).obeys law reached)
        fun standing known reached => ?_
      split
      · exact .reject reached.holds
      · refine .bind ((asks rfl).obeys law reached)
          fun standing offset reached => ?_
        split
        · exact .reject reached.holds
        · exact .pure ⟨reached, suits.same, suits.offset, suits.given,
            suits.pledged⟩

/-- Where the end of an upload is where it is wanted, that has been found. -/
theorem offsetMatches_obeys (suits : law.Suits id exchange)
    (reached : standing.HasReached id lease .found) :
    (offsetMatches exchange).Obeys law.rules (Holds id lease)
      (fun standing _ => standing.HasReached id lease .matched) standing := by
  obtain ⟨same, known, given, -⟩ := suits
  subst same
  have asked : (Check.call (.offset exchange.fileId)).Obeys law.rules
      (Holds exchange.fileId lease)
      (fun standing stored => standing.Holds exchange.fileId lease ∧
        (law.offset = some stored →
          standing.HasReached exchange.fileId lease .matched)) standing := by
    refine .call (.offset exchange.fileId) ?_
    rcases reached with ⟨stage, rfl, leads⟩
    rintro (failure | stored)
    · exact ⟨_, rfl, stage, rfl⟩
    · refine ⟨_, rfl, ⟨_, rfl⟩, fun wanted => ⟨_, rfl, ?_⟩⟩
      cases stage with
      | found => rw [if_pos ⟨rfl, rfl, wanted⟩, Stage.leadsTo]
      | matched => simp [Stage.leadsTo]
      | _ => cases leads
  refine .bind asked ?_
  rintro standing stored ⟨holds, found⟩
  simp only
  split
  · exact .reject holds
  · rename_i agrees
    have here : stored = exchange.declared.offset.getD 0 := by
      simpa using agrees
    have wanted : law.offset = some stored := by
      rw [known, here]
      rcases Option.isSome_iff_exists.1 given with ⟨offset, given⟩
      rw [given, Option.getD_some]
    exact .pure (found wanted)

end Requirement

/-- A write whose requirements are met is to begin where the upload ends. -/
theorem Handling.write_check_obeys (governs : law.Governs service exchange)
    (reached : standing.HasReached exchange.fileId lease .unsure) :
    ((write service).check exchange).Obeys law.rules
      (Holds exchange.fileId lease)
      (fun standing checked =>
        standing.HasReached exchange.fileId lease .matched ∧
        law.Suits exchange.fileId checked) standing := by
  have typed : (Check.ofExcept (Requirement.contentType exchange)).IsGentle :=
    .ofExcept _
  refine .bind (typed.obeys law reached) ?_
  intro standing _ reached
  have placed : (Check.ofExcept (Requirement.offset exchange)).Obeys law.rules
      (Holds exchange.fileId lease)
      (fun standing checked =>
        standing.HasReached exchange.fileId lease .unsure ∧
        law.Suits exchange.fileId checked ∧
        checked.headers = exchange.headers) standing :=
    .ofExcept reached.holds fun checked reads =>
      ⟨reached, Requirement.offset_suits governs reads⟩
  refine .bind placed ?_
  rintro standing placed ⟨reached, suits, headers⟩
  refine .bind (Requirement.checksum_obeys suits (headers ▸ governs.pledged)
    reached) ?_
  rintro standing checked ⟨reached, suits⟩
  refine .bind (Requirement.present_obeys suits.same law reached) ?_
  intro standing _ reached
  refine .bind ((Requirement.alive_inquires service checked).isGentle.obeys law
    reached) ?_
  intro standing _ reached
  refine .bind ((Requirement.notJoined_inquires service
    checked).isGentle.obeys law reached) ?_
  intro standing _ reached
  refine .bind (Requirement.deferredLength_obeys suits reached) ?_
  rintro standing checked ⟨reached, suits⟩
  refine .bind (Requirement.offsetMatches_obeys suits reached) ?_
  intro standing _ reached
  refine .bind ((Requirement.incomplete_inquires checked).isGentle.obeys law
    reached) ?_
  intro standing _ reached
  exact .pure ⟨reached, suits⟩

/-! ## Work with a lease -/

/-- Gentle parts of the work keep the lease. -/
theorem Attempt.IsGentle.obeys_holding {α : Type} {attempt : Attempt α}
    (gentle : attempt.IsGentle) (law : Law) (holds : standing.Holds id lease) :
    attempt.Obeys law.rules (Holds id lease)
      (fun standing _ => standing.Holds id lease) standing := by
  rcases holds.exists_reached with ⟨low, reached⟩
  exact (gentle.obeys law reached).mono (fun _ _ here => here.holds)
    fun _ here => here

namespace Handling

theorem fixLength_obeys {checked : Exchange} (suits : law.Suits id checked)
    (reached : standing.HasReached id lease .matched) :
    (fixLength service checked).Obeys law.rules (Holds id lease)
      (fun standing _ => standing.HasReached id lease .matched) standing := by
  rw [fixLength]
  split
  · rename_i length _
    refine .serviceCall service (.setLength checked.fileId length)
      reached.holds ?_
    intro reply
    rcases reached with ⟨stage, rfl, leads⟩
    have here : checked.fileId = id ∧ stage = .matched := by
      refine ⟨suits.same, ?_⟩
      cases stage <;> first | rfl | cases leads
    refine ⟨.holding id lease .matched, ?_, ?_⟩
    · simp [Law.rules, Law.stage?, here]
    · cases reply with
      | ok value => exact .of_eq
      | error failure => exact ⟨_, rfl⟩
  · exact .pure reached

/-- A body is verified only if its checksum was promised. -/
theorem keepsPledge_obeys {checked : Exchange} (suits : law.Suits id checked)
    (reached : standing.HasReached id lease .begun) :
    (keepsPledge service checked).Obeys law.rules (Holds id lease)
      (fun standing _ => standing.Holds id lease) standing := by
  have pledges : (pledged service checked.pledge).Obeys law.rules
      (Holds id lease)
      (fun standing checksum? => standing.HasReached id lease .begun ∧
        (checksum? ≠ none → law.pledged = true)) standing := by
    have promised := suits.pledged
    generalize checked.pledge = pledge at promised ⊢
    cases pledge with
    | none => exact .pure ⟨reached, fun contrary => absurd rfl contrary⟩
    | given checksum =>
        exact .pure ⟨reached, fun _ => promised (by rintro ⟨⟩)⟩
    | announced =>
        have asks (checksum : Checksum) : Attempt.IsGentle (do
            let supported ← service.call .algorithms
            return if checksum.isAmong supported then checksum
              else .sentinel) :=
          .bind (.serviceCall service rfl) fun _ => .pure _
        have gentle : (trailingChecksum service).IsGentle := by
          refine .bind (.trailers rfl) fun trailers? => ?_
          simp only
          split
          · exact .pure _
          · exact asks _
        rw [pledged, map_eq_pure_bind]
        refine .bind (gentle.obeys law reached) ?_
        intro standing checksum reached
        exact .pure ⟨reached, fun _ => promised (by rintro ⟨⟩)⟩
  refine .bind pledges ?_
  rintro standing checksum? ⟨reached, promised⟩
  cases checksum? with
  | none => exact .pure reached.holds
  | some checksum =>
      refine .serviceCall service
        (.verify checked.fileId checksum.algorithm checksum.hash)
        reached.holds ?_
      intro reply
      rcases reached with ⟨stage, rfl, leads⟩
      have here : checked.fileId = id ∧ stage = .begun ∧
          law.pledged = true := by
        refine ⟨suits.same, ?_, promised (by rintro ⟨⟩)⟩
        cases stage <;> first | rfl | cases leads
      refine ⟨.holding id lease .settled, ?_, ?_⟩
      · simp [Law.rules, Law.stage?, here]
      · cases reply <;> exact ⟨_, rfl⟩

theorem write_carryOut_obeys {checked : Exchange}
    (suits : law.Suits id checked)
    (reached : standing.HasReached id lease .matched) :
    ((write service).carryOut checked).Obeys law.rules (Holds id lease)
      (fun standing _ => standing.Holds id lease) standing := by
  refine .bind (fixLength_obeys suits reached) ?_
  intro standing _ reached
  have appends : (Attempt.append checked.fileId (route service)).Obeys
      law.rules (Holds id lease)
      (fun standing _ => standing.HasReached id lease .begun) standing := by
    refine .append checked.fileId (route service) ?_
    intro reply
    rcases reached with ⟨stage, rfl, leads⟩
    have here : checked.fileId = id ∧ stage = .matched := by
      refine ⟨suits.same, ?_⟩
      cases stage <;> first | rfl | cases leads
    refine ⟨.holding id lease (.afterAppend reply), ?_, ?_⟩
    · simp [Law.rules, Law.stage?, here]
    · cases reply with
      | ok count => exact .of_eq
      | error failure => exact ⟨_, rfl⟩
  refine .bind appends fun standing _ reached => ?_
  refine .bind (keepsPledge_obeys suits reached) fun standing keeps holds => ?_
  cases keeps with
  | true =>
      exact (answerWritten_isGentle service checked).obeys_holding law holds
  | false => exact .pure holds

theorem delete_check_obeys (exchange : Exchange) (law : Law)
    (reached : standing.HasReached exchange.fileId lease .unsure) :
    ((delete service).check exchange).Obeys law.rules
      (Holds exchange.fileId lease)
      (fun standing checked =>
        standing.HasReached exchange.fileId lease .found ∧
        checked = exchange) standing := by
  refine .bind (Requirement.present_obeys rfl law reached) ?_
  intro standing _ reached
  refine .bind ((Requirement.alive_inquires service exchange).isGentle.obeys
    law reached) ?_
  intro standing _ reached
  exact .pure ⟨reached, rfl⟩

theorem delete_carryOut_obeys (deletes : law.deletes = true)
    (holds : standing.Holds exchange.fileId lease) :
    ((delete service).carryOut exchange).Obeys law.rules
      (Holds exchange.fileId lease)
      (fun standing _ => standing.Holds exchange.fileId lease) standing := by
  have erases : (service.call (.delete exchange.fileId)).Obeys law.rules
      (Holds exchange.fileId lease)
      (fun standing _ => standing.Holds exchange.fileId lease) standing := by
    refine .serviceCall service (.delete exchange.fileId) holds ?_
    intro reply
    rcases holds with ⟨stage, rfl⟩
    refine ⟨.holding exchange.fileId lease .settled, ?_, ?_⟩
    · simp [Law.rules, Law.stage?, deletes]
    · cases reply <;> exact ⟨_, rfl⟩
  exact .bind erases fun _ _ holds => .pure holds

end Handling

end ResumableUpload
