import ResumableUpload.Proofs.Negotiation.Contract
import ResumableUpload.Proofs.Solo.Writing
/-!
# Compliance with what was agreed on

A service agrees with its store on the means that may be used.  An action
complies that uses no other means, and a failure that is no complaint about
missing means.

Each use of means stands behind a guard, but not beside it.  That a checksum
was pledged, or that a write gives a length, says that a requirement has found
the extension on offer; an intent says that the extension was on offer when
the request was classified.  `Exchange.IsCovered` and `Intent.IsOffered` carry
these findings from the guards to the uses.
-/

namespace ResumableUpload

/-! ## Means -/

/-- The means of the store that are used by what has been begun. -/
def Unfinished.means? : Unfinished → Option Means
  | .calling _ asked => asked.means?
  | .joining _ _ _ _ _ => some .concatenation
  | .beginning _ route => route.means?
  | .appending _ (.buffered _) => none
  | .appending _ (.streamed _) => some .pipeline
  | .reading _ => some .readable

/-- The means of the store that an action makes use of, beyond the core. -/
def Action.means? : Action → Option Means
  | .call asked => asked.means?
  | .append _ route => route.means?
  | .goOn begun => begun.means?
  | .acquire _ | .release _ | .trailers | .clock | .tell _ => none

/-- Uses no means but those agreed on, and does not fail for want of any. -/
def Service.contract (service : Service) : Contract where
  permits action := ∀ means, action.means? = some means →
    service.terms.grants means = true
  bears failure := ∀ means, failure ≠ .unsupported means

/-- An attempt that uses no means but those agreed on. -/
abbrev Attempt.Complies {α : Type} (attempt : Attempt α) (service : Service) :
    Prop :=
  attempt.Honours service.contract fun _ => True

/-- A check that uses no means but those agreed on. -/
abbrev Check.Complies {α : Type} (check : Check α) (service : Service) :
    Prop :=
  check.Honours service.contract fun _ => True

variable {service : Service} {exchange : Exchange}

/-- What makes use of no means is permitted. -/
theorem Service.permits_of_core {action : Action}
    (core : action.means? = none) : service.contract.permits action := by
  intro means needed
  rw [core] at needed
  cases needed

/-- What makes use of the means for an extension on offer is permitted. -/
theorem Service.permits_of_supports {action : Action} {extension : Extension}
    (supported : service.terms.supports extension = true)
    (needed : action.means?.bind Means.extension? = some extension) :
    service.contract.permits action := by
  intro means needing
  rw [needing] at needed
  exact Terms.grants_of_supports needed supported

namespace Attempt.Complies

variable {α β : Type}

theorem pure (value : α) : (pure value : Attempt α).Complies service :=
  Attempt.Honours.pure trivial

theorem bind {attempt : Attempt α} {rest : α → Attempt β}
    (first : attempt.Complies service)
    (second : ∀ value, (rest value).Complies service) :
    (attempt >>= rest).Complies service :=
  Attempt.Honours.bind first fun value _ => second value

theorem now : Attempt.now.Complies service :=
  Attempt.Honours.now (Service.permits_of_core rfl)

theorem tell (event : Event) : (Attempt.tell event).Complies service :=
  Attempt.Honours.tell (Service.permits_of_core rfl)

/-- A call for which the core suffices. -/
theorem call {asked : Call} (core : asked.means? = none) :
    (Attempt.call asked).Complies service :=
  Attempt.Honours.call (Service.permits_of_core core)

/-- A call that uses the means for an extension on offer is not stopped. -/
theorem serviceCall {asked : Call} {extension : Extension}
    (supported : service.terms.supports extension = true)
    (needed : asked.means?.bind Means.extension? = some extension) :
    (service.call asked).Complies service := by
  have permitted : service.contract.permits (.call asked) :=
    Service.permits_of_supports supported needed
  refine bind ?_ fun _ => Attempt.Honours.call permitted
  rw [Service.permit]
  cases needing : asked.means? with
  | none => exact pure ()
  | some means =>
      simp only
      rw [Service.require, if_pos (permitted means needing)]
      exact pure ()

end Attempt.Complies

namespace Check.Complies

variable {α β : Type}

theorem pure (value : α) : (pure value : Check α).Complies service :=
  Check.Honours.pure trivial

theorem ofExcept (result : Except Rejection α) :
    (Check.ofExcept result).Complies service :=
  Check.Honours.ofExcept fun _ _ => trivial

theorem attempt {attempt : Attempt α} (complies : attempt.Complies service) :
    (Check.attempt attempt).Complies service :=
  Check.Honours.attempt complies

theorem call {asked : Call} (core : asked.means? = none) :
    (Check.call asked).Complies service :=
  attempt (Attempt.Complies.call core)

theorem bind {check : Check α} {rest : α → Check β}
    (first : check.Complies service)
    (second : ∀ value, (rest value).Complies service) :
    (check >>= rest).Complies service :=
  Check.Honours.bind first fun value _ => second value

/-- What a check finds that complies matters to nothing but what follows. -/
theorem andThen {ends : β → Prop} {check : Check α} {rest : α → Check β}
    (first : check.Complies service)
    (second : ∀ value, (rest value).Honours service.contract ends) :
    (check >>= rest).Honours service.contract ends :=
  Check.Honours.bind first fun value _ => second value

end Check.Complies

/-! ## Requirements -/

/-- What has been noted of a write has been found to be on offer. -/
structure Exchange.IsCovered (service : Service) (exchange : Exchange) :
    Prop where
  pledge : exchange.pledge ≠ .none → service.terms.supports .checksum = true
  length : exchange.declared.length ≠ none →
    service.terms.supports .creationDeferLength = true

namespace Requirement

theorem offset_isCovered (covered : exchange.IsCovered service)
    {noted : Exchange} (accepted : offset exchange = .ok noted) :
    noted.IsCovered service := by
  rw [offset] at accepted
  split at accepted
  · cases accepted
  · split at accepted
    · cases accepted
    · split at accepted
      · cases accepted
      · cases accepted
        exact ⟨covered.pledge, covered.length⟩

/-- A checksum is pledged only where checksums are on offer. -/
theorem checksum_honours (covered : exchange.IsCovered service) :
    (checksum service exchange).Honours service.contract
      (Exchange.IsCovered service) := by
  rw [checksum]
  cases supported : service.terms.supports .checksum with
  | false => exact .pure covered
  | true =>
      have pledging (pledge : Pledge) :
          { exchange with pledge := pledge }.IsCovered service :=
        ⟨fun _ => supported, covered.length⟩
      simp only [Bool.not_true, Bool.false_eq_true, if_false]
      cases exchange.headers.first? HeaderName.uploadChecksum with
      | none =>
          cases announcesChecksum exchange.headers with
          | true =>
              simp only
              split
              · exact .reject _
              · exact .pure (pledging .announced)
          | false => exact .pure covered
      | some value =>
          cases announcesChecksum exchange.headers with
          | true => exact .reject _
          | false =>
              simp only
              split
              · exact .reject _
              · refine Check.Complies.andThen
                  (.attempt (.serviceCall supported rfl)) ?_
                intro known
                split
                · exact .pure (pledging (.given _))
                · exact .reject _

theorem present_complies (exchange : Exchange) :
    (present exchange).Complies service := by
  refine .bind (.call rfl) ?_
  intro here
  split
  · exact .pure ()
  · exact .reject _

theorem alive_complies (exchange : Exchange) :
    (alive service exchange).Complies service := by
  rw [alive]
  split
  · refine .bind (.attempt (.serviceCall ‹_› rfl)) ?_
    intro expiry
    split
    · refine .bind (.attempt .now) ?_
      intro now
      split
      · exact .reject _
      · exact .pure ()
    · exact .pure ()
  · exact .pure ()

theorem partOf_complies (id : String) :
    (partOf service id).Complies service := by
  rw [partOf]
  split
  · exact .serviceCall ‹_› rfl
  · exact .pure _

theorem notJoined_complies (exchange : Exchange) :
    (notJoined service exchange).Complies service := by
  refine .bind (.attempt (partOf_complies _)) ?_
  intro part
  split
  · exact .reject _
  · exact .pure ()

/-- A write gives a length only where lengths can be deferred. -/
theorem deferredLength_honours (covered : exchange.IsCovered service) :
    (deferredLength service exchange).Honours service.contract
      (Exchange.IsCovered service) := by
  rw [deferredLength]
  split
  · exact .pure covered
  · refine Check.Complies.andThen (.ofExcept _) ?_
    intro length
    cases supported : service.terms.supports .creationDeferLength with
    | false => exact .reject _
    | true =>
        simp only [Bool.not_true, Bool.false_eq_true, if_false]
        refine Check.Complies.andThen (.call rfl) ?_
        intro known
        split
        · exact .reject _
        · refine Check.Complies.andThen (.call rfl) ?_
          intro offset
          split
          · exact .reject _
          · exact .pure ⟨covered.pledge, fun _ => supported⟩

theorem offsetMatches_complies (exchange : Exchange) :
    (offsetMatches exchange).Complies service := by
  refine .bind (.call rfl) ?_
  intro stored
  simp only
  split
  · exact .reject _
  · exact .pure ()

theorem incomplete_complies (exchange : Exchange) :
    (incomplete exchange).Complies service := by
  refine .bind (.call rfl) ?_
  intro length
  split
  · exact .pure ()
  · refine .bind (.call rfl) ?_
    intro offset
    split
    · exact .reject _
    · exact .pure ()

theorem piecesExist_complies (ids : List String) :
    (piecesExist ids).Complies service := by
  induction ids with
  | nil => exact .pure ()
  | cons id rest hypothesis =>
      refine .bind (.call rfl) ?_
      intro here
      split
      · exact hypothesis
      · exact .reject _

theorem piecesArePieces_complies (ids : List String) :
    (piecesArePieces service ids).Complies service := by
  induction ids with
  | nil => exact .pure ()
  | cons id rest hypothesis =>
      refine .bind (.attempt (partOf_complies id)) ?_
      intro part
      split
      · exact hypothesis
      · exact .reject _

theorem piecesComplete_complies (total : Nat) (ids : List String) :
    (piecesComplete total ids).Complies service := by
  induction ids generalizing total with
  | nil => exact .pure total
  | cons id rest hypothesis =>
      refine .bind (.call rfl) fun length => .bind (.call rfl) fun offset => ?_
      split
      · exact hypothesis _
      · exact .reject _

theorem joinable_complies (ids : List String) :
    (joinable service ids).Complies service := by
  refine .bind (piecesExist_complies ids) fun _ =>
    .bind (piecesArePieces_complies ids) fun _ =>
      .bind (piecesComplete_complies 0 ids) fun total => ?_
  split
  · exact .reject _
  · exact .pure ()

theorem part_complies (exchange : Exchange) :
    (part service exchange).Complies service := by
  rw [part]
  split
  · exact .reject _
  · refine .bind ?_ fun _ => .pure _
    rw [partIsPossible.eq_def]
    split
    · refine .bind (joinable_complies _) ?_
      intro _
      split
      · exact .reject _
      · exact .pure ()
    · exact .pure ()
    · exact .pure ()

end Requirement

/-! ## Lifetimes -/

namespace Lifetime

theorem renew_complies (id : String) : (renew service id).Complies service := by
  rw [renew]
  cases present : policy? service with
  | none => exact .pure none
  | some policy =>
      refine .bind .now ?_
      intro now
      split
      · exact .fail (by rintro _ ⟨⟩)
      · exact .bind (.serviceCall (supports_of_policy? present) rfl)
          fun _ => .pure _

theorem current_complies (id : String) :
    (current service id).Complies service := by
  rw [current]
  cases present : policy? service with
  | none => exact .pure none
  | some policy => exact .serviceCall (supports_of_policy? present) rfl

theorem afterWrite_complies (id : String) :
    (afterWrite service id).Complies service := by
  rw [afterWrite.eq_def]
  split
  · exact renew_complies id
  · exact current_complies id

end Lifetime

/-! ## Handlings -/

namespace Handling

/-- A body is taken as a stream only where the store has the means for it. -/
theorem append_complies (id : String) :
    (Attempt.append id (route service)).Complies service := by
  rw [route]
  split
  · refine .append ?_
    intro means needed
    cases needed
    exact (Bool.and_eq_true_iff.1 ‹_›).2
  · exact .append (Service.permits_of_core rfl)

theorem trailingChecksum_complies
    (supported : service.terms.supports .checksum = true) :
    (trailingChecksum service).Complies service := by
  refine Attempt.Complies.bind (.trailers (Service.permits_of_core rfl)) ?_
  intro trailers
  simp only
  split
  · exact .pure _
  · exact .bind (.serviceCall supported rfl) fun _ => .pure _

theorem pledged_complies {pledge : Pledge}
    (covered : pledge ≠ .none → service.terms.supports .checksum = true) :
    (pledged service pledge).Complies service := by
  cases pledge with
  | none => exact .pure none
  | given checksum => exact .pure (some checksum)
  | announced =>
      rw [pledged, map_eq_pure_bind]
      exact .bind (trailingChecksum_complies (covered (by rintro ⟨⟩))) fun _ => .pure _

theorem keepsPledge_complies (covered : exchange.IsCovered service) :
    (keepsPledge service exchange).Complies service := by
  rw [keepsPledge]
  by_cases unpledged : exchange.pledge = .none
  · rw [unpledged]
    exact .pure true
  · refine .bind (pledged_complies covered.pledge) ?_
    intro checksum?
    split
    · exact .pure true
    · exact .serviceCall (covered.pledge unpledged) rfl

theorem fixLength_complies (covered : exchange.IsCovered service) :
    (fixLength service exchange).Complies service := by
  rw [fixLength]
  cases given : exchange.declared.length with
  | none => exact .pure ()
  | some length =>
      have supported := covered.length (by simp [given])
      exact .serviceCall supported rfl

theorem answerWritten_complies (exchange : Exchange) :
    (answerWritten service exchange).Complies service :=
  .bind (Lifetime.afterWrite_complies _) fun _ => .bind (.call rfl) fun _ =>
    .bind (.call rfl) fun _ => .pure _

/--
A handling that, once it has checked what is required of an exchange, needs no
means in its work but those agreed on.
-/
def Complies (handling : Handling) (service : Service) : Prop :=
  ∀ exchange : Exchange, exchange.IsCovered service →
    (handling.check exchange).Honours service.contract fun checked =>
      (handling.carryOut checked).Complies service

theorem create_complies (supported : service.terms.supports .creation = true) :
    (create service).Complies service := by
  intro exchange _
  refine .ofExcept fun checked _ => ?_
  exact .bind (.serviceCall supported rfl) fun _ =>
    .bind (Lifetime.renew_complies _) fun _ => .pure _

theorem concatenate_complies
    (supported : service.terms.supports .concatenation = true) :
    (concatenate service).Complies service := by
  intro exchange _
  refine Check.Complies.andThen (Requirement.part_complies exchange)
    fun exchange => .ofExcept fun checked _ => ?_
  have piece : (createPiece service checked).Complies service :=
    .bind (.serviceCall supported rfl) fun _ =>
      .bind (Lifetime.renew_complies _) fun _ => .pure _
  rw [concatenate]
  simp only
  cases checked.part with
  | joined ids =>
      exact .bind (.serviceCall supported rfl) fun _ =>
        .bind (.call rfl) fun _ => .pure _
  | piece => exact piece
  | whole => exact piece

theorem write_carryOut_complies (covered : exchange.IsCovered service) :
    ((write service).carryOut exchange).Complies service := by
  refine .bind (fixLength_complies covered) fun _ =>
    .bind (append_complies _) fun _ =>
    .bind (keepsPledge_complies covered) fun keeps => ?_
  split
  · exact answerWritten_complies exchange
  · exact .pure _

theorem write_complies : (write service).Complies service := by
  intro exchange covered
  exact Check.Complies.andThen (.ofExcept _) fun _ =>
    .bind (.ofExcept fun _ => Requirement.offset_isCovered covered)
      fun exchange covered =>
    .bind (Requirement.checksum_honours covered) fun exchange covered =>
    Check.Complies.andThen (Requirement.present_complies exchange) fun _ =>
    Check.Complies.andThen (Requirement.alive_complies exchange) fun _ =>
    Check.Complies.andThen (Requirement.notJoined_complies exchange) fun _ =>
    .bind (Requirement.deferredLength_honours covered) fun exchange covered =>
    Check.Complies.andThen (Requirement.offsetMatches_complies exchange)
      fun _ =>
    Check.Complies.andThen (Requirement.incomplete_complies exchange) fun _ =>
    .pure (write_carryOut_complies covered)

theorem delete_complies
    (supported : service.terms.supports .termination = true) :
    (delete service).Complies service := by
  intro exchange _
  exact Check.Complies.andThen (Requirement.present_complies exchange) fun _ =>
    Check.Complies.andThen (Requirement.alive_complies exchange) fun _ =>
      .pure (Attempt.Complies.bind (.serviceCall supported rfl) fun _ =>
        .pure _)

theorem info_complies : (info service).Complies service := by
  intro exchange _
  refine Check.Complies.andThen (Requirement.present_complies exchange)
    fun _ => Check.Complies.andThen (Requirement.alive_complies exchange)
      fun _ => .pure ?_
  exact Attempt.Complies.bind (.call rfl) fun _ => .bind (.call rfl) fun _ =>
    .bind (.call rfl) fun _ => .bind (Requirement.partOf_complies _) fun _ =>
      .bind (Lifetime.current_complies _) fun _ => .pure _

/-- The checksums that are advertised are on offer. -/
theorem supports_of_advertised
    (advertises : (advertised service exchange).has .checksum = true) :
    service.terms.supports .checksum = true := by
  rw [advertised] at advertises
  split at advertises
  · exact advertises
  · exact advertises

theorem options_complies : (options service).Complies service := by
  intro exchange _
  refine .pure (Attempt.Complies.bind ?_ fun _ => .pure _)
  rw [advertisedAlgorithms]
  split
  · exact .bind (.serviceCall (supports_of_advertised ‹_›) rfl) fun _ =>
      .pure _
  · exact .pure none

end Handling

/-! ## Intents -/

/-- What an intent needs is on offer. -/
def Intent.IsOffered (terms : Terms) : Intent → Prop
  | .createFile => terms.supports .creation = true
  | .concatenate => terms.supports .concatenation = true
  | .deleteFile => terms.supports .termination = true
  | .writeFile | .fileInfo | .options | .notApplicable => True

theorem Intent.primary_isOffered (terms : Terms) (method : Method)
    (address : Address) (headers : Headers) :
    (primary terms method address headers).IsOffered terms := by
  rw [primary.eq_def]
  split
  · split
    · exact (Bool.and_eq_true_iff.1 ‹_›).2
    · split
      · assumption
      · trivial
  · trivial
  · split
    · assumption
    · trivial
  · trivial
  · trivial
  · trivial

/-- A request asks for nothing that is not on offer. -/
theorem Intent.ofRequest_isOffered {terms : Terms} {urlPath path : String}
    {method : Method} {headers : Headers} {intent : Intent}
    (asked : intent ∈ ofRequest terms urlPath method path headers) :
    intent.IsOffered terms := by
  rw [ofRequest] at asked
  split at asked
  · rw [List.mem_singleton.1 asked]
    trivial
  · have primary := primary_isOffered terms method
      (Address.ofPath urlPath path) headers
    simp only at asked
    split at asked
    · rcases List.mem_cons.1 asked with rfl | asked
      · exact primary
      · rw [List.mem_singleton.1 asked]
        trivial
    · rw [List.mem_singleton.1 asked]
      exact primary

theorem Handling.complies_of_isOffered {intent : Intent} {handling : Handling}
    (offered : intent.IsOffered service.terms)
    (handled : ofIntent? service intent = some handling) :
    handling.Complies service := by
  cases intent with
  | createFile =>
      cases handled
      exact create_complies offered
  | concatenate =>
      cases handled
      exact concatenate_complies offered
  | writeFile =>
      cases handled
      exact write_complies
  | deleteFile =>
      cases handled
      exact delete_complies offered
  | fileInfo =>
      cases handled
      exact info_complies
  | options =>
      cases handled
      exact options_complies
  | notApplicable => cases handled

end ResumableUpload
