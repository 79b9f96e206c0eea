import ResumableUpload.Proofs.Negotiation.Contract
import ResumableUpload.Proofs.Solo.Writing
import ResumableUpload.Proofs.Store.Revisions
/-!
# What has to do with one upload alone

A write, a deletion and a question how far an upload is name one upload.
Nothing that is done for them has to do with another: `Handling.IsConfined`
says so of a handling.  That the requirements of a write pass on an exchange
about the same upload has to be carried along, because each of them may change
the exchange; so this is a contract, with what a check ends in.
-/

namespace ResumableUpload

/-! ## Actions and programs -/

/-- Whether an action concerns one upload, the client and the time alone. -/
def Action.Concerns (id : String) : Action → Prop
  | .call asked => asked.Concerns id
  | .append other _ => other = id
  | .trailers | .clock | .tell _ => True
  | .acquire _ | .release _ | .goOn _ => False

/-- Does nothing but what concerns one upload, and may fail in any way. -/
def Contract.about (id : String) : Contract where
  permits action := action.Concerns id
  bears _ := True

/-- An attempt that has to do with one upload alone. -/
abbrev Attempt.KeepsTo {α : Type} (attempt : Attempt α) (id : String) : Prop :=
  attempt.Honours (.about id) fun _ => True

/-- A check that has to do with one upload alone. -/
abbrev Check.KeepsTo {α : Type} (check : Check α) (id : String) : Prop :=
  check.Honours (.about id) fun _ => True

namespace Attempt.KeepsTo

variable {α β : Type} {id : String}

theorem pure (value : α) : (pure value : Attempt α).KeepsTo id :=
  Attempt.Honours.pure trivial

theorem bind {attempt : Attempt α} {rest : α → Attempt β}
    (first : attempt.KeepsTo id) (second : ∀ value, (rest value).KeepsTo id) :
    (attempt >>= rest).KeepsTo id :=
  Attempt.Honours.bind first fun value _ => second value

theorem serviceCall (service : Service) {asked : Call}
    (concerns : asked.Concerns id) : (service.call asked).KeepsTo id := by
  refine bind ?_ fun _ => Attempt.Honours.call concerns
  rw [Service.permit]
  split
  · rw [Service.require]
    split
    · exact pure ()
    · exact Attempt.Honours.fail trivial
  · exact pure ()

end Attempt.KeepsTo

namespace Check.KeepsTo

variable {α β : Type} {id : String}

theorem pure (value : α) : (pure value : Check α).KeepsTo id :=
  Check.Honours.pure trivial

theorem attempt {attempt : Attempt α} (keeps : attempt.KeepsTo id) :
    (Check.attempt attempt).KeepsTo id :=
  Check.Honours.attempt keeps

theorem call {asked : Call} (concerns : asked.Concerns id) :
    (Check.call asked).KeepsTo id :=
  attempt (Attempt.Honours.call concerns)

theorem bind {check : Check α} {rest : α → Check β}
    (first : check.KeepsTo id) (second : ∀ value, (rest value).KeepsTo id) :
    (check >>= rest).KeepsTo id :=
  Check.Honours.bind first fun value _ => second value

/-- What a check finds that keeps to an upload matters only to what follows. -/
theorem andThen {ends : β → Prop} {check : Check α} {rest : α → Check β}
    (first : check.KeepsTo id)
    (second : ∀ value, (rest value).Honours (.about id) ends) :
    (check >>= rest).Honours (.about id) ends :=
  Check.Honours.bind first fun value _ => second value

end Check.KeepsTo

/-! ## Requirements -/

variable {service : Service} {exchange : Exchange} {id : String}

/-- An exchange that is about one upload. -/
def Exchange.IsAbout (id : String) (exchange : Exchange) : Prop :=
  exchange.fileId = id

namespace Requirement

theorem offset_isAbout (about : exchange.IsAbout id) {noted : Exchange}
    (accepted : offset exchange = .ok noted) : noted.IsAbout id := by
  obtain ⟨given, rfl⟩ := offset_eq_ok accepted
  exact about

theorem checksum_isAbout (about : exchange.IsAbout id) :
    (checksum service exchange).Honours (.about id) (Exchange.IsAbout id) := by
  have pledging (pledge : Pledge) :
      { exchange with pledge := pledge }.IsAbout id := about
  rw [checksum]
  split
  · exact .pure about
  · simp only
    cases exchange.headers.first? HeaderName.uploadChecksum with
    | none =>
        cases announcesChecksum exchange.headers with
        | true =>
            simp only
            split
            · exact .reject _
            · exact .pure (pledging .announced)
        | false => exact .pure about
    | some value =>
        cases announcesChecksum exchange.headers with
        | true => exact .reject _
        | false =>
            simp only
            split
            · exact .reject _
            · refine Check.KeepsTo.andThen
                (.attempt (.serviceCall service trivial)) ?_
              intro known
              split
              · exact .pure (pledging (.given _))
              · exact .reject _

theorem present_keepsTo (about : exchange.IsAbout id) :
    (present exchange).KeepsTo id := by
  refine .bind (.call about) ?_
  intro here
  split
  · exact .pure ()
  · exact .reject _

theorem alive_keepsTo (about : exchange.IsAbout id) :
    (alive service exchange).KeepsTo id := by
  rw [alive]
  split
  · refine .bind (.attempt (.serviceCall service (congrArg some about))) ?_
    intro expiry
    split
    · refine .bind (.attempt (Attempt.Honours.now trivial)) ?_
      intro now
      split
      · exact .reject _
      · exact .pure ()
    · exact .pure ()
  · exact .pure ()

theorem partOf_keepsTo (service : Service) (id : String) :
    (partOf service id).KeepsTo id := by
  rw [partOf]
  split
  · exact .serviceCall service rfl
  · exact .pure _

theorem notJoined_keepsTo (about : exchange.IsAbout id) :
    (notJoined service exchange).KeepsTo id := by
  rw [notJoined, about]
  refine .bind (.attempt (partOf_keepsTo service id)) ?_
  intro part
  split
  · exact .reject _
  · exact .pure ()

theorem deferredLength_isAbout (about : exchange.IsAbout id) :
    (deferredLength service exchange).Honours (.about id)
      (Exchange.IsAbout id) := by
  rw [deferredLength]
  split
  · exact .pure about
  · refine Check.KeepsTo.andThen (.ofExcept fun _ _ => trivial) ?_
    intro length
    split
    · exact .reject _
    · refine Check.KeepsTo.andThen (.call (congrArg some about)) ?_
      intro known
      split
      · exact .reject _
      · refine Check.KeepsTo.andThen (.call (congrArg some about)) ?_
        intro offset
        split
        · exact .reject _
        · exact .pure about

theorem offsetMatches_keepsTo (about : exchange.IsAbout id) :
    (offsetMatches exchange).KeepsTo id := by
  refine .bind (.call (congrArg some about)) ?_
  intro stored
  simp only
  split
  · exact .reject _
  · exact .pure ()

theorem incomplete_keepsTo (about : exchange.IsAbout id) :
    (incomplete exchange).KeepsTo id := by
  refine .bind (.call (congrArg some about)) ?_
  intro length
  split
  · exact .pure ()
  · refine .bind (.call (congrArg some about)) ?_
    intro offset
    split
    · exact .reject _
    · exact .pure ()

end Requirement

/-! ## Handlings -/

namespace Lifetime

theorem renew_keepsTo (service : Service) (id : String) :
    (renew service id).KeepsTo id := by
  rw [renew]
  split
  · exact .pure none
  · refine .bind (Attempt.Honours.now trivial) ?_
    intro now
    split
    · exact Attempt.Honours.fail trivial
    · exact .bind (.serviceCall service rfl) fun _ => .pure _

theorem current_keepsTo (service : Service) (id : String) :
    (current service id).KeepsTo id := by
  rw [current]
  split
  · exact .pure none
  · exact .serviceCall service rfl

theorem afterWrite_keepsTo (service : Service) (id : String) :
    (afterWrite service id).KeepsTo id := by
  rw [afterWrite.eq_def]
  split
  · exact renew_keepsTo service id
  · exact current_keepsTo service id

end Lifetime

namespace Handling

/-- A handling that has to do with the upload of its exchange alone. -/
def IsConfined (handling : Handling) : Prop :=
  ∀ (id : String) (exchange : Exchange), exchange.IsAbout id →
    (handling.check exchange).Honours (.about id) fun checked =>
      (handling.carryOut checked).KeepsTo id

theorem fixLength_keepsTo (about : exchange.IsAbout id) :
    (fixLength service exchange).KeepsTo id := by
  rw [fixLength]
  split
  · exact .serviceCall service (congrArg some about)
  · exact .pure ()

theorem pledged_keepsTo (service : Service) (pledge : Pledge) (id : String) :
    (pledged service pledge).KeepsTo id := by
  cases pledge with
  | none => exact .pure none
  | given checksum => exact .pure (some checksum)
  | announced =>
      rw [pledged, map_eq_pure_bind]
      refine .bind ?_ fun _ => .pure _
      refine .bind (Attempt.Honours.trailers trivial) fun trailers => ?_
      simp only
      split
      · exact .pure _
      · exact .bind (.serviceCall service trivial) fun _ => .pure _

theorem keepsPledge_keepsTo (about : exchange.IsAbout id) :
    (keepsPledge service exchange).KeepsTo id := by
  refine .bind (pledged_keepsTo service _ id) ?_
  intro checksum
  split
  · exact .pure true
  · exact .serviceCall service (congrArg some about)

theorem answerWritten_keepsTo (about : exchange.IsAbout id) :
    (answerWritten service exchange).KeepsTo id := by
  rw [answerWritten, about]
  exact .bind (Lifetime.afterWrite_keepsTo service id) fun _ =>
    .bind (.call rfl) fun _ => .bind (.call rfl) fun _ => .pure _

theorem write_isConfined (service : Service) : (write service).IsConfined := by
  intro id exchange about
  refine Check.KeepsTo.andThen (.ofExcept fun _ _ => trivial) fun _ =>
    .bind (.ofExcept fun _ => Requirement.offset_isAbout about)
      fun exchange about =>
    .bind (Requirement.checksum_isAbout about) fun exchange about =>
    Check.KeepsTo.andThen (Requirement.present_keepsTo about) fun _ =>
    Check.KeepsTo.andThen (Requirement.alive_keepsTo about) fun _ =>
    Check.KeepsTo.andThen (Requirement.notJoined_keepsTo about) fun _ =>
    .bind (Requirement.deferredLength_isAbout about) fun exchange about =>
    Check.KeepsTo.andThen (Requirement.offsetMatches_keepsTo about) fun _ =>
    Check.KeepsTo.andThen (Requirement.incomplete_keepsTo about) fun _ =>
    .pure ?_
  refine Attempt.KeepsTo.bind (fixLength_keepsTo about) fun _ =>
    .bind (.append about) fun _ =>
    .bind (keepsPledge_keepsTo about) fun keeps => ?_
  split
  · exact answerWritten_keepsTo about
  · exact .pure _

theorem delete_isConfined (service : Service) :
    (delete service).IsConfined := by
  intro id exchange about
  exact Check.KeepsTo.andThen (Requirement.present_keepsTo about) fun _ =>
    Check.KeepsTo.andThen (Requirement.alive_keepsTo about) fun _ =>
    .pure (Attempt.KeepsTo.bind (.serviceCall service about) fun _ => .pure _)

theorem info_isConfined (service : Service) : (info service).IsConfined := by
  intro id exchange about
  refine Check.KeepsTo.andThen (Requirement.present_keepsTo about) fun _ =>
    Check.KeepsTo.andThen (Requirement.alive_keepsTo about) fun _ => .pure ?_
  obtain rfl : exchange.fileId = id := about
  exact Attempt.KeepsTo.bind (.call rfl) fun _ => .bind (.call rfl) fun _ =>
    .bind (.call rfl) fun _ =>
      .bind (Requirement.partOf_keepsTo service _) fun _ =>
        .bind (Lifetime.current_keepsTo service _) fun _ => .pure _

end Handling

/-- Whether an intent is about the upload that the path of a request names. -/
def Intent.namesUpload : Intent → Bool
  | .writeFile | .deleteFile | .fileInfo => true
  | _ => false

theorem Handling.isConfined_of_namesUpload {intent : Intent}
    {handling : Handling} (names : intent.namesUpload = true)
    (handled : ofIntent? service intent = some handling) :
    handling.IsConfined := by
  cases intent with
  | writeFile =>
      cases handled
      exact write_isConfined service
  | deleteFile =>
      cases handled
      exact delete_isConfined service
  | fileInfo =>
      cases handled
      exact info_isConfined service
  | _ => cases names

namespace Protocol

variable {handling : Handling}

theorem tellBefore_keepsTo (event? : Option Event) (id : String) :
    (tellBefore event?).KeepsTo id := by
  cases event? with
  | none => exact .pure Verdict.proceed
  | some event => exact .tell trivial

theorem tellOutcome_keepsTo (exchange : Exchange) (outcome : Outcome)
    (id : String) : (tellOutcome exchange outcome).KeepsTo id := by
  have tells (event : Event) : (Attempt.tell event).KeepsTo id := .tell trivial
  cases outcome with
  | created new length complete =>
      refine .bind (tells _) ?_
      intro verdict
      split
      · exact .pure verdict
      · exact tells _
  | written other complete =>
      rw [tellOutcome]
      split
      · exact tells _
      · exact .pure Verdict.proceed
  | deleted other => exact tells _
  | settled => exact .pure Verdict.proceed

/-- What is required and what is done keeps to the upload. -/
theorem execute_keepsTo (confined : handling.IsConfined)
    (about : exchange.IsAbout id) : (execute handling exchange).KeepsTo id := by
  refine Attempt.Honours.bind (confined id exchange about) ?_
  intro result works
  cases result with
  | error rejection => exact Attempt.KeepsTo.pure _
  | ok checked =>
      refine Attempt.KeepsTo.bind (tellBefore_keepsTo _ id) ?_
      intro verdict
      split
      · exact .pure _
      · exact .bind (works checked rfl) fun done =>
          .bind (tellOutcome_keepsTo _ _ id) fun _ => .pure _

end Protocol

end ResumableUpload
