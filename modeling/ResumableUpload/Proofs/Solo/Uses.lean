import ResumableUpload.Exchange.Protocol
import ResumableUpload.Proofs.Solo.Scene
/-!
# What programs make use of

`Program.Uses` says which actions a program may do at all, whatever it is
answered.  The rules for it follow the way in which programs are put together,
and so they do not have to look at scenes.

Three kinds of actions matter.  To find out what is required of a request is an
inquiry: the store is asked and the clock is read, and no more.  An errand may
also change the store, or wait for fields after the body.  To do what is to be
done is work: errands and an append, but nothing to do with leases or with the
host.  `Handling.check_inquires` and `Handling.carryOut_works` say so of all
handlings.
-/

namespace ResumableUpload

/-! ## Actions -/

/-- Whether an action only asks the store something, or reads the clock. -/
def Action.isInquiry : Action → Bool
  | .call asked => !asked.isNotable
  | .clock => true
  | _ => false

/-- Whether an action calls the store, waits for fields or reads the clock. -/
def Action.isErrand : Action → Bool
  | .call _ | .trailers | .clock => true
  | _ => false

/-- Whether an action has to do with the store, the body and the time alone. -/
def Action.isWork : Action → Bool
  | .append _ _ => true
  | action => action.isErrand

namespace Action

theorem isErrand_of_isInquiry {action : Action}
    (inquires : action.isInquiry = true) : action.isErrand = true := by
  cases action with
  | call asked => rfl
  | clock => rfl
  | _ => cases inquires

theorem isWork_of_isErrand {action : Action}
    (errand : action.isErrand = true) : action.isWork = true := by
  cases action with
  | append id route => rfl
  | _ => exact errand

end Action

/-! ## Programs -/

namespace Program.Uses

variable {α : Type} {allowed : Action → Prop} {program : Program α}

/-- What is allowed by a rule is allowed by a more generous one. -/
theorem mono {other : Action → Prop} (uses : Uses allowed program)
    (generous : ∀ action, allowed action → other action) :
    Uses other program := by
  induction uses with
  | done value => exact .done value
  | act here _ hypothesis => exact .act (generous _ here) hypothesis

/-- What every allowed action keeps is kept to the end of a program. -/
theorem keeps (keeps : Scene → Prop) (uses : Uses allowed program)
    (step : ∀ scene action, allowed action → keeps scene →
      keeps (scene.perform action).scene)
    {scene : Scene} (before : keeps scene) :
    keeps (program.play scene).scene := by
  induction uses generalizing scene with
  | done value => exact before
  | @act action next here _ hypothesis =>
      have performed := step scene action here before
      rw [play]
      generalize scene.perform action = played at performed ⊢
      cases played with
      | finished reply after => exact hypothesis reply performed
      | waiting after => exact performed
      | collapsed after => exact performed

end Program.Uses

/-- A property of all actions that an attempt may do. -/
def Attempt.Uses {α : Type} (allowed : Action → Prop) (attempt : Attempt α) :
    Prop :=
  Program.Uses allowed attempt.run

/-- A property of all actions that a check may do. -/
def Check.Uses {α : Type} (allowed : Action → Prop) (check : Check α) : Prop :=
  Attempt.Uses allowed check.caught

namespace Attempt.Uses

variable {α β : Type} {allowed : Action → Prop}

theorem mono {attempt : Attempt α} {other : Action → Prop}
    (uses : attempt.Uses allowed)
    (generous : ∀ action, allowed action → other action) :
    attempt.Uses other :=
  Program.Uses.mono uses generous

theorem pure (value : α) : (pure value : Attempt α).Uses allowed :=
  Program.Uses.done (Except.ok value)

theorem fail (failure : Failure) :
    (Attempt.fail failure : Attempt α).Uses allowed :=
  Program.Uses.done (Except.error failure)

theorem bind {attempt : Attempt α} {rest : α → Attempt β}
    (first : attempt.Uses allowed)
    (second : ∀ value, (rest value).Uses allowed) :
    (attempt >>= rest).Uses allowed := by
  unfold Uses
  rw [ExceptT.run_bind]
  refine Program.Uses.bind first ?_
  intro result
  cases result with
  | ok value => exact second value
  | error failure => exact fail failure

/-- An action that cannot fail is what it does. -/
theorem lift {program : Program α} (uses : program.Uses allowed) :
    Attempt.Uses allowed (ExceptT.lift program) := by
  unfold Uses
  rw [ExceptT.run_lift, map_eq_pure_bind]
  exact uses.bind pure

theorem call {asked : Call} (permitted : allowed (.call asked)) :
    (Attempt.call asked).Uses allowed :=
  .act permitted .done

theorem append {id : String} {route : Route}
    (permitted : allowed (.append id route)) :
    (Attempt.append id route).Uses allowed :=
  .act permitted .done

theorem now (permitted : allowed .clock) : Attempt.now.Uses allowed :=
  lift (.act permitted .done)

theorem trailers (permitted : allowed .trailers) :
    Attempt.trailers.Uses allowed :=
  lift (.act permitted .done)

theorem tell {event : Event} (permitted : allowed (.tell event)) :
    (Attempt.tell event).Uses allowed :=
  lift (.act permitted .done)

/-- To look whether means may be used takes no action. -/
theorem require (service : Service) (means : Means) :
    (service.require means).Uses allowed := by
  rw [Service.require]
  split
  · exact pure ()
  · exact fail _

theorem serviceCall (service : Service) {asked : Call}
    (permitted : allowed (.call asked)) :
    (service.call asked).Uses allowed := by
  refine bind ?_ fun _ => call permitted
  rw [Service.permit]
  split
  · exact require service _
  · exact pure ()

end Attempt.Uses

namespace Check.Uses

variable {α β : Type} {allowed : Action → Prop}

theorem pure (value : α) : (pure value : Check α).Uses allowed :=
  Attempt.Uses.pure (Except.ok value)

theorem reject (rejection : Rejection) :
    (Check.reject rejection : Check α).Uses allowed :=
  Attempt.Uses.pure (Except.error rejection)

theorem ofExcept (result : Except Rejection α) :
    (Check.ofExcept result).Uses allowed :=
  Attempt.Uses.pure result

theorem attempt {attempt : Attempt α} (uses : attempt.Uses allowed) :
    (Check.attempt attempt).Uses allowed := by
  unfold Uses
  rw [Check.caught, Check.attempt, ExceptT.run_lift, map_eq_pure_bind]
  exact uses.bind pure

theorem call {asked : Call} (permitted : allowed (.call asked)) :
    (Check.call asked).Uses allowed :=
  attempt (.call permitted)

theorem bind {check : Check α} {rest : α → Check β}
    (first : check.Uses allowed)
    (second : ∀ value, (rest value).Uses allowed) :
    (check >>= rest).Uses allowed := by
  unfold Uses
  rw [Check.caught, ExceptT.run_bind]
  refine Attempt.Uses.bind first ?_
  intro result
  cases result with
  | ok value => exact second value
  | error rejection => exact reject rejection

end Check.Uses

/-! ## Inquiries -/

/-- An attempt that only asks the store, and reads the clock. -/
abbrev Attempt.Inquires {α : Type} (attempt : Attempt α) : Prop :=
  attempt.Uses fun action => action.isInquiry = true

/-- A check that only asks the store, and reads the clock. -/
abbrev Check.Inquires {α : Type} (check : Check α) : Prop :=
  check.Uses fun action => action.isInquiry = true

namespace Requirement

theorem checksum_inquires (service : Service) (exchange : Exchange) :
    (checksum service exchange).Inquires := by
  rw [checksum]
  split
  · exact .pure exchange
  · simp only
    cases exchange.headers.first? HeaderName.uploadChecksum with
    | none =>
        cases announcesChecksum exchange.headers with
        | true =>
            simp only
            split
            · exact .reject _
            · exact .pure _
        | false => exact .pure exchange
    | some value =>
        cases announcesChecksum exchange.headers with
        | true => exact .reject _
        | false =>
            simp only
            split
            · exact .reject _
            · refine .bind (.attempt (.serviceCall service rfl)) ?_
              intro supported
              split
              · exact .pure _
              · exact .reject _

theorem present_inquires (exchange : Exchange) :
    (present exchange).Inquires := by
  refine .bind (.call rfl) ?_
  intro here
  split
  · exact .pure ()
  · exact .reject _

theorem alive_inquires (service : Service) (exchange : Exchange) :
    (alive service exchange).Inquires := by
  rw [alive]
  split
  · refine .bind (.attempt (.serviceCall service rfl)) ?_
    intro expiry
    split
    · refine .bind (.attempt (.now rfl)) ?_
      intro now
      split
      · exact .reject _
      · exact .pure ()
    · exact .pure ()
  · exact .pure ()

theorem partOf_inquires (service : Service) (id : String) :
    (partOf service id).Inquires := by
  rw [partOf]
  split
  · exact .serviceCall service rfl
  · exact .pure _

theorem notJoined_inquires (service : Service) (exchange : Exchange) :
    (notJoined service exchange).Inquires := by
  refine .bind (.attempt (partOf_inquires service _)) ?_
  intro part
  split
  · exact .reject _
  · exact .pure ()

theorem deferredLength_inquires (service : Service) (exchange : Exchange) :
    (deferredLength service exchange).Inquires := by
  rw [deferredLength]
  split
  · exact .pure exchange
  · refine .bind (.ofExcept _) ?_
    intro length
    split
    · exact .reject _
    · refine .bind (.call rfl) ?_
      intro known
      split
      · exact .reject _
      · refine .bind (.call rfl) ?_
        intro offset
        split
        · exact .reject _
        · exact .pure _

theorem offsetMatches_inquires (exchange : Exchange) :
    (offsetMatches exchange).Inquires := by
  refine .bind (.call rfl) ?_
  intro stored
  simp only
  split
  · exact .reject _
  · exact .pure ()

theorem incomplete_inquires (exchange : Exchange) :
    (incomplete exchange).Inquires := by
  refine .bind (.call rfl) ?_
  intro length
  split
  · exact .pure ()
  · refine .bind (.call rfl) ?_
    intro offset
    split
    · exact .reject _
    · exact .pure ()

theorem piecesExist_inquires (ids : List String) :
    (piecesExist ids).Inquires := by
  induction ids with
  | nil => exact .pure ()
  | cons id rest hypothesis =>
      refine .bind (.call rfl) ?_
      intro here
      split
      · exact hypothesis
      · exact .reject _

theorem piecesArePieces_inquires (service : Service) (ids : List String) :
    (piecesArePieces service ids).Inquires := by
  induction ids with
  | nil => exact .pure ()
  | cons id rest hypothesis =>
      refine .bind (.attempt (partOf_inquires service id)) ?_
      intro part
      split
      · exact hypothesis
      · exact .reject _

theorem piecesComplete_inquires (total : Nat) (ids : List String) :
    (piecesComplete total ids).Inquires := by
  induction ids generalizing total with
  | nil => exact .pure total
  | cons id rest hypothesis =>
      refine .bind (.call rfl) fun length => .bind (.call rfl) fun offset => ?_
      split
      · exact hypothesis _
      · exact .reject _

theorem joinable_inquires (service : Service) (ids : List String) :
    (joinable service ids).Inquires := by
  refine .bind (piecesExist_inquires ids) fun _ =>
    .bind (piecesArePieces_inquires service ids) fun _ =>
      .bind (piecesComplete_inquires 0 ids) fun total => ?_
  split
  · exact .reject _
  · exact .pure ()

theorem partIsPossible_inquires (service : Service) (exchange : Exchange)
    (part : Part) : (partIsPossible service exchange part).Inquires := by
  cases part with
  | joined ids =>
      refine .bind (joinable_inquires service ids) ?_
      intro _
      split
      · exact .reject _
      · exact .pure ()
  | piece | whole => exact .pure ()

theorem part_inquires (service : Service) (exchange : Exchange) :
    (part service exchange).Inquires := by
  rw [part]
  split
  · exact .reject _
  · exact .bind (partIsPossible_inquires service exchange _) fun _ => .pure _

end Requirement

theorem Lifetime.current_inquires (service : Service) (id : String) :
    (current service id).Inquires := by
  rw [current]
  split
  · exact .pure none
  · exact .serviceCall service rfl

namespace Handling

variable {service : Service} {intent : Intent} {handling : Handling}

/-- What is required of a request is found out by inquiries. -/
theorem check_inquires (handled : ofIntent? service intent = some handling)
    (exchange : Exchange) : (handling.check exchange).Inquires := by
  cases intent with
  | createFile =>
      cases handled
      exact .ofExcept _
  | concatenate =>
      cases handled
      exact .bind (Requirement.part_inquires service exchange) fun _ =>
        .ofExcept _
  | writeFile =>
      cases handled
      exact .bind (.ofExcept _) fun _ => .bind (.ofExcept _) fun exchange =>
        .bind (Requirement.checksum_inquires service exchange) fun exchange =>
          .bind (Requirement.present_inquires exchange) fun _ =>
            .bind (Requirement.alive_inquires service exchange) fun _ =>
              .bind (Requirement.notJoined_inquires service exchange) fun _ =>
                .bind (Requirement.deferredLength_inquires service exchange)
                  fun exchange =>
                    .bind (Requirement.offsetMatches_inquires exchange)
                      fun _ =>
                        .bind (Requirement.incomplete_inquires exchange)
                          fun _ => .pure exchange
  | deleteFile =>
      cases handled
      exact .bind (Requirement.present_inquires exchange) fun _ =>
        .bind (Requirement.alive_inquires service exchange) fun _ =>
          .pure exchange
  | fileInfo =>
      cases handled
      exact .bind (Requirement.present_inquires exchange) fun _ =>
        .bind (Requirement.alive_inquires service exchange) fun _ =>
          .pure exchange
  | options =>
      cases handled
      exact .pure exchange
  | notApplicable => cases handled

theorem info_carryOut_inquires (service : Service) (exchange : Exchange) :
    ((info service).carryOut exchange).Inquires :=
  .bind (.call rfl) fun _ => .bind (.call rfl) fun _ =>
    .bind (.call rfl) fun _ =>
      .bind (Requirement.partOf_inquires service _) fun _ =>
        .bind (Lifetime.current_inquires service _) fun _ => .pure _

theorem options_carryOut_inquires (service : Service) (exchange : Exchange) :
    ((options service).carryOut exchange).Inquires := by
  refine .bind ?_ fun _ => .pure _
  rw [advertisedAlgorithms]
  split
  · exact .bind (.serviceCall service rfl) fun _ => .pure _
  · exact .pure none

end Handling

/-! ## Errands -/

/-- An attempt that calls the store, waits for fields and reads the clock. -/
abbrev Attempt.OnlyErrands {α : Type} (attempt : Attempt α) : Prop :=
  attempt.Uses fun action => action.isErrand = true

theorem Attempt.Inquires.onlyErrands {α : Type} {attempt : Attempt α}
    (inquires : attempt.Inquires) : attempt.OnlyErrands :=
  inquires.mono fun _ => Action.isErrand_of_isInquiry

namespace Lifetime

theorem renew_errands (service : Service) (id : String) :
    (renew service id).OnlyErrands := by
  rw [renew]
  split
  · exact .pure none
  · refine .bind (.now rfl) ?_
    intro now
    split
    · exact .fail _
    · exact .bind (.serviceCall service rfl) fun _ => .pure _

theorem afterWrite_errands (service : Service) (id : String) :
    (afterWrite service id).OnlyErrands := by
  rw [afterWrite.eq_def]
  split
  · exact renew_errands service id
  · exact (current_inquires service id).onlyErrands

end Lifetime

namespace Handling

theorem fixLength_errands (service : Service) (exchange : Exchange) :
    (fixLength service exchange).OnlyErrands := by
  rw [fixLength]
  split
  · exact .serviceCall service rfl
  · exact .pure ()

theorem pledged_errands (service : Service) (pledge : Pledge) :
    (pledged service pledge).OnlyErrands := by
  cases pledge with
  | none => exact .pure none
  | given checksum => exact .pure (some checksum)
  | announced =>
      rw [pledged, map_eq_pure_bind]
      refine .bind (.bind (.trailers rfl) fun trailers => ?_) fun _ => .pure _
      simp only
      split
      · exact .pure _
      · exact .bind (.serviceCall service rfl) fun _ => .pure _

theorem keepsPledge_errands (service : Service) (exchange : Exchange) :
    (keepsPledge service exchange).OnlyErrands := by
  refine .bind (pledged_errands service _) ?_
  intro checksum
  split
  · exact .pure true
  · exact .serviceCall service rfl

theorem answerWritten_errands (service : Service) (exchange : Exchange) :
    (answerWritten service exchange).OnlyErrands :=
  .bind (Lifetime.afterWrite_errands service _) fun _ =>
    .bind (.call rfl) fun _ => .bind (.call rfl) fun _ => .pure _

/-- What is done once the body has been appended. -/
theorem afterAppend_errands (service : Service) (exchange : Exchange) :
    Attempt.OnlyErrands (do
      if ← keepsPledge service exchange then answerWritten service exchange
      else return (exchange.reject .checksumMismatch, .settled)) := by
  refine .bind (keepsPledge_errands service exchange) fun keeps => ?_
  split
  · exact answerWritten_errands service exchange
  · exact .pure _

theorem createPiece_errands (service : Service) (exchange : Exchange) :
    (createPiece service exchange).OnlyErrands :=
  .bind (.serviceCall service rfl) fun _ =>
    .bind (Lifetime.renew_errands service _) fun _ => .pure _

end Handling

/-! ## Work -/

/-- An attempt that has to do with the store, the body and the time alone. -/
abbrev Attempt.OnlyWorks {α : Type} (attempt : Attempt α) : Prop :=
  attempt.Uses fun action => action.isWork = true

theorem Attempt.OnlyErrands.onlyWorks {α : Type} {attempt : Attempt α}
    (errands : attempt.OnlyErrands) : attempt.OnlyWorks :=
  errands.mono fun _ => Action.isWork_of_isErrand

namespace Handling

variable {service : Service} {intent : Intent} {handling : Handling}

theorem write_carryOut_works (service : Service) (exchange : Exchange) :
    ((write service).carryOut exchange).OnlyWorks :=
  .bind (fixLength_errands service _).onlyWorks fun _ =>
    .bind (.append rfl) fun _ => (afterAppend_errands service _).onlyWorks

/-- No handling has anything to do with leases or the host in its work. -/
theorem carryOut_works (handled : ofIntent? service intent = some handling)
    (exchange : Exchange) : (handling.carryOut exchange).OnlyWorks := by
  cases intent with
  | createFile =>
      cases handled
      exact .bind (.serviceCall service rfl) fun _ =>
        .bind (Lifetime.renew_errands service _).onlyWorks fun _ => .pure _
  | concatenate =>
      cases handled
      rw [concatenate]
      simp only
      split
      · exact .bind (.serviceCall service rfl) fun _ =>
          .bind (.call rfl) fun _ => .pure _
      · exact (createPiece_errands service exchange).onlyWorks
      · exact (createPiece_errands service exchange).onlyWorks
  | writeFile =>
      cases handled
      exact write_carryOut_works service exchange
  | deleteFile =>
      cases handled
      exact .bind (.serviceCall service rfl) fun _ => .pure _
  | fileInfo =>
      cases handled
      exact (info_carryOut_inquires service exchange).onlyErrands.onlyWorks
  | options =>
      cases handled
      exact (options_carryOut_inquires service exchange).onlyErrands.onlyWorks
  | notApplicable => cases handled

end Handling

end ResumableUpload
