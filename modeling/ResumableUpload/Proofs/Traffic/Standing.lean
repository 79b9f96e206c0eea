import ResumableUpload.Proofs.Solo.Writing
import ResumableUpload.Proofs.Traffic.Discipline
/-!
# Where a request stands

Among others a request is in one of four positions: it has not asked for a
lease, it has been refused one, it holds one, or it has parted with it.  Who
holds a lease on an upload goes through stages with it: the upload is found, its
end is found where the request wants to append, the body is appended, and the
bytes are verified.

The law of a request are rules for its positions and stages.  They say that
content, length and presence of an upload are changed only by the holder of a
lease on it, that an append begins only where the end has been found, and that
only bytes which the request itself has appended are verified.
-/

namespace ResumableUpload

/-! ## Actions -/

/-- Whether a call may alter content, length or presence of an upload. -/
def Call.alters (id : String) : Call → Bool
  | .delete other | .setLength other _ | .verify other _ _ => other == id
  | .removeExpired => true
  | _ => false

/-- Whether an action may alter content, length or presence of an upload. -/
def Action.alters (id : String) : Action → Bool
  | .append other _ => other == id
  | .call asked | .goOn (.calling _ asked) => asked.alters id
  | .goOn (.beginning turn _) | .goOn (.appending turn _) => turn.id == id
  | _ => false

/-- Whether an action takes a lease or gives one back. -/
def Action.isLeasing : Action → Bool
  | .acquire _ | .release _ => true
  | _ => false

/--
Whether a call leaves the content, the length and the presence of every upload
that is there as they are.
-/
def Call.isGentle : Call → Bool
  | .delete _ | .setLength _ _ | .verify _ _ _ | .removeExpired => false
  | _ => true

/-- Whether an action needs no lease, and is not about leases. -/
def Action.isGentle : Action → Bool
  | .call asked => asked.isGentle
  | .trailers | .clock | .tell _ => true
  | _ => false

theorem Action.isGentle_of_isInquiry {action : Action}
    (inquires : action.isInquiry = true) : action.isGentle = true := by
  cases action with
  | call asked => cases asked <;> first | rfl | cases inquires
  | clock => rfl
  | _ => cases inquires

theorem Action.isLeasing_of_isGentle {action : Action}
    (gentle : action.isGentle = true) : action.isLeasing = false := by
  cases action with
  | acquire id | release lease => cases gentle
  | _ => rfl

theorem Action.isFresh_of_isGentle {action : Action}
    (gentle : action.isGentle = true) : action.isFresh = true := by
  cases action with
  | goOn begun => cases gentle
  | _ => rfl

/-! ## Positions -/

/-- How far the holder of a lease has come with the upload. -/
inductive Stage where
  /-- The upload may not be there. -/
  | unsure
  | found
  /-- The upload ends where the request wants to append. -/
  | matched
  /-- The body is appended, and is not verified. -/
  | begun
  | settled
  deriving DecidableEq, Repr

/-- Whether gentle actions may lead from one stage to another. -/
def Stage.leadsTo : Stage → Stage → Bool
  | .unsure, .unsure | .unsure, .found | .unsure, .matched
  | .found, .found | .found, .matched | .matched, .matched
  | .begun, .begun | .settled, .settled => true
  | _, _ => false

/-- What an append leads to: what has failed is not verified. -/
def Stage.afterAppend : Except Failure Nat → Stage
  | .ok _ => .begun
  | .error _ => .settled

/-- Where a request stands with leases. -/
inductive Standing where
  /-- It has not asked for a lease; it may do so once the host has agreed. -/
  | before (authorized : Bool)
  | refused
  | holding (id : String) (lease : Lease) (stage : Stage)
  | parted
  deriving DecidableEq, Repr

namespace Standing

/-- It has not asked for a lease. -/
def IsBefore (standing : Standing) : Prop :=
  ∃ authorized, standing = .before authorized

/-- It holds a lease on an upload. -/
def Holds (id : String) (lease : Lease) (standing : Standing) : Prop :=
  ∃ stage, standing = .holding id lease stage

/-- It holds a lease, and gentle actions may have led there from a stage. -/
def HasReached (id : String) (lease : Lease) (low : Stage)
    (standing : Standing) : Prop :=
  ∃ stage, standing = .holding id lease stage ∧ low.leadsTo stage = true

/--
Things may end here: no lease is held, and where one was refused, that is what
it has come to.
-/
def EndsIn (refusal : Prop) : Standing → Prop
  | .holding _ _ _ => False
  | .refused => refusal
  | .before _ | .parted => True

variable {id : String} {lease : Lease} {low : Stage} {standing : Standing}

theorem HasReached.holds (reached : standing.HasReached id lease low) :
    standing.Holds id lease := by
  rcases reached with ⟨stage, rfl, -⟩
  exact ⟨stage, rfl⟩

theorem HasReached.of_eq : (holding id lease low).HasReached id lease low :=
  ⟨low, rfl, by cases low <;> rfl⟩

theorem Holds.exists_reached (holds : standing.Holds id lease) :
    ∃ low, standing.HasReached id lease low := by
  rcases holds with ⟨stage, rfl⟩
  exact ⟨stage, .of_eq⟩

theorem EndsIn.mono {refusal other : Prop} (ends : standing.EndsIn refusal)
    (weaker : refusal → other) : standing.EndsIn other := by
  cases standing with
  | refused => exact weaker ends
  | _ => exact ends

theorem IsBefore.endsIn (before : standing.IsBefore) (refusal : Prop) :
    standing.EndsIn refusal := by
  rcases before with ⟨authorized, rfl⟩
  trivial

end Standing

/-- The place where a body is to be appended, as it is given. -/
def Headers.offsetGiven? (headers : Headers) : Option Nat :=
  ((headers.text? HeaderName.uploadOffset).bind fun text =>
    Decimal.signed? (Blank.trimmed text.toList)).bind fun value =>
      if value < 0 then none else some value.toNat

/-- What a request may do with an upload on which it holds a lease. -/
structure Law where
  /-- Whether it creates an upload, and then writes to it. -/
  creates : Bool
  /-- Where it may append. -/
  offset : Option Nat
  /-- Whether it may verify what it has appended. -/
  pledged : Bool
  /-- Whether it may delete the upload. -/
  deletes : Bool
  deriving DecidableEq, Repr

namespace Law

/-- What a request may do follows from what it asks for first. -/
def ofRequest (service : Service) (request : Request) : Law :=
  let first? := (Protocol.intentsOf service request).head?
  let creates := first?.any Intent.creates
  { creates := creates
    offset := if creates then some 0 else request.headers.offsetGiven?
    pledged := service.terms.supports .checksum
      && request.headers.promiseChecksum
    deletes := first? == some .deleteFile }

/-- The stage of the holder of a lease on an upload after an upshot. -/
def stage? (law : Law) (id : String) (stage : Stage) : Upshot → Option Stage
  | .called (.has other) (.ok true) =>
      some (if other = id ∧ stage = .unsure then .found else stage)
  | .called (.offset other) (.ok offset) =>
      some (if other = id ∧ stage = .found ∧ law.offset = some offset then
        .matched else stage)
  | .called (.setLength other _) _ =>
      if other = id ∧ stage = .matched then some .matched else none
  | .appended other reply =>
      if other = id ∧ stage = .matched then some (.afterAppend reply) else none
  | .called (.verify other _ _) _ =>
      if other = id ∧ stage = .begun ∧ law.pledged = true then some .settled
      else none
  | .called (.delete other) _ =>
      if other = id ∧ law.deletes = true then some .settled else none
  | .called .removeExpired _ | .acquired _ _ | .released _ => none
  | .called _ _ | .heard _ | .looked _ | .told _ _ => some stage

/-- Where a request stands after an upshot. -/
def rules (law : Law) : Rules Standing
  | .before _, .told (.authorize _ _ _ _) _ => some (.before true)
  | .before true, .acquired id (.ok (some lease)) =>
      some (.holding id lease .unsure)
  | .before true, .acquired _ (.ok none) => some .refused
  | .before true, .acquired _ (.error _) => some .parted
  | .before _, .called asked _ =>
      if asked.isGentle = true then some (.before false) else none
  | .before _, .told _ _ | .before _, .heard _ | .before _, .looked _ =>
      some (.before false)
  | .holding _ lease _, .released other =>
      if other = lease then some .parted else none
  | .holding id lease stage, upshot =>
      (law.stage? id stage upshot).map (.holding id lease)
  | _, _ => none

/--
An answer that tells of a conflict.  If the request has created an upload and
was refused a lease on that, the conflict is the answer to the write, which the
answer to the creation adopts.
-/
def IsConflict (law : Law) (response : Response) : Prop :=
  if law.creates = true then
    ∃ first refusal : Response, refusal.status = 409 ∧
      response = Protocol.adopt first refusal
  else response.status = 409

/--
How a request may end: with no lease in its hands, and with a conflict if it was
refused one.
-/
def ends (law : Law) (standing : Standing) (result : Except Failure Answer) :
    Prop :=
  standing.EndsIn
    (∃ response, result = .ok (.respond response) ∧ law.IsConflict response)

variable {law : Law} {id other : String} {lease : Lease} {stage next : Stage}

/-- A length is fixed where the body is to be appended next. -/
theorem stage?_setLength {length : Nat} {reply : Except Failure Unit}
    (leads : law.stage? id stage (.called (.setLength other length) reply)
      = some next) : other = id ∧ stage = .matched ∧ next = .matched := by
  simp only [stage?] at leads
  split at leads
  · rename_i here
    cases leads
    exact ⟨here.1, here.2, rfl⟩
  · cases leads

/-- A body is appended where the end of the upload has been found. -/
theorem stage?_appended {reply : Except Failure Nat}
    (leads : law.stage? id stage (.appended other reply) = some next) :
    other = id ∧ stage = .matched ∧ next = .afterAppend reply := by
  simp only [stage?] at leads
  split at leads
  · rename_i here
    cases leads
    exact ⟨here.1, here.2, rfl⟩
  · cases leads

/-- Bytes are verified that have been appended under a pledge. -/
theorem stage?_verify {algorithm : String} {hash : Bytes}
    {reply : Except Failure Bool}
    (leads : law.stage? id stage (.called (.verify other algorithm hash) reply)
      = some next) :
    other = id ∧ stage = .begun ∧ law.pledged = true ∧ next = .settled := by
  simp only [stage?] at leads
  split at leads
  · rename_i here
    cases leads
    exact ⟨here.1, here.2.1, here.2.2, rfl⟩
  · cases leads

theorem stage?_delete {reply : Except Failure Unit}
    (leads : law.stage? id stage (.called (.delete other) reply)
      = some next) : other = id ∧ law.deletes = true ∧ next = .settled := by
  simp only [stage?] at leads
  split at leads
  · rename_i here
    cases leads
    exact ⟨here.1, here.2, rfl⟩
  · cases leads

/-- Nothing but a lease leads on for who has not asked for one. -/
theorem isBefore_of_rules {action : Action} (other : action.isLeasing = false)
    {authorized : Bool} {reply : action.Reply} {after : Standing}
    (follows : law.rules (.before authorized) (action.upshot reply)
      = some after) : after.IsBefore := by
  have told {event : Event} {verdict : Verdict}
      (follows : law.rules (.before authorized) (.told event verdict)
        = some after) : after.IsBefore := by
    cases event <;> cases authorized <;> cases follows
    all_goals exact ⟨_, rfl⟩
  have called (asked : Call) {reply : Except Failure asked.Reply}
      (follows : law.rules (.before authorized) (.called asked reply)
        = some after) : after.IsBefore := by
    cases authorized <;> simp only [rules] at follows <;> split at follows
    all_goals cases follows
    all_goals exact ⟨_, rfl⟩
  cases action with
  | call asked => exact called asked follows
  | tell event => exact told follows
  | trailers | clock =>
      cases authorized <;> cases follows
      all_goals exact ⟨_, rfl⟩
  | append id route => cases authorized <;> cases follows
  | goOn begun =>
      cases begun with
      | calling turn asked => exact called asked follows
      | joining turn content rest ids metadata =>
          exact called (.createJoined ids metadata) follows
      | reading turn => exact told follows
      | beginning turn route | appending turn appending =>
          cases authorized <;> cases follows
  | acquire id | release lease => cases other

theorem rules_holding {action : Action} (other : action.isLeasing = false)
    (reply : action.Reply) :
    law.rules (.holding id lease stage) (action.upshot reply)
      = (law.stage? id stage (action.upshot reply)).map
          (.holding id lease) := by
  cases action with
  | goOn begun => cases begun <;> rfl
  | acquire id | release lease => cases other
  | _ => rfl

/--
Gentle actions are no matter of leases, so long as none has been asked for.
-/
theorem rules_before {action : Action} (gentle : action.isGentle = true)
    (authorized : Bool) (reply : action.Reply) :
    ∃ authorized',
      law.rules (.before authorized) (action.upshot reply)
        = some (.before authorized') := by
  cases action with
  | call asked =>
      refine ⟨false, ?_⟩
      have permitted : asked.isGentle = true := gentle
      cases authorized <;> exact if_pos permitted
  | tell event =>
      cases event with
      | authorize intent method id headers =>
          exact ⟨true, by cases authorized <;> rfl⟩
      | _ => exact ⟨false, by cases authorized <;> rfl⟩
  | trailers | clock => exact ⟨false, by cases authorized <;> rfl⟩
  | _ => cases gentle

/-- Gentle actions may bring the holder of a lease forward. -/
theorem stage?_of_gentle {action : Action} (gentle : action.isGentle = true)
    {low : Stage} (leads : low.leadsTo stage = true)
    (reply : action.Reply) :
    ∃ next, law.stage? id stage (action.upshot reply) = some next ∧
      low.leadsTo next = true := by
  cases action with
  | call asked =>
      have forward (next : Stage)
          (further : stage.leadsTo next = true) : low.leadsTo next = true := by
        cases low <;> cases stage <;> cases leads
        all_goals cases next <;> first | rfl | cases further
      have still : stage.leadsTo stage = true := by cases stage <;> rfl
      cases asked with
      | has other =>
          rcases reply with failure | (_ | _)
          · exact ⟨stage, rfl, leads⟩
          · exact ⟨stage, rfl, leads⟩
          · refine ⟨_, rfl, forward _ ?_⟩
            split
            · rename_i here
              rw [here.2]
              rfl
            · exact still
      | offset other =>
          rcases reply with failure | offset
          · exact ⟨stage, rfl, leads⟩
          · refine ⟨_, rfl, forward _ ?_⟩
            split
            · rename_i here
              rw [here.2.1]
              rfl
            · exact still
      | delete | setLength | verify | removeExpired => cases gentle
      | _ => exact ⟨stage, rfl, leads⟩
  | tell event => exact ⟨stage, rfl, leads⟩
  | trailers | clock => exact ⟨stage, rfl, leads⟩
  | _ => cases gentle

end Law

end ResumableUpload
