import ResumableUpload.Proofs.Solo.Conclusion
/-!
# What the requirements note

Whoever looks at the requirements writes down what the header fields declare
and which checksum the body has to have, and nothing else: the answer stays as
it is until something is rejected or done.  And no requirement is about the
version of the protocol, which has been settled before.
-/

namespace ResumableUpload

variable {service : Service} {exchange checked : Exchange}

/-- An attempt gives what its last part gives after what its first gives. -/
theorem Attempt.Gives.andThen {α β : Type} {first : α → Prop} {holds : β → Prop}
    {attempt : Attempt α} {rest : α → Attempt β} (before : attempt.Gives first)
    (gives : ∀ value, first value → (rest value).Gives holds) :
    (attempt >>= rest).Gives holds := by
  intro scene value after ends
  rcases Attempt.bind_ends ends with
      ⟨failure, contrary, -⟩ | ⟨given, middle, here, ends, -⟩
  · cases contrary
  · exact gives given (before scene given middle here) middle value after ends

/-- Nothing but what was found out by checking is different. -/
def Exchange.Notes (exchange checked : Exchange) : Prop :=
  checked = { exchange with
    declared := checked.declared, pledge := checked.pledge }

namespace Exchange.Notes

theorem refl (exchange : Exchange) : exchange.Notes exchange :=
  rfl

theorem trans {middle : Exchange} (first : exchange.Notes middle)
    (second : middle.Notes checked) : exchange.Notes checked := by
  rw [Notes, second, first]

theorem response (notes : exchange.Notes checked) :
    checked.response = exchange.response := by
  rw [notes]

theorem id (notes : exchange.Notes checked) : checked.id = exchange.id := by
  rw [notes]

theorem fileId (notes : exchange.Notes checked) :
    checked.fileId = exchange.fileId :=
  congrArg (·.getD "") notes.id

end Exchange.Notes

/-- A rejection that is not about the version. -/
def Rejection.IsOrdinary : Rejection → Prop
  | .version _ => False
  | _ => True

/-- A check that rejects for ordinary reasons, and accepts what is good. -/
def Check.Admits {α : Type} (good : α → Prop) (check : Check α) : Prop :=
  check.caught.Gives fun
    | .ok value => good value
    | .error rejection => rejection.IsOrdinary

namespace Check.Admits

variable {α β : Type} {good : α → Prop}

theorem pure {value : α} (here : good value) :
    (pure value : Check α).Admits good :=
  Attempt.Gives.pure here

theorem reject {rejection : Rejection} (ordinary : rejection.IsOrdinary) :
    (Check.reject rejection : Check α).Admits good :=
  Attempt.Gives.pure ordinary

/-- An attempt rejects nothing. -/
theorem attempt (attempt : Attempt α) :
    (Check.attempt attempt).Admits fun _ => True := by
  intro scene result after ends
  obtain ⟨first, middle, -, rest⟩ := Played.andThen_ends
    ((Check.play_attempt attempt scene).symm.trans ends)
  cases first with
  | error failure => cases rest
  | ok value =>
      cases rest
      trivial

theorem call (asked : Call) : (Check.call asked).Admits fun _ => True :=
  attempt (Attempt.call asked)

theorem bind {first : α → Prop} {good : β → Prop} {check : Check α}
    {rest : α → Check β} (before : check.Admits first)
    (later : ∀ value, first value → (rest value).Admits good) :
    (check >>= rest).Admits good := by
  unfold Admits
  rw [Check.caught, ExceptT.run_bind]
  refine Attempt.Gives.andThen before ?_
  rintro (rejection | value) here
  · exact reject here
  · exact later value here

/-- What follows a check that finds nothing out. -/
theorem andThen {good : β → Prop} {check : Check α} {rest : α → Check β}
    (before : check.Admits fun _ => True)
    (later : ∀ value, (rest value).Admits good) :
    (check >>= rest).Admits good :=
  bind before fun value _ => later value

end Check.Admits

/-- A plain requirement that rejects for ordinary reasons. -/
def Requirement.Admits {α : Type} (good : α → Prop) :
    Except Rejection α → Prop
  | .ok value => good value
  | .error rejection => rejection.IsOrdinary

theorem Requirement.Admits.bind {α β : Type} {first : α → Prop}
    {good : β → Prop} {result : Except Rejection α}
    {rest : α → Except Rejection β} (before : Admits first result)
    (later : ∀ value, first value → Admits good (rest value)) :
    Admits good (result >>= rest) := by
  cases result with
  | ok value => exact later value before
  | error rejection => exact before

theorem Requirement.Admits.mono {α : Type} {good better : α → Prop}
    {result : Except Rejection α} (admits : Admits good result)
    (weaker : ∀ value, good value → better value) : Admits better result := by
  cases result with
  | ok value => exact weaker value admits
  | error rejection => exact admits

theorem Check.Admits.ofExcept {α : Type} {good : α → Prop}
    {result : Except Rejection α} (admits : Requirement.Admits good result) :
    (Check.ofExcept result).Admits good := by
  refine Attempt.Gives.pure ?_
  cases result <;> exact admits

namespace Requirement

theorem lengthOf_admits (text? : Option String) (max? : Option Nat) :
    Admits (fun _ => True) (lengthOf text? max?) := by
  rw [lengthOf.eq_def]
  split
  · exact trivial
  · split
    · exact trivial
    · split
      · exact trivial
      · trivial

theorem newLength_admits (service : Service) (exchange : Exchange) :
    Admits exchange.Notes (newLength service exchange) := by
  rw [newLength]
  split
  · exact .refl exchange
  · simp only
    split
    · exact trivial
    · split <;> exact trivial
    · split
      · exact trivial
      · split
        · rfl
        · exact trivial
    · exact (lengthOf_admits _ _).bind fun _ _ => rfl

theorem metadata_admits (service : Service) (exchange : Exchange) :
    Admits exchange.Notes (metadata service exchange) := by
  rw [metadata]
  split
  · exact .refl exchange
  · simp only
    split
    · rfl
    · exact trivial

theorem declared_admits (service : Service) (exchange : Exchange) :
    Admits exchange.Notes
      (newLength service exchange >>= metadata service) := by
  refine (newLength_admits service exchange).bind fun middle first => ?_
  exact (metadata_admits service middle).mono fun _ second =>
    first.trans second

theorem contentType_admits (exchange : Exchange) :
    Admits (fun _ => True) (contentType exchange) := by
  rw [contentType]
  split
  · trivial
  · exact trivial

theorem offset_admits (exchange : Exchange) :
    Admits exchange.Notes (offset exchange) := by
  rw [offset.eq_def]
  split
  · exact trivial
  · split
    · exact trivial
    · split
      · exact trivial
      · rfl

theorem checksum_admits (service : Service) (exchange : Exchange) :
    (checksum service exchange).Admits exchange.Notes := by
  rw [checksum]
  split
  · exact .pure (.refl exchange)
  · simp only
    split
    · exact .reject trivial
    · split
      · exact .reject trivial
      · exact .pure rfl
    · exact .pure (.refl exchange)
    · split
      · exact .reject trivial
      · refine .andThen (.attempt _) fun supported => ?_
        split
        · exact .pure rfl
        · exact .reject trivial

theorem present_admits (exchange : Exchange) :
    (present exchange).Admits fun _ => True := by
  refine .andThen (.call _) fun here => ?_
  split
  · exact .pure trivial
  · exact .reject trivial

theorem alive_admits (service : Service) (exchange : Exchange) :
    (alive service exchange).Admits fun _ => True := by
  rw [alive]
  split
  · refine .andThen (.attempt _) fun expiry => ?_
    split
    · refine .andThen (.attempt _) fun now => ?_
      split
      · exact .reject trivial
      · exact .pure trivial
    · exact .pure trivial
  · exact .pure trivial

theorem notJoined_admits (service : Service) (exchange : Exchange) :
    (notJoined service exchange).Admits fun _ => True := by
  refine .andThen (.attempt _) fun part => ?_
  split
  · exact .reject trivial
  · exact .pure trivial

theorem deferredLength_admits (service : Service) (exchange : Exchange) :
    (deferredLength service exchange).Admits exchange.Notes := by
  rw [deferredLength]
  split
  · exact .pure (.refl exchange)
  · refine .andThen (.ofExcept (lengthOf_admits _ _)) fun length => ?_
    split
    · exact .reject trivial
    · refine .andThen (.call _) fun known => ?_
      split
      · exact .reject trivial
      · refine .andThen (.call _) fun offset => ?_
        split
        · exact .reject trivial
        · exact .pure rfl

theorem offsetMatches_admits (exchange : Exchange) :
    (offsetMatches exchange).Admits fun _ => True := by
  refine .andThen (.call _) fun stored => ?_
  simp only
  split
  · exact .reject trivial
  · exact .pure trivial

theorem incomplete_admits (exchange : Exchange) :
    (incomplete exchange).Admits fun _ => True := by
  refine .andThen (.call _) fun length => ?_
  split
  · exact .pure trivial
  · refine .andThen (.call _) fun offset => ?_
    split
    · exact .reject trivial
    · exact .pure trivial

theorem piecesExist_admits (ids : List String) :
    (piecesExist ids).Admits fun _ => True := by
  induction ids with
  | nil => exact .pure trivial
  | cons id rest hypothesis =>
      refine .andThen (.call _) fun here => ?_
      split
      · exact hypothesis
      · exact .reject trivial

theorem piecesArePieces_admits (service : Service) (ids : List String) :
    (piecesArePieces service ids).Admits fun _ => True := by
  induction ids with
  | nil => exact .pure trivial
  | cons id rest hypothesis =>
      refine .andThen (.attempt _) fun part => ?_
      split
      · exact hypothesis
      · exact .reject trivial

theorem piecesComplete_admits (total : Nat) (ids : List String) :
    (piecesComplete total ids).Admits fun _ => True := by
  induction ids generalizing total with
  | nil => exact .pure trivial
  | cons id rest hypothesis =>
      refine .andThen (.call _) fun length =>
        .andThen (.call _) fun offset => ?_
      split
      · exact hypothesis _
      · exact .reject trivial

theorem joinable_admits (service : Service) (ids : List String) :
    (joinable service ids).Admits fun _ => True := by
  refine .andThen (piecesExist_admits ids) fun _ =>
    .andThen (piecesArePieces_admits service ids) fun _ =>
      .andThen (piecesComplete_admits 0 ids) fun total => ?_
  split
  · exact .reject trivial
  · exact .pure trivial

theorem partIsPossible_admits (service : Service) (exchange : Exchange)
    (part : Part) :
    (partIsPossible service exchange part).Admits fun _ => True := by
  rw [partIsPossible.eq_def]
  split
  · refine .andThen (joinable_admits service _) fun _ => ?_
    split
    · exact .reject trivial
    · exact .pure trivial
  · exact .pure trivial
  · exact .pure trivial

theorem part_admits (service : Service) (exchange : Exchange) :
    (part service exchange).Admits exchange.Notes := by
  rw [part]
  split
  · exact .reject trivial
  · exact .andThen (partIsPossible_admits service exchange _) fun _ =>
      .pure rfl

end Requirement

namespace Handling

theorem write_check_admits (service : Service) (exchange : Exchange) :
    ((write service).check exchange).Admits exchange.Notes := by
  refine .andThen (.ofExcept (Requirement.contentType_admits exchange))
    fun _ => .bind (.ofExcept (Requirement.offset_admits exchange))
    fun first noted => ?_
  refine .bind (Requirement.checksum_admits service first)
    fun second pledged => ?_
  refine .andThen (Requirement.present_admits second) fun _ =>
    .andThen (Requirement.alive_admits service second) fun _ =>
    .andThen (Requirement.notJoined_admits service second) fun _ => ?_
  refine .bind (Requirement.deferredLength_admits service second)
    fun third measured => ?_
  exact .andThen (Requirement.offsetMatches_admits third) fun _ =>
    .andThen (Requirement.incomplete_admits third) fun _ =>
    .pure ((noted.trans pledged).trans measured)

theorem concatenate_check_admits (service : Service) (exchange : Exchange) :
    ((concatenate service).check exchange).Admits exchange.Notes := by
  refine .bind (Requirement.part_admits service exchange) fun middle first => ?_
  exact .ofExcept ((Requirement.declared_admits service middle).mono
    fun _ second => first.trans second)

/-- Whatever is required, checking it only notes what it finds. -/
theorem check_admits {intent : Intent} {handling : Handling}
    (handled : ofIntent? service intent = some handling)
    (exchange : Exchange) :
    (handling.check exchange).Admits exchange.Notes := by
  have visible : ((delete service).check exchange).Admits exchange.Notes :=
    .andThen (Requirement.present_admits exchange) fun _ =>
      .andThen (Requirement.alive_admits service exchange) fun _ =>
        .pure (.refl exchange)
  cases intent with
  | notApplicable => cases handled
  | createFile =>
      cases handled
      exact .ofExcept (Requirement.declared_admits service exchange)
  | concatenate =>
      cases handled
      exact concatenate_check_admits service exchange
  | writeFile =>
      cases handled
      exact write_check_admits service exchange
  | deleteFile | fileInfo =>
      cases handled
      exact visible
  | options =>
      cases handled
      exact .pure (.refl exchange)

end Handling

end ResumableUpload
