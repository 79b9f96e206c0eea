import ResumableUpload.Proofs.Negotiation.Compliance
import ResumableUpload.Proofs.Solo.Visit
/-!
# Negotiation

A store has means for some extensions, and a configuration allows some.  Of a
store nothing is used but what both agree on, whatever a request asks for and
whatever the store answers, and no request fails for want of means unless the
store itself says so.  This holds among all surroundings: for stores of every
kind, for hosts that break off, and for requests that are given up.
-/

namespace ResumableUpload

variable {service : Service} {exchange : Exchange}

/-! ## Handling an intent -/

theorem Exchange.IsCovered.answerField (covered : exchange.IsCovered service)
    (name text : String) : (exchange.answerField name text).IsCovered service :=
  ⟨covered.pledge, covered.length⟩

/-- Nothing has been noted of a request that has just arrived. -/
theorem Exchange.IsCovered.ofRequest (service : Service) (request : Request) :
    (Exchange.ofRequest service request).IsCovered service :=
  ⟨fun pledged => absurd rfl pledged, fun given => absurd rfl given⟩

/-- What a creation has noted does not count for the write that follows. -/
theorem Exchange.IsCovered.continueWith (service : Service)
    (exchange : Exchange) (id : String) :
    (exchange.continueWith id).IsCovered service :=
  ⟨fun pledged => absurd rfl pledged, fun given => absurd rfl given⟩

namespace Protocol

variable {handling : Handling}

theorem tellBefore_complies (event? : Option Event) :
    (tellBefore event?).Complies service := by
  cases event? with
  | none => exact .pure Verdict.proceed
  | some event => exact .tell event

theorem tellOutcome_complies (exchange : Exchange) (outcome : Outcome) :
    (tellOutcome exchange outcome).Complies service := by
  cases outcome with
  | created id length complete =>
      refine .bind (.tell _) ?_
      intro verdict
      split
      · exact .pure verdict
      · exact .tell _
  | written id complete =>
      rw [tellOutcome]
      split
      · exact .tell _
      · exact .pure Verdict.proceed
  | deleted id => exact .tell _
  | settled => exact .pure Verdict.proceed

theorem execute_complies (complies : handling.Complies service)
    (covered : exchange.IsCovered service) :
    (execute handling exchange).Complies service := by
  refine Attempt.Honours.bind (complies exchange covered) ?_
  intro result works
  cases result with
  | error rejection => exact Attempt.Complies.pure _
  | ok checked =>
      refine Attempt.Complies.bind (tellBefore_complies _) ?_
      intro verdict
      split
      · exact .pure _
      · exact .bind (works checked rfl) fun done =>
          .bind (tellOutcome_complies _ _) fun _ => .pure _

/-- Settling a result makes answers of failures, and no failures. -/
theorem admits_settle {result : Except Failure Exchange}
    (admitted : service.contract.Admits (fun _ => True) result) :
    service.contract.Admits (fun _ => True) (settle exchange result) := by
  cases admitted with
  | ok => exact .ok trivial
  | @error failure borne =>
      cases failure with
      | refused cause => exact .ok trivial
      | missing id => exact .ok trivial
      | _ => exact .error borne

theorem executeSettled_complies (complies : handling.Complies service)
    (covered : exchange.IsCovered service) :
    (executeSettled handling exchange).Complies service := by
  refine .mk ?_
  rw [map_eq_pure_bind]
  exact Program.Honours.bind (execute_complies complies covered)
    fun _ admitted => .done (admits_settle admitted)

theorem executeLeased_complies (complies : handling.Complies service)
    (covered : exchange.IsCovered service) :
    (executeLeased handling exchange).Complies service := by
  refine .bind (.acquire (Service.permits_of_core rfl)) ?_
  intro lease?
  cases lease? with
  | none => exact Attempt.Complies.pure _
  | some lease =>
      refine .mk (Program.Honours.bind
        (executeSettled_complies complies covered) fun result admitted => ?_)
      exact .act (Service.permits_of_core rfl) fun _ _ => .done admitted

/-- Handling an intent uses no means but those agreed on. -/
theorem handleIntent_complies (intent : Intent)
    (complies : handling.Complies service)
    (covered : exchange.IsCovered service) :
    (handleIntent intent handling exchange).Complies service := by
  refine .bind (.tell _) ?_
  intro verdict
  split
  · exact .pure _
  · rw [executeVersioned]
    split
    · exact .pure _
    · split
      · exact executeLeased_complies complies (covered.answerField _ _)
      · exact executeSettled_complies complies (covered.answerField _ _)

/-! ## Handling a request -/

/-- A write to an upload that was just created uses what was agreed on. -/
theorem handleIntent_continueWith_complies (service : Service)
    (exchange : Exchange) (id : String) :
    (handleIntent .writeFile (Handling.write service)
      (exchange.continueWith id)).Complies service :=
  handleIntent_complies .writeFile Handling.write_complies
    (.continueWith service exchange id)

theorem handleSecond_complies {second? : Option Intent}
    (offered : ∀ intent, second? = some intent →
      intent.IsOffered service.terms) :
    (handleSecond service exchange second?).Complies service := by
  rw [handleSecond.eq_def]
  split
  · rename_i intent handling id _ handled
    have complies : handling.Complies service :=
      Handling.complies_of_isOffered (offered intent rfl) handled
    have written := handleIntent_complies intent complies
      (.continueWith service exchange id)
    split
    · refine .bind (.lift (.mono written fun _ _ => trivial)) ?_
      intro result
      exact .pure _
    · exact .pure _
  · exact .pure _

theorem handle_complies (service : Service) (request : Request) :
    (handle service request).Complies service := by
  have offered : ∀ intent ∈ intentsOf service request,
      intent.IsOffered service.terms :=
    fun _ => Intent.ofRequest_isOffered
  rw [handle]
  cases asked : intentsOf service request with
  | nil => exact .pure _
  | cons first rest =>
      rw [asked] at offered
      simp only
      cases handled : Handling.ofIntent? service first with
      | none => exact .pure _
      | some handling =>
          refine .bind (handleIntent_complies first
            (Handling.complies_of_isOffered
              (offered first List.mem_cons_self) handled)
            (.ofRequest service request)) fun exchange => ?_
          refine .bind (handleSecond_complies fun intent second => ?_)
            fun _ => .pure _
          exact offered intent
            (List.mem_cons_of_mem first (List.mem_of_head? second))

end Protocol

/-! ## What was done -/

/--
A transcript in which no means of the store were used but those agreed on, and
nothing failed for want of means.
-/
structure Transcript.KeepsTerms {α : Type}
    (transcript : Transcript (Except Failure α)) (terms : Terms) : Prop where
  granted : ∀ action ∈ transcript.actions, ∀ means,
    action.means? = some means → terms.grants means = true
  supported : ∀ means, transcript.result? ≠ some (.error (.unsupported means))

/-- What complies keeps the terms among all surroundings. -/
theorem Attempt.Complies.keepsTerms {α State : Type} {attempt : Attempt α}
    {surroundings : Surroundings State} (complies : attempt.Complies service)
    (fair : surroundings.AreFair service.contract) (state : State) :
    (attempt.caught.among surroundings state).KeepsTerms service.terms := by
  obtain ⟨permitted, ends⟩ := Program.Honours.among complies fair state
  refine ⟨permitted, fun means failed => ?_⟩
  cases ends _ failed with
  | error borne => exact borne means rfl

/--
No request uses means of a store that were not agreed on, and none fails for
want of means, among whatever surroundings that do not fail so of themselves.
The same holds of the write that follows a creation, whose failures nobody
hears of.
-/
theorem Protocol.program_keeps_terms (service : Service) {State : Type}
    {surroundings : Surroundings State}
    (fair : surroundings.AreFair service.contract) (state : State) :
    (∀ request : Request,
        ((program service request).among surroundings state).KeepsTerms
          service.terms) ∧
      ∀ (exchange : Exchange) (id : String),
        ((handleIntent .writeFile (Handling.write service)
          (exchange.continueWith id)).caught.among surroundings
            state).KeepsTerms service.terms :=
  ⟨fun request => (handle_complies service request).keepsTerms fair state,
    fun exchange id =>
      (handleIntent_continueWith_complies service exchange id).keepsTerms fair
        state⟩

/-! ## Among a store in memory -/

/--
Surroundings with a store in memory and one body for all appends, in which all
leases are free and the host lets every request go on.
-/
def Store.surroundings (body : Bytes) : Surroundings Store where
  answer store
    | .acquire id => some (.ok (some ⟨id, 0⟩), store)
    | .release _ => some ((), store)
    | .call asked => some (store.answer { seconds := 0 } asked)
    | .append id _ =>
        some (
          if store.has id then
            (.ok body.length, store.modify id fun upload =>
              { upload.beginChunk with content := upload.content ++ body })
          else (.error (.missing id), store))
    | .trailers => some (none, store)
    | .clock => some ({ seconds := 0 }, store)
    | .tell _ => some (.proceed, store)
    | .goOn _ => none

/-- A store in memory has the means for everything. -/
theorem Store.answer_ne_unsupported (store : Store) (now : Instant)
    (asked : Call) (means : Means) :
    (store.answer now asked).1 ≠ .error (.unsupported means) := by
  intro lacking
  cases asked <;>
    simp only [answer, ask, change, create, createJoined, setLength,
      verify] at lacking <;>
    (repeat' split at lacking) <;> cases lacking

/-- A store in memory is fair to every service, whatever they agree on. -/
theorem Store.surroundings_areFair (body : Bytes) (service : Service) :
    (surroundings body).AreFair service.contract := by
  intro store action reply after answered
  cases action with
  | acquire id =>
      cases answered
      exact .ok trivial
  | call asked =>
      have replied : reply = (store.answer { seconds := 0 } asked).1 :=
        (congrArg Prod.fst (Option.some.inj answered)).symm
      change service.contract.Admits _ reply
      cases reply with
      | ok value => exact .ok trivial
      | error failure =>
          refine .error fun means lacking => ?_
          rw [lacking] at replied
          exact answer_ne_unsupported store _ asked means replied.symm
  | append id route =>
      simp only [surroundings] at answered
      split at answered <;> cases answered
      · exact .ok trivial
      · exact .error fun means => nofun
  | goOn begun => cases answered
  | _ => trivial

/-- A creation that carries its body, and a digest of it. -/
def vouchedCreation : Request :=
  (Visit.creating
    [(HeaderName.uploadLength, "5"), (HeaderName.contentType, bodyType),
      (HeaderName.uploadChecksum, "sha1 qvTGHdzF6KLavt4PO0gs2a6pQ00=")]).request

/--
So a creation with a body and a digest makes use of creation and checksums,
where nothing else is on offer.
-/
theorem Protocol.program_keeps_terms_of_vouched :
    let service : Service :=
      { offers := fun means => means == .creation || means == .checksum }
    let transcript := (program service vouchedCreation).among
      (Store.surroundings (Bytes.ofString "hello")) {}
    transcript.KeepsTerms service.terms ∧
      transcript.actions.filterMap Action.means?
        = [.creation, .checksum, .checksum] := by
  intro service transcript
  refine ⟨?_, by decide +kernel⟩
  exact (program_keeps_terms service
    (Store.surroundings_areFair (Bytes.ofString "hello") service) {}).1
      vouchedCreation

end ResumableUpload
