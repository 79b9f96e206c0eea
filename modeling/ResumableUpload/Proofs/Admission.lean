import ResumableUpload.Proofs.Adversity.Awaiting
import ResumableUpload.Proofs.Solo.Life
/-!
# Admission

Handling an intent has two parts.  First it is found out whether its work may
begin: the host is asked, the version is looked at, a lease is taken, the
requirements are checked, and the host is asked again.  That is its admission.
Then, if it is admitted, the work is done.  `Protocol.handleIntent_eq` says that
handling an intent is its admission and the work that follows, and
`Protocol.admission_reads` that an admission writes nothing, whatever it ends
in.
-/

namespace ResumableUpload.Protocol

/-! ## The two parts -/

/-- Why an intent is answered before its work begins. -/
inductive Stop where
  /-- The host objects to the request. -/
  | unauthorized (verdict : Verdict)
  /-- The request follows another version of the protocol. -/
  | outdated
  /-- There is a lease on the upload already. -/
  | leased
  | rejected (rejection : Rejection)
  /-- The store fails while the requirements are checked. -/
  | failed (failure : Failure)
  /-- The host objects to what is to be done. -/
  | vetoed (verdict : Verdict)
  deriving DecidableEq

/-- What is found when the requirements are checked and the host is asked. -/
inductive Examined where
  | passed (checked : Exchange)
  | stopped (why : Stop) (answered : Exchange)

/-- What an admission ends in. -/
inductive Admission where
  /-- The work may begin, perhaps under a lease. -/
  | admitted (checked : Exchange) (lease? : Option Lease)
  | stopped (why : Stop) (answered : Exchange)

/-- The admission that follows from what was found, under a lease or none. -/
def Examined.under (lease? : Option Lease) : Examined → Admission
  | .passed checked => .admitted checked lease?
  | .stopped why answered => .stopped why answered

/-- Checks the requirements, and asks the host. -/
def examine (handling : Handling) (exchange : Exchange) : Attempt Examined := do
  match ← (handling.check exchange).caught with
  | .error rejection =>
      return .stopped (.rejected rejection) (exchange.reject rejection)
  | .ok checked =>
      let verdict ← tellBefore (handling.before checked)
      return if verdict.failed then
          .stopped (.vetoed verdict) (checked.refuse verdict)
        else .passed checked

/-- What was found, where some failures are answers to the client. -/
def settleExamined (exchange : Exchange) :
    Except Failure Examined → Except Failure Examined
  | .error failure =>
      (settle exchange (.error failure)).map (.stopped (.failed failure))
  | .ok found => .ok found

def examineSettled (handling : Handling) (exchange : Exchange) :
    Program (Except Failure Examined) :=
  settleExamined exchange <$> (examine handling exchange).caught

/-- Keeps a lease that was taken only if the work may begin. -/
def keepLease (lease : Lease) :
    Except Failure Examined → Program (Except Failure Admission)
  | .ok (.passed checked) => .done (.ok (.admitted checked lease))
  | .ok (.stopped why answered) =>
      .act (.release lease) fun _ => .done (.ok (.stopped why answered))
  | .error failure => .act (.release lease) fun _ => .done (.error failure)

/-- Finds out under a lease whether the work for an intent may begin. -/
def admitLeased (handling : Handling) (exchange : Exchange) :
    Attempt Admission := do
  match ← Attempt.acquire exchange.fileId with
  | none =>
      return .stopped .leased (exchange.reject (.leased exchange.fileId))
  | some lease =>
      ExceptT.mk ((examineSettled handling exchange).bind (keepLease lease))

/-- Finds out whether the work for an intent may begin. -/
def admission (intent : Intent) (handling : Handling) (exchange : Exchange) :
    Attempt Admission := do
  let verdict ← Attempt.tell
    (.authorize intent exchange.method exchange.id exchange.headers)
  let versioned := exchange.answerField HeaderName.tusResumable protocolVersion
  if verdict.failed then
    return .stopped (.unauthorized verdict)
      ({ exchange with response := {} }.refuse verdict)
  else if intent != .options && versionOf exchange != protocolVersion then
    return .stopped .outdated
      ((versioned.answerField HeaderName.tusVersion protocolVersion).reject
        (.version (versionOf exchange)))
  else if intent.needsLease then admitLeased handling versioned
  else Examined.under none <$> ExceptT.mk (examineSettled handling versioned)

/-- Does the work for an intent, if it is admitted. -/
def followUp (handling : Handling) (exchange : Exchange) :
    Admission → Attempt Exchange
  | .stopped _ answered => pure answered
  | .admitted checked none =>
      ExceptT.mk (settle exchange <$> (carryOut handling checked).caught)
  | .admitted checked (some lease) =>
      ExceptT.mk do
        let result ← settle exchange <$> (carryOut handling checked).caught
        Program.perform (.release lease)
        return result

variable {handling : Handling} {exchange : Exchange}

/-! ## They make up the whole -/

theorem execute_eq (handling : Handling) (exchange : Exchange) :
    execute handling exchange
      = examine handling exchange >>= fun
        | .stopped _ answered => pure answered
        | .passed checked => carryOut handling checked := by
  rw [execute, examine, bind_assoc]
  refine congrArg ((handling.check exchange).caught >>= ·) (funext ?_)
  rintro (rejection | checked)
  · rw [pure_bind]
  · simp only [bind_assoc]
    refine congrArg (tellBefore (handling.before checked) >>= ·) (funext ?_)
    intro verdict
    rw [pure_bind]
    cases verdict.failed <;> rfl

/-- To settle the whole is to settle the examination and the work. -/
theorem run_executeSettled (handling : Handling) (exchange : Exchange) :
    (executeSettled handling exchange).run
      = (examineSettled handling exchange).bind fun
        | .ok (.stopped _ answered) => .done (.ok answered)
        | .ok (.passed checked) =>
            settle exchange <$> (carryOut handling checked).caught
        | .error failure => .done (.error failure) := by
  change settle exchange <$> (execute handling exchange).run
    = (settleExamined exchange <$> (examine handling exchange).run).bind _
  rw [execute_eq, ExceptT.run_bind, map_eq_pure_bind, map_eq_pure_bind]
  change (Program.bind _ _).bind _ = (Program.bind _ _).bind _
  rw [Program.bind_assoc, Program.bind_assoc]
  refine congrArg (examine handling exchange).run.bind (funext ?_)
  rintro (failure | ⟨checked⟩ | ⟨why, answered⟩)
  · cases failure <;> rfl
  · exact (map_eq_pure_bind (settle exchange)
      (carryOut handling checked).run).symm
  · rfl

/-- Without a lease an admission and what follows it make up the whole. -/
theorem executeSettled_eq (handling : Handling) (exchange : Exchange) :
    executeSettled handling exchange
      = Examined.under none <$> ExceptT.mk (examineSettled handling exchange)
        >>= followUp handling exchange := by
  refine ExceptT.ext ?_
  rw [run_executeSettled, bind_map_left, ExceptT.run_bind]
  refine congrArg (examineSettled handling exchange).bind (funext ?_)
  rintro (failure | ⟨checked⟩ | ⟨why, answered⟩) <;> rfl

theorem executeLeased_eq (handling : Handling) (exchange : Exchange) :
    executeLeased handling exchange
      = admitLeased handling exchange >>= followUp handling exchange := by
  rw [executeLeased, admitLeased, bind_assoc]
  refine congrArg (Attempt.acquire exchange.fileId >>= ·) (funext ?_)
  rintro (_ | lease)
  · rfl
  · refine ExceptT.ext ?_
    change (executeSettled handling exchange).run.bind _
      = ((examineSettled handling exchange).bind (keepLease lease)).bind _
    rw [run_executeSettled, Program.bind_assoc, Program.bind_assoc]
    refine congrArg (examineSettled handling exchange).bind (funext ?_)
    rintro (failure | ⟨checked⟩ | ⟨why, answered⟩) <;> rfl

/-- Handling an intent is its admission and the work that follows. -/
theorem handleIntent_eq (intent : Intent) (handling : Handling)
    (exchange : Exchange) :
    handleIntent intent handling exchange
      = admission intent handling exchange >>= followUp handling
          (exchange.answerField HeaderName.tusResumable protocolVersion) := by
  rw [handleIntent, admission, bind_assoc]
  refine congrArg (Attempt.tell _ >>= ·) (funext fun verdict => ?_)
  cases verdict.failed with
  | true => rfl
  | false =>
      simp only [Bool.false_eq_true, if_false]
      rw [executeVersioned]
      change (if (intent != .options && versionOf exchange != protocolVersion)
        = true then _ else _) = _
      split
      · rfl
      · split
        · exact executeLeased_eq handling _
        · exact executeSettled_eq handling _

/-! ## An admission reads -/

variable {service : Service} {intent : Intent}

theorem examine_stays {writes : Bool}
    (handled : Handling.ofIntent? service intent = some handling)
    (exchange : Exchange) :
    (examine handling exchange).Uses (Action.Stays writes) := by
  refine .bind ((Handling.check_inquires handled exchange).mono
    fun _ => Action.stays_of_isInquiry) ?_
  rintro (rejection | checked)
  · exact .pure _
  · exact .bind (tellBefore_stays _) fun _ => .pure _

theorem examineSettled_reads
    (handled : Handling.ofIntent? service intent = some handling)
    (exchange : Exchange) :
    (examineSettled handling exchange).Uses
      fun action => action.writes = false := by
  rw [examineSettled, map_eq_pure_bind]
  exact Program.Uses.bind
    ((examine_stays handled exchange).mono fun _ => Action.Stays.reads)
      fun _ => .done _

theorem admitLeased_reads
    (handled : Handling.ofIntent? service intent = some handling)
    (exchange : Exchange) :
    (admitLeased handling exchange).Uses
      fun action => action.writes = false := by
  have asked : (Attempt.acquire exchange.fileId).Uses
      fun action => action.writes = false := .act rfl .done
  refine .bind asked ?_
  rintro (_ | lease)
  · exact .pure _
  · refine Program.Uses.bind (examineSettled_reads handled exchange) ?_
    rintro (failure | ⟨checked⟩ | ⟨why, answered⟩)
    · exact .act rfl fun _ => .done _
    · exact .done _
    · exact .act rfl fun _ => .done _

/-- An admission writes nothing to the store. -/
theorem admission_reads
    (handled : Handling.ofIntent? service intent = some handling)
    (exchange : Exchange) :
    (admission intent handling exchange).Uses
      fun action => action.writes = false := by
  refine .bind (.tell rfl) ?_
  intro verdict
  split
  · exact .pure _
  · split
    · exact .pure _
    · split
      · exact admitLeased_reads handled _
      · rw [map_eq_pure_bind]
        exact .bind (examineSettled_reads handled _) fun _ => .pure _

/-- Where the work only asks, handling an intent writes nothing. -/
theorem handleIntent_reads
    (handled : Handling.ofIntent? service intent = some handling)
    (asks : ∀ checked, (handling.carryOut checked).Inquires)
    (exchange : Exchange) :
    (handleIntent intent handling exchange).Uses
      fun action => action.writes = false := by
  have works (checked : Exchange) :
      (carryOut handling checked).Uses fun action => action.writes = false := by
    refine .bind ((asks checked).mono fun _ => Action.writes_of_isInquiry) ?_
    intro done
    exact .bind ((tellOutcome_stays _ _).mono fun _ => Action.Stays.reads)
      fun _ => .pure _
  have settled (checked : Exchange) : Program.Uses
      (fun action => action.writes = false)
      (settle (exchange.answerField HeaderName.tusResumable protocolVersion)
        <$> (carryOut handling checked).caught) := by
    rw [map_eq_pure_bind]
    exact Program.Uses.bind (works checked) fun _ => .done _
  rw [handleIntent_eq]
  refine .bind (admission_reads handled exchange) ?_
  rintro (⟨checked, _ | lease⟩ | ⟨why, answered⟩)
  · exact settled checked
  · exact Program.Uses.bind (settled checked) fun _ =>
      .act rfl fun _ => .done _
  · exact .pure _

/-! ## Requests that are stopped -/

theorem caught_handleIntent (intent : Intent) (handling : Handling)
    (exchange : Exchange) :
    (handleIntent intent handling exchange).caught
      = (admission intent handling exchange).caught.bind
          (ExceptT.bindCont (followUp handling (exchange.answerField
            HeaderName.tusResumable protocolVersion))) := by
  rw [handleIntent_eq]
  rfl

/-- What does not get past its admission leaves the store as it was. -/
theorem conduct_store_of_not_admitted
    (handled : Handling.ofIntent? service intent = some handling)
    {exchange : Exchange} {client : Client} {server : Server}
    {news : List News}
    (unadmitted : ∀ checked lease?,
      ((admission intent handling exchange).caught.conduct client server
          news).halt
        ≠ .finished (.ok (.admitted checked lease?))) :
    ((handleIntent intent handling exchange).caught.conduct client server
      news).server.store = server.store := by
  have still := (admission_reads handled exchange).await_store client server
    news
  rw [Program.conduct_eq] at unadmitted
  rw [caught_handleIntent, Program.conduct_eq, Program.await_bind]
  change ((admission intent handling exchange).caught.await client server
    news).server.store = server.store at still
  generalize (admission intent handling exchange).caught.await client server
    news = conducted at still unadmitted ⊢
  cases conducted with
  | finished result after left later =>
      rcases result with failure | ⟨checked, lease?⟩ | ⟨why, answered⟩
      · exact still
      · exact absurd rfl (unadmitted checked lease?)
      · exact still
  | waiting program after left => exact still
  | collapsed after left => exact still

/-- A request that is stopped is answered as its admission says. -/
theorem conduct_halt_of_stopped {exchange : Exchange} {client : Client}
    {server : Server} {news : List News} {why : Stop} {answered : Exchange}
    (stopped :
      ((admission intent handling exchange).caught.conduct client server
          news).halt
        = .finished (.ok (.stopped why answered))) :
    ((handleIntent intent handling exchange).caught.conduct client server
      news).halt = .finished (.ok answered) := by
  rw [Program.conduct_eq] at stopped
  rw [caught_handleIntent, Program.conduct_eq, Program.await_bind]
  generalize (admission intent handling exchange).caught.await client server
    news = conducted at stopped ⊢
  cases conducted with
  | finished result after left later =>
      cases stopped
      rfl
  | waiting program after left => cases stopped
  | collapsed after left => cases stopped

/--
A request that is stopped before its work begins changes nothing in the store,
and neither does a question, whatever its answer.  It is stopped because the
host objects, because of its version, because of a lease that somebody else
holds, because a requirement rejects it, or because the host objects to what is
to be done; and then the reason is what it is answered with.  Nor is anything
changed if the admission fails, is given up or never ends.
-/
theorem handleIntent_stopped_changes_nothing
    (handled : Handling.ofIntent? service intent = some handling)
    (exchange : Exchange) (client : Client) (server : Server)
    (news : List News) :
    (∀ why answered,
        ((admission intent handling exchange).caught.conduct client server
            news).halt = .finished (.ok (.stopped why answered)) →
          ((handleIntent intent handling exchange).caught.conduct client server
              news).halt = .finished (.ok answered) ∧
            ((handleIntent intent handling exchange).caught.conduct client
              server news).server.store = server.store) ∧
      ((∀ checked lease?,
          ((admission intent handling exchange).caught.conduct client server
              news).halt ≠ .finished (.ok (.admitted checked lease?))) →
        ((handleIntent intent handling exchange).caught.conduct client server
          news).server.store = server.store) ∧
      (intent = .fileInfo ∨ intent = .options →
        ((handleIntent intent handling exchange).caught.conduct client server
          news).server.store = server.store) := by
  refine ⟨fun why answered stopped => ?_,
    conduct_store_of_not_admitted handled, fun question => ?_⟩
  · refine ⟨conduct_halt_of_stopped stopped,
      conduct_store_of_not_admitted handled fun checked lease? admitted => ?_⟩
    rw [stopped] at admitted
    cases admitted
  · have asks : ∀ checked, (handling.carryOut checked).Inquires := by
      rcases question with rfl | rfl
      · cases handled
        exact Handling.info_carryOut_inquires service
      · cases handled
        exact Handling.options_carryOut_inquires service
    rw [Program.conduct_eq, Conducted.ran_server]
    exact (handleIntent_reads handled asks exchange).await_store client server
      news

/-- Why an admission was stopped, if it was. -/
def stop? : Halt (Except Failure Admission) → Option Stop
  | .finished (.ok (.stopped why _)) => some why
  | _ => none

theorem eq_of_stop? {halt : Halt (Except Failure Admission)} {why : Stop}
    (stopped : stop? halt = some why) :
    ∃ answered, halt = .finished (.ok (.stopped why answered)) := by
  cases halt with
  | finished result =>
      rcases result with failure | ⟨checked, lease?⟩ | ⟨reason, answered⟩
      · cases stopped
      · cases stopped
      · cases stopped
        exact ⟨answered, rfl⟩
  | waiting program => cases stopped
  | collapsed => cases stopped

/-- So a write that does not begin where the upload ends changes nothing. -/
theorem handleIntent_stopped_changes_nothing_of_mismatch :
    let server := Server.awaitingSomething
    let visit := Visit.writing "3" "hello" []
    let handling := Handling.write server.service
    let exchange := Exchange.ofRequest server.service visit.request
    stop? ((admission .writeFile handling exchange).caught.conduct visit.client
        server []).halt = some (.rejected (.offsetMismatch 0 3)) ∧
      ((handleIntent .writeFile handling exchange).caught.conduct visit.client
        server []).server.store = server.store := by
  intro server visit handling exchange
  have stopped : stop? ((admission .writeFile handling
      exchange).caught.conduct visit.client server []).halt
        = some (.rejected (.offsetMismatch 0 3)) := by
    decide +kernel
  obtain ⟨answered, halted⟩ := eq_of_stop? stopped
  exact ⟨stopped, ((handleIntent_stopped_changes_nothing rfl exchange
    visit.client server []).1 _ answered halted).2⟩

end ResumableUpload.Protocol
