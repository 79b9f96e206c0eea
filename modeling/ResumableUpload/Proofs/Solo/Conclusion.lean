import ResumableUpload.Proofs.Solo.Accounts
import ResumableUpload.Proofs.Solo.Likeness
/-!
# How an intent is concluded

The host may stop an intent at several points.  Where it does not, there are
few ways in which the intent comes to its end: a rejection, a failure that is
settled, or the answer of the work.  `Protocol.handleIntent_concludes` lists
them with what they say and what they leave, for an intent that ends in an
answer and for one that does not.  A request is concluded as its first intent
is, or as the write of its body, which `Protocol.handle_handles` tells apart.
-/

namespace ResumableUpload

/-! ## Hosts that stop nothing -/

/-- Whether the host has stopped what was going on, or has broken off. -/
def Act.stops : Act → Bool
  | ⟨.tell _, some verdict, _⟩ => verdict.failed
  | ⟨.tell _, none, _⟩ => true
  | _ => false

/-- On a scene the host stops nothing of what an attempt does. -/
def Attempt.Passes {α : Type} (attempt : Attempt α) (scene : Scene) : Prop :=
  ∀ act ∈ attempt.actsOn scene, act.stops = false

namespace Attempt.Passes

variable {α β : Type} {scene : Scene}

theorem first {attempt : Attempt α} {rest : α → Attempt β}
    (passes : (attempt >>= rest).Passes scene) : attempt.Passes scene := by
  intro act present
  refine passes act ?_
  rw [actsOn_bind]
  exact List.mem_append_left _ present

theorem rest {attempt : Attempt α} {rest : α → Attempt β} {value : α}
    {middle : Scene} (passes : (attempt >>= rest).Passes scene)
    (ends : attempt.play scene = .finished (.ok value) middle) :
    (rest value).Passes middle := by
  intro act present
  refine passes act ?_
  rw [actsOn_bind, ends]
  exact List.mem_append_right _ present

/-- What the host hears and does not stop goes on. -/
theorem tell {event : Event} (passes : (Attempt.tell event).Passes scene) :
    ∃ verdict told, (Attempt.tell event).play scene
        = .finished (.ok verdict) told ∧
      verdict.failed = false ∧ scene.OnlyTold told := by
  have heard := scene.tell_told event
  have passed := passes _ (by
    rw [actsOn_tell]
    exact List.mem_singleton_self _)
  rw [play_tell]
  cases told : scene.tell event with
  | finished verdict after =>
      rw [told] at heard passed
      exact ⟨verdict, after, rfl, passed, heard⟩
  | waiting after | collapsed after =>
      rw [told] at passed
      cases passed

/-- A host that does not watch stops nothing. -/
theorem of_unwatched (attempt : Attempt α) (unwatched : scene.IsUnwatched) :
    attempt.Passes scene := by
  have all (program : Program (Except Failure α)) : ∀ scene : Scene,
      scene.IsUnwatched → ∀ act ∈ program.actsOn scene, act.stops = false := by
    induction program with
    | done value =>
        intro scene _ act present
        cases present
    | act action next hypothesis =>
        intro scene unwatched act present
        have still := unwatched.perform action
        rw [Program.actsOn] at present
        rcases List.mem_cons.1 present with rfl | later
        · cases action with
          | tell event =>
              change Act.stops ⟨.tell event, (scene.tell event).value?, _⟩ = _
              rw [unwatched.tell]
              rfl
          | _ => rfl
        · cases performed : scene.perform action with
          | finished reply after =>
              rw [performed] at later still
              exact hypothesis reply after still act later
          | waiting after | collapsed after =>
              rw [performed] at later
              cases later
  exact all attempt.run scene unwatched

end Attempt.Passes

namespace Protocol

variable {scene : Scene}

/-- What the host is told after something was done goes on, if it passes. -/
theorem tellOutcome_of_passes {exchange : Exchange} {outcome : Outcome}
    (passes : (tellOutcome exchange outcome).Passes scene) :
    ∃ verdict told, (tellOutcome exchange outcome).play scene
        = .finished (.ok verdict) told ∧
      verdict.failed = false ∧ scene.OnlyTold told := by
  cases outcome with
  | created id length complete =>
      obtain ⟨verdict, told, ends, proceeds, only⟩ :=
        Attempt.Passes.tell passes.first
      have later := passes.rest ends
      rw [tellOutcome, tellCreated, Attempt.play_bind, ends,
        Played.finished_andThen, Attempt.orFailure_ok]
      rw [proceeds, Bool.false_or] at later ⊢
      cases complete with
      | false => exact ⟨verdict, told, rfl, proceeds, only⟩
      | true =>
          obtain ⟨last, after, ends, proceeds, more⟩ :=
            Attempt.Passes.tell later
          exact ⟨last, after, ends, proceeds, only.trans more⟩
  | written id complete =>
      cases complete with
      | false => exact ⟨.proceed, scene, rfl, rfl, .refl scene⟩
      | true => exact passes.tell
  | deleted id => exact passes.tell
  | settled => exact ⟨.proceed, scene, rfl, rfl, .refl scene⟩

theorem tellBefore_of_passes {event? : Option Event}
    (passes : (tellBefore event?).Passes scene) :
    ∃ verdict told, (tellBefore event?).play scene
        = .finished (.ok verdict) told ∧
      verdict.failed = false ∧ scene.OnlyTold told := by
  cases event? with
  | none => exact ⟨.proceed, scene, rfl, rfl, .refl scene⟩
  | some event => exact Attempt.Passes.tell passes

end Protocol

/-! ## Conclusions -/

/--
How a handling is concluded on a scene by a host that stops nothing.  The
result of what is done is closed in the end, which turns some failures into
answers.
-/
inductive Concludes (handling : Handling) (exchange : Exchange)
    (close : Except Failure Exchange → Except Failure Exchange)
    (scene : Scene) : Played (Except Failure Exchange) → Prop where
  /-- The request follows another version of the protocol. -/
  | misversioned (given : String) {after : Scene}
      (left : scene.SameSight after) :
      Concludes handling exchange close scene
        (.finished (.ok ((exchange.answerField HeaderName.tusVersion
          protocolVersion).reject (.version given))) after)
  /-- Somebody else has the lease. -/
  | leased {after : Scene} (left : scene.SameSight after) :
      Concludes handling exchange close scene
        (.finished (.ok (exchange.reject (.leased exchange.fileId))) after)
  /-- A requirement is not met. -/
  | rejected {rejection : Rejection} {asked after : Scene}
      (sight : scene.SameSight asked)
      (checks : (handling.check exchange).play asked
        = .finished (.ok (.error rejection)) asked)
      (left : scene.SameSight after) :
      Concludes handling exchange close scene
        (.finished (.ok (exchange.reject rejection)) after)
  /-- The requirements cannot be looked at. -/
  | missed {played : Played (Except Failure Exchange)}
      (left : scene.SameSight played.scene)
      (ends : ∀ result after, played = .finished result after →
        ∃ failure, result = close (.error failure)) :
      Concludes handling exchange close scene played
  /-- The work fails, or does not come to an end. -/
  | broken {checked : Exchange} {asked told : Scene}
      {played : Played (Except Failure Exchange)}
      (sight : scene.SameSight asked)
      (checks : (handling.check exchange).play asked
        = .finished (.ok (.ok checked)) asked)
      (telling : asked.OnlyTold told)
      (fails : ∀ value last, (handling.carryOut checked).play told
        ≠ .finished (.ok value) last)
      (left : played.scene.store
        = ((handling.carryOut checked).play told).scene.store)
      (ends : ∀ result after, played = .finished result after →
        ∃ failure last, (handling.carryOut checked).play told
            = .finished (.error failure) last ∧
          result = close (.error failure)) :
      Concludes handling exchange close scene played
  /-- The work is done. -/
  | done {checked done : Exchange} {outcome : Outcome}
      {asked told last after : Scene} (sight : scene.SameSight asked)
      (checks : (handling.check exchange).play asked
        = .finished (.ok (.ok checked)) asked)
      (telling : asked.OnlyTold told)
      (works : (handling.carryOut checked).play told
        = .finished (.ok (done, outcome)) last)
      (left : after.store = last.store) :
      Concludes handling exchange close scene (.finished (.ok done) after)

namespace Concludes

variable {handling : Handling} {exchange : Exchange} {scene middle : Scene}
  {close : Except Failure Exchange → Except Failure Exchange}
  {played : Played (Except Failure Exchange)}

/-- What comes before a conclusion may change what nothing depends on. -/
theorem lead (sight : scene.SameSight middle)
    (concludes : Concludes handling exchange close middle played) :
    Concludes handling exchange close scene played := by
  cases concludes with
  | misversioned given left => exact .misversioned given (sight.trans left)
  | leased left => exact .leased (sight.trans left)
  | rejected asked checks left =>
      exact .rejected (sight.trans asked) checks (sight.trans left)
  | missed left ends => exact .missed (sight.trans left) ends
  | broken asked checks telling fails left ends =>
      exact .broken (sight.trans asked) checks telling fails left ends
  | done asked checks telling works left =>
      exact .done (sight.trans asked) checks telling works left

/--
What comes after a conclusion may turn failures into answers, and change what
nothing depends on.
-/
theorem trail {more : Except Failure Exchange → Except Failure Exchange}
    {part : Scene → Scene} (answers : ∀ done, more (.ok done) = .ok done)
    (parts : ∀ scene : Scene, scene.SameSight (part scene))
    (concludes : Concludes handling exchange close scene played) :
    Concludes handling exchange (more ∘ close) scene
      (played.andThen fun result last =>
        .finished (more result) (part last)) := by
  cases concludes with
  | misversioned given left =>
      rw [Played.finished_andThen, answers]
      exact .misversioned given (left.trans (parts _))
  | leased left =>
      rw [Played.finished_andThen, answers]
      exact .leased (left.trans (parts _))
  | rejected asked checks left =>
      rw [Played.finished_andThen, answers]
      exact .rejected asked checks (left.trans (parts _))
  | missed left ends =>
      refine .missed ?_ ?_
      · cases played with
        | finished result last => exact left.trans (parts last)
        | waiting last | collapsed last => exact left
      · intro result after same
        obtain ⟨first, last, here, rest⟩ := Played.andThen_ends same
        cases rest
        obtain ⟨failure, rfl⟩ := ends first last here
        exact ⟨failure, rfl⟩
  | broken asked checks telling fails left ends =>
      refine .broken asked checks telling fails ?_ ?_
      · rw [← left]
        exact Played.andThen_finish_store parts
      · intro result after same
        obtain ⟨first, last, here, rest⟩ := Played.andThen_ends same
        cases rest
        obtain ⟨failure, middle, works, rfl⟩ := ends first last here
        exact ⟨failure, middle, works, rfl⟩
  | done asked checks telling works left =>
      rw [Played.finished_andThen, answers]
      exact .done asked checks telling works ((parts _).store.trans left)

end Concludes

namespace Protocol

variable {service : Service} {intent : Intent} {handling : Handling}
  {exchange : Exchange} {scene : Scene}

/-- What is left to do when the requirements are met passes the host. -/
theorem play_carryOut_concludes {checked : Exchange} {asked told : Scene}
    (sight : scene.SameSight asked)
    (checks : (handling.check exchange).play asked
      = .finished (.ok (.ok checked)) asked)
    (telling : asked.OnlyTold told)
    (passes : (carryOut handling checked).Passes told) :
    Concludes handling exchange id scene
      ((carryOut handling checked).play told) := by
  cases works : (handling.carryOut checked).play told with
  | waiting last | collapsed last =>
      refine .broken sight checks telling ?_ ?_ ?_
      · rw [works]
        intro value after ends
        cases ends
      · rw [carryOut, Attempt.play_bind, works]
        rfl
      · rw [carryOut, Attempt.play_bind, works]
        intro result after ends
        cases ends
  | finished result last =>
      cases result with
      | error failure =>
          refine .broken sight checks telling ?_ ?_ ?_
          · rw [works]
            intro value after ends
            cases ends
          · rw [carryOut, Attempt.play_bind, works]
            rfl
          · rw [carryOut, Attempt.play_bind, works]
            intro result after ends
            cases ends
            exact ⟨failure, last, rfl, rfl⟩
      | ok value =>
          obtain ⟨done, outcome⟩ := value
          obtain ⟨verdict, after, ends, proceeds, only⟩ :=
            tellOutcome_of_passes (passes.rest works).first
          have same : (carryOut handling checked).play told
              = .finished (.ok done) after := by
            rw [carryOut, Attempt.play_bind, works, Played.finished_andThen,
              Attempt.orFailure_ok]
            simp only
            rw [Attempt.play_bind, ends, Played.finished_andThen,
              Attempt.orFailure_ok, proceeds]
            rfl
          rw [same]
          exact .done sight checks telling works only.store

theorem execute_concludes
    (handled : Handling.ofIntent? service intent = some handling)
    (passes : (execute handling exchange).Passes scene) :
    Concludes handling exchange id scene
      ((execute handling exchange).play scene) := by
  have asks := Handling.asks_check handled exchange scene
  rw [play_execute]
  cases checks : (handling.check exchange).play scene with
  | waiting after | collapsed after =>
      rw [checks] at asks
      refine .missed (.of_eq asks) ?_
      intro result last ends
      cases ends
  | finished result after =>
      rw [checks] at asks
      have same : after = scene := asks
      subst same
      rw [Played.finished_andThen]
      rcases result with failure | rejection | checked
      · refine .missed (.refl after) ?_
        intro result last ends
        cases ends
        exact ⟨failure, rfl⟩
      · exact .rejected (.refl after) checks (.refl after)
      · have later : (afterCheck handling exchange (.ok checked)).Passes
            after := passes.rest checks
        obtain ⟨verdict, told, ends, proceeds, only⟩ :=
          tellBefore_of_passes later.first
        have last := later.rest ends
        rw [Attempt.orFailure_ok, afterCheck, Attempt.play_bind, ends,
          Played.finished_andThen, Attempt.orFailure_ok]
        rw [proceeds] at last ⊢
        exact play_carryOut_concludes (.refl after) checks only last

theorem actsOn_executeSettled (handling : Handling) (exchange : Exchange)
    (scene : Scene) :
    (executeSettled handling exchange).actsOn scene
      = (execute handling exchange).actsOn scene := by
  change (settle exchange <$> (execute handling exchange).caught).actsOn
    scene = _
  rw [map_eq_pure_bind, Program.actsOn_bind]
  refine (congrArg (_ ++ ·) ?_).trans (List.append_nil _)
  cases (execute handling exchange).caught.play scene <;> rfl

/-- Some failures of what is executed are settled. -/
theorem executeSettled_concludes
    (handled : Handling.ofIntent? service intent = some handling)
    (passes : (executeSettled handling exchange).Passes scene) :
    Concludes handling exchange (settle exchange) scene
      ((executeSettled handling exchange).play scene) := by
  rw [Attempt.Passes, actsOn_executeSettled] at passes
  have settled : Concludes handling exchange (settle exchange ∘ id) scene _ :=
    (execute_concludes handled passes).trail (fun _ => rfl) .refl
  rw [play_executeSettled]
  exact settled

theorem executeLeased_concludes
    (handled : Handling.ofIntent? service intent = some handling)
    (passes : (executeLeased handling exchange).Passes scene) :
    Concludes handling exchange (settle exchange) scene
      ((executeLeased handling exchange).play scene) := by
  have sight := Scene.SameSight.leased scene exchange.fileId
  cases free : (scene.locks.acquire exchange.fileId).1 with
  | none =>
      rw [play_executeLeased_of_held free]
      exact .leased sight
  | some lease =>
      have inner : (executeSettled handling exchange).Passes
          (scene.leased exchange.fileId) := by
        intro act present
        refine passes act ?_
        rw [actsOn_executeLeased free]
        exact List.mem_append_right _ (List.mem_append_left _ present)
      have settled : Concludes handling exchange (id ∘ settle exchange)
          scene _ :=
        ((executeSettled_concludes handled inner).lead sight).trail
          (fun _ => rfl) fun last => .release last lease
      rw [play_executeLeased free]
      exact settled

theorem executeVersioned_concludes
    (handled : Handling.ofIntent? service intent = some handling)
    (passes : (executeVersioned intent handling exchange).Passes scene) :
    Concludes handling (versioned exchange) (settle (versioned exchange)) scene
      ((executeVersioned intent handling exchange).play scene) := by
  rw [executeVersioned] at passes ⊢
  split
  · exact .misversioned _ (.refl scene)
  · rw [if_neg ‹_›] at passes
    split
    · rw [if_pos ‹_›] at passes
      exact executeLeased_concludes handled passes
    · rw [if_neg ‹_›] at passes
      exact executeSettled_concludes handled passes

/-- An intent that the host does not stop is concluded in one of six ways. -/
theorem handleIntent_concludes
    (handled : Handling.ofIntent? service intent = some handling)
    (passes : (handleIntent intent handling exchange).Passes scene) :
    Concludes handling (versioned exchange) (settle (versioned exchange)) scene
      ((handleIntent intent handling exchange).play scene) := by
  obtain ⟨verdict, told, ends, proceeds, only⟩ :=
    Attempt.Passes.tell passes.first
  have later := passes.rest ends
  rw [handleIntent, Attempt.play_bind, ends, Played.finished_andThen,
    Attempt.orFailure_ok]
  rw [proceeds] at later ⊢
  exact (executeVersioned_concludes handled later).lead (.of_told only)

/-- What is not stopped and not refused is done. -/
theorem handleIntent_done {done : Exchange} {after : Scene}
    (handled : Handling.ofIntent? service intent = some handling)
    (passes : (handleIntent intent handling exchange).Passes scene)
    (ends : (handleIntent intent handling exchange).play scene
      = .finished (.ok done) after) (status : done.response.status < 400) :
    ∃ checked outcome asked told last, scene.SameSight asked ∧
      (handling.check (versioned exchange)).play asked
        = .finished (.ok (.ok checked)) asked ∧
      asked.OnlyTold told ∧
      (handling.carryOut checked).play told
        = .finished (.ok (done, outcome)) last ∧
      after.store = last.store := by
  have concludes := handleIntent_concludes handled passes
  rw [ends] at concludes
  cases concludes with
  | misversioned given left =>
      have bad : 412 < 400 := status
      omega
  | leased left =>
      have bad : (Rejection.leased (versioned exchange).fileId).status < 400 :=
        status
      have := (Rejection.leased (versioned exchange).fileId).le_status
      omega
  | @rejected rejection asked after sight checks left =>
      have bad : rejection.status < 400 := status
      have := rejection.le_status
      omega
  | missed left closes =>
      obtain ⟨failure, closes⟩ := closes _ _ rfl
      have := status_of_settle_error closes.symm
      omega
  | broken sight checks telling fails left closes =>
      obtain ⟨failure, last, works, closes⟩ := closes _ _ rfl
      have := status_of_settle_error closes.symm
      omega
  | done sight checks telling works left =>
      exact ⟨_, _, _, _, _, sight, checks, telling, works, left⟩

/-! ## Requests -/

/-- How a request is handled. -/
inductive Handles (service : Service) (request : Request) (scene : Scene) :
    Played (Except Failure Answer) → Prop where
  /-- It is passed on. -/
  | passed : Handles service request scene (.finished (.ok .passOn) scene)
  /-- Only its first intent counts. -/
  | first {intent : Intent} {handling : Handling} {rest : List Intent}
      (asked : intentsOf service request = intent :: rest)
      (handled : Handling.ofIntent? service intent = some handling) :
      Handles service request scene
        (((handleIntent intent handling (.ofRequest service request)).play
          scene).andThen (Attempt.orFailure fun done after =>
            .finished (.ok (.respond done.response)) after))
  /-- It creates an upload, and then writes the body to it. -/
  | both {intent : Intent} {handling : Handling} {done : Exchange}
      {middle : Scene} {id : String}
      (asked : intentsOf service request = [intent, .writeFile])
      (creates : intent.creates = true)
      (handled : Handling.ofIntent? service intent = some handling)
      (handles : (handleIntent intent handling (.ofRequest service
        request)).play scene = .finished (.ok done) middle)
      (created : done.response.status = 201) (identified : done.id = some id) :
      Handles service request scene
        (((handleBody .writeFile (.write service) done id).play
          middle).andThen (Attempt.orFailure fun response last =>
            .finished (.ok (.respond response)) last))

/-- What a request asks for first is what its method says, if anything. -/
theorem eq_primary_of_asked {request : Request} {first : Intent}
    {rest : List Intent} (asked : intentsOf service request = first :: rest)
    (applies : first ≠ .notApplicable) :
    first = Intent.primary service.terms
      (request.method.effective request.headers)
      (Address.ofPath service.config.urlPath request.path)
      request.headers := by
  rw [intentsOf, Intent.ofRequest] at asked
  split at asked
  · exact absurd (List.cons.inj asked).1.symm applies
  · simp only at asked
    split at asked <;> exact (List.cons.inj asked).1.symm

/-- Only a patch that names an upload is a write from the first. -/
theorem method_of_write {request : Request} {rest : List Intent}
    (asked : intentsOf service request = .writeFile :: rest) :
    request.method.effective request.headers = .patch ∧
      ∃ id, Address.uploadId? service.config.urlPath request.path
        = some id := by
  have first := eq_primary_of_asked asked nofun
  rw [Address.uploadId?]
  generalize Address.ofPath service.config.urlPath request.path = address
    at first ⊢
  generalize request.method.effective request.headers = method at first ⊢
  rw [Intent.primary.eq_def] at first
  split at first
  · split at first
    · cases first
    · split at first <;> cases first
  · exact ⟨rfl, _, rfl⟩
  · split at first <;> cases first
  · cases first
  · cases first
  · cases first

/-- Only a post is a creation. -/
theorem method_of_creates {request : Request} {first : Intent}
    {rest : List Intent} (asked : intentsOf service request = first :: rest)
    (creates : first.creates = true) :
    request.method.effective request.headers = .post := by
  have same := eq_primary_of_asked asked (by rintro rfl; cases creates)
  subst same
  generalize request.method.effective request.headers = method at creates ⊢
  rw [Intent.primary.eq_def] at creates
  split at creates
  · rfl
  · cases creates
  · split at creates <;> cases creates
  · cases creates
  · cases creates
  · cases creates

/-- What is written to an upload that was created, if one was. -/
theorem handleSecond_cases (service : Service) (done : Exchange)
    {second? : Option Intent}
    (writes : second? = none ∨ second? = some .writeFile) :
    handleSecond service done second? = pure done.response ∨
      second? = some .writeFile ∧ done.response.status = 201 ∧
        ∃ id, done.id = some id ∧ handleSecond service done second?
          = handleBody .writeFile (.write service) done id := by
  rcases writes with rfl | rfl
  · exact .inl rfl
  · rw [handleSecond.eq_def]
    cases identified : done.id with
    | none => exact .inl rfl
    | some id =>
        by_cases created : done.response.status = 201
        · exact .inr ⟨rfl, created, id, rfl, if_pos created⟩
        · exact .inl (if_neg created)

theorem handle_handles (service : Service) (request : Request)
    (scene : Scene) :
    Handles service request scene ((handle service request).play scene) := by
  rw [handle]
  split
  · exact .passed
  · rename_i intent rest asked
    split
    · exact .passed
    · rename_i handling handled
      rw [Attempt.play_bind]
      have first : Handles service request scene _ := .first asked handled
      cases handles : (handleIntent intent handling
          (.ofRequest service request)).play scene with
      | waiting after | collapsed after =>
          rw [handles] at first
          exact first
      | finished result after =>
          rw [handles] at first
          cases result with
          | error failure => exact first
          | ok done =>
              have writes : rest.head? = none ∨
                  rest.head? = some .writeFile := by
                rcases intentsOf_cons asked with rfl | ⟨-, rfl⟩
                · exact .inl rfl
                · exact .inr rfl
              rw [Played.finished_andThen, Attempt.orFailure_ok,
                Attempt.play_bind]
              rcases handleSecond_cases service done writes with
                  silent | ⟨second, created, id, identified, writes⟩
              · rw [silent]
                exact first
              · rcases intentsOf_cons asked with rfl | ⟨creates, rfl⟩
                · cases second
                · rw [writes]
                  exact .both asked creates handled handles created identified

end Protocol

end ResumableUpload
