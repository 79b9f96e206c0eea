import ResumableUpload.Proofs.Traffic.Readings
/-!
# Offsets in answers

Who asks how far an upload is gets no other offset than one that the store has
told while the request was handled.  This is said of the program of such a
request by rules that permit everything and note it, `Rules.noting`, and so it
holds of the request in every traffic: `Traffic.run_shows`.
-/

namespace ResumableUpload

/-! ## Noting -/

/-- Everything is permitted, and noted. -/
def Rules.noting : Rules (List Upshot) :=
  fun past upshot => some (past ++ [upshot])

theorem Rules.after_noting (past more : List Upshot) :
    noting.after past more = some (past ++ more) := by
  induction more generalizing past with
  | nil => rw [List.append_nil]; rfl
  | cons upshot later hypothesis =>
      rw [after, List.foldlM_cons]
      refine (hypothesis (past ++ [upshot])).trans ?_
      rw [List.append_assoc]
      rfl

/-- A program that obeys some rules may as well be noted. -/
theorem Program.Obeys.noting {σ α : Type} {rules : Rules σ}
    {ends : σ → α → Prop} {state : σ} {program : Program α}
    (obeys : program.Obeys rules ends state) (past : List Upshot) :
    program.Obeys Rules.noting (fun _ _ => True) past := by
  induction obeys generalizing past with
  | done here => exact .done trivial
  | @act _ action _ fresh _ _ _ hypothesis =>
      exact .act fresh (fun reply => past ++ [action.upshot reply])
        (fun _ => rfl) fun reply => hypothesis reply _

/-- What has been noted stays noted, whatever a gentle attempt does. -/
theorem Attempt.IsGentle.obeys_noting {α : Type} {attempt : Attempt α}
    (gentle : attempt.IsGentle) {noted : List Upshot → Prop}
    (keeps : ∀ past upshot, noted past → noted (past ++ [upshot]))
    {past : List Upshot} (here : noted past) :
    attempt.Obeys Rules.noting (fun _ => True) (fun later _ => noted later)
      past := by
  refine (Attempt.Obeys.of_uses gentle ?_ here).mono (fun _ _ here => here)
    fun _ _ => trivial
  intro past action here permitted
  exact ⟨Action.isFresh_of_isGentle permitted, fun reply =>
    ⟨_, rfl, keeps past _ here⟩⟩

/-! ## Fields -/

namespace Headers

variable {headers : Headers} {name other : String}

theorem first?_remove (apart : other ≠ name) :
    (headers.remove name).first? other = headers.first? other := by
  rw [first?, first?, remove, List.find?_filter]
  refine congrArg (Option.map Field.value) (congrArg (List.find? · headers) ?_)
  funext field
  by_cases here : field.name = other <;> simp [here, apart]

theorem first?_put_of_ne (apart : other ≠ name) (value : Bytes) :
    (headers.put name value).first? other = headers.first? other := by
  rw [put, first?, List.find?_append,
    List.find?_cons_of_neg (by simpa using apart.symm), List.find?_nil,
    Option.or_none]
  exact first?_remove apart

theorem first?_putText_of_ne (apart : other ≠ name) (text : String) :
    (headers.putText name text).first? other = headers.first? other := by
  rw [putText]
  split
  · exact first?_put_of_ne apart _
  · rfl

end Headers

namespace Exchange

variable {exchange : Exchange} {name other : String}

theorem first?_answerField_of_ne (apart : other ≠ name) (text : String) :
    (exchange.answerField name text).response.headers.first? other
      = exchange.response.headers.first? other :=
  Headers.first?_putText_of_ne apart text

theorem first?_answerFieldIf_of_ne (apart : other ≠ name)
    (text? : Option String) :
    (exchange.answerFieldIf name text?).response.headers.first? other
      = exchange.response.headers.first? other := by
  cases text? with
  | none => rfl
  | some text => exact first?_answerField_of_ne apart text

end Exchange

/--
The answer tells no offset of an upload that the store has not told before.
-/
def Response.ShowsRead (id : String) (past : List Upshot)
    (response : Response) : Prop :=
  ∀ value, response.headers.first? HeaderName.uploadOffset = some value →
    ∃ offset, .called (.offset id) (.ok offset) ∈ past ∧
      value = Bytes.ofString (toString offset)

theorem Response.showsRead_of_none {response : Response}
    (silent : response.headers.first? HeaderName.uploadOffset = none)
    (id : String) (past : List Upshot) : response.ShowsRead id past := by
  intro value shown
  rw [silent] at shown
  cases shown

/-- The only offset in the answer about an upload is the one that is given. -/
theorem Handling.first?_answerInfo {service : Service} {exchange : Exchange}
    (silent : exchange.response.headers.first? HeaderName.uploadOffset = none)
    {length : Option Nat} {offset : Nat} {metadata : Option String}
    {part : Part} {expiry : Option Instant} {value : Bytes}
    (shown : (answerInfo service exchange length offset metadata part
      expiry).response.headers.first? HeaderName.uploadOffset = some value) :
    value = Bytes.ofString (toString offset) := by
  have cached : (((exchange.answerStatus 200).answerField
      HeaderName.cacheControl "no-store").response.headers.first?
        HeaderName.uploadOffset) = none :=
    (Exchange.first?_answerField_of_ne (by decide) _).trans silent
  simp only [answerInfo] at shown
  rw [Exchange.first?_answerFieldIf_of_ne (by decide),
    Exchange.first?_answerFieldIf_of_ne (by decide),
    Exchange.first?_answerFieldIf_of_ne (by decide)] at shown
  split at shown
  · split at shown
    · rw [Exchange.first?_answerField_of_ne (by decide), cached] at shown
      cases shown
    · rw [Exchange.first?_answerField_of_ne (by decide), cached] at shown
      cases shown
  · rw [Exchange.answerField, Headers.first?_putText_toString] at shown
    exact (Option.some.inj shown).symm

/-! ## The question how far an upload is -/

section Asking

variable {service : Service} {exchange : Exchange} {request : Request}
  {past : List Upshot}

/-- While an upload is looked at its offset is noted. -/
theorem Handling.info_carryOut_obeys
    (silent : exchange.response.headers.first? HeaderName.uploadOffset = none) :
    ((info service).carryOut exchange).Obeys Rules.noting (fun _ => True)
      (fun past result => result.2 = .settled ∧
        result.1.response.ShowsRead exchange.fileId past) past := by
  have gently {α : Type} {attempt : Attempt α} (gentle : attempt.IsGentle)
      {past : List Upshot} {upshot : Upshot} (here : upshot ∈ past) :
      attempt.Obeys Rules.noting (fun _ => True)
        (fun later _ => upshot ∈ later) past :=
    gentle.obeys_noting (fun _ _ => List.mem_append_left _) here
  have asks {asked : Call} (gentle : asked.isGentle = true) :
      (Attempt.call asked).IsGentle := .call gentle
  have first : (Attempt.call (.length exchange.fileId)).Obeys Rules.noting
      (fun _ => True) (fun _ _ => True) past :=
    (asks rfl).obeys_noting (fun _ _ here => here) trivial
  refine .bind first fun past length _ => ?_
  have told : (Attempt.call (.offset exchange.fileId)).Obeys Rules.noting
      (fun _ => True)
      (fun past offset => .called (.offset exchange.fileId) (.ok offset) ∈ past)
      past := by
    refine .call (.offset exchange.fileId) fun reply => ⟨_, rfl, ?_⟩
    cases reply with
    | error failure => trivial
    | ok offset => exact List.mem_append_right _ (List.mem_singleton.2 rfl)
  refine .bind told fun past offset here => ?_
  refine .bind (gently (asks rfl) here) fun past metadata here => ?_
  refine .bind (gently (Requirement.partOf_inquires service _).isGentle here)
    fun past part here => ?_
  refine .bind (gently (Lifetime.current_inquires service _).isGentle here)
    fun past expiry here => ?_
  refine .pure ⟨rfl, fun value shown => ⟨offset, here, ?_⟩⟩
  exact first?_answerInfo silent shown

namespace Protocol

theorem execute_info_obeys
    (silent : exchange.response.headers.first? HeaderName.uploadOffset = none) :
    (execute (Handling.info service) exchange).Obeys Rules.noting
      (fun _ => True)
      (fun past answered => answered.response.ShowsRead exchange.fileId past)
      past := by
  have gently {α : Type} {check : Check α} (gentle : check.IsGentle)
      {past : List Upshot} :
      check.Obeys Rules.noting (fun _ => True) (fun _ _ => True) past := by
    have noted : Attempt.Obeys Rules.noting (fun _ => True) (fun _ _ => True)
        past check.caught :=
      Attempt.IsGentle.obeys_noting gentle (fun _ _ here => here) trivial
    refine noted.mono ?_ fun _ here => here
    intro _ result _
    cases result <;> trivial
  have checks : ((Handling.info service).check exchange).Obeys Rules.noting
      (fun _ => True) (fun _ checked => checked = exchange) past := by
    refine .bind (gently (Requirement.present_inquires exchange).isGentle)
      fun _ _ _ => ?_
    refine .bind (gently (Requirement.alive_inquires service exchange).isGentle)
      fun _ _ _ => ?_
    exact .pure rfl
  refine .bind checks ?_
  rintro past (rejection | checked) here
  · exact .pure (Response.showsRead_of_none silent _ _)
  · obtain rfl : checked = exchange := here
    have proceeds {past : List Upshot} :
        (Pure.pure Verdict.proceed : Attempt Verdict).Obeys Rules.noting
          (fun _ => True)
          (fun later verdict => later = past ∧ verdict = .proceed) past :=
      .pure ⟨rfl, rfl⟩
    refine .bind proceeds ?_
    rintro _ verdict ⟨rfl, rfl⟩
    refine .bind (Handling.info_carryOut_obeys silent) ?_
    rintro past ⟨answered, outcome⟩ ⟨rfl, shows⟩
    refine .bind proceeds ?_
    rintro _ verdict ⟨rfl, rfl⟩
    exact .pure shows

/-- A failure that is settled says nothing of an offset. -/
theorem executeSettled_info_obeys {id : String} (own : exchange.fileId = id)
    (silent : exchange.response.headers.first? HeaderName.uploadOffset = none) :
    (executeSettled (Handling.info service) exchange).Obeys Rules.noting
      (fun _ => True)
      (fun past answered => answered.response.ShowsRead id past) past := by
  subst own
  refine Program.Obeys.map (execute_info_obeys silent) ?_
  rintro past (failure | answered) here
  · cases failure with
    | refused cause | missing id =>
        exact Response.showsRead_of_none silent exchange.fileId past
    | _ => trivial
  · exact here

theorem handleIntent_info_obeys
    (silent : exchange.response.headers.first? HeaderName.uploadOffset = none) :
    (handleIntent .fileInfo (Handling.info service) exchange).Obeys Rules.noting
      (fun _ => True)
      (fun past answered => answered.response.ShowsRead exchange.fileId past)
      past := by
  have asks : (Attempt.tell (.authorize .fileInfo exchange.method exchange.id
      exchange.headers)).Obeys Rules.noting (fun _ => True) (fun _ _ => True)
      past := .tell _ fun _ => ⟨_, rfl, trivial⟩
  have versioned : ((exchange.answerField HeaderName.tusResumable
      protocolVersion).response.headers.first? HeaderName.uploadOffset)
      = none :=
    (Exchange.first?_answerField_of_ne (by decide) _).trans silent
  have advised : (((exchange.answerField HeaderName.tusResumable
      protocolVersion).answerField HeaderName.tusVersion
        protocolVersion).response.headers.first? HeaderName.uploadOffset)
      = none :=
    (Exchange.first?_answerField_of_ne (by decide) _).trans versioned
  refine .bind asks ?_
  intro past verdict _
  split
  · exact .pure (Response.showsRead_of_none rfl _ _)
  · rw [executeVersioned]
    split
    · exact .pure (Response.showsRead_of_none advised _ _)
    · have needless : Intent.fileInfo.needsLease = false := rfl
      rw [needless, if_neg Bool.false_ne_true]
      exact executeSettled_info_obeys rfl versioned

/-- The upload that is addressed by a request. -/
def addressed (service : Service) (request : Request) : String :=
  (Address.uploadId? service.config.urlPath request.path).getD ""

/-- Who asks how far an upload is is told what the store has told. -/
theorem program_shows (service : Service) (request : Request) :
    (program service request).Obeys Rules.noting
      (fun past result => intentsOf service request = [.fileInfo] →
        ∀ response, result = .ok (.respond response) →
        response.ShowsRead (addressed service request) past) [] := by
  by_cases asks : intentsOf service request = [.fileInfo]
  · have told : (handle service request).Obeys Rules.noting (fun _ => True)
        (fun past answer => ∀ response, answer = .respond response →
          response.ShowsRead (addressed service request) past) [] := by
      rw [handle, asks]
      have silent : (Exchange.ofRequest service
          request).response.headers.first? HeaderName.uploadOffset = none := rfl
      refine .bind (handleIntent_info_obeys silent) ?_
      intro past answered shows
      refine .pure ?_
      rintro response ⟨⟩
      exact shows
    refine Program.Obeys.mono told ?_
    rintro past (failure | answer) here - response same
    · cases same
    · exact here response (Except.ok.inj same)
  · refine ((program_obeys service request).noting []).mono ?_
    intro past result _ contrary
    exact absurd contrary asks

end Protocol

end Asking

/-! ## Requests -/

theorem Passage.Follows.change {σ : Type} {rules : Rules σ}
    {ends : σ → Except Failure Answer → Prop} {start state : σ}
    {passage : Passage} (follows : passage.Follows rules ends start state)
    (server : Server) (move : Move) :
    ∃ after, (move.change passage server).1.Follows rules ends start after := by
  cases move with
  | act key =>
      change ∃ after, (passage.act server).1.Follows rules ends start after
      have acts := passage.acts server
      generalize (passage.act server).1 = after, (passage.act server).2 = later
        at acts ⊢
      cases acts with
      | still ended => exact ⟨state, follows⟩
      | finished halt => exact ⟨state, follows.finished halt⟩
      | answered halt performed =>
          rcases follows.answered halt _ _ with ⟨further, -, -, follows⟩
          exact ⟨further, follows⟩
      | @waiting action instead next same client later halt performed =>
          have goesOn := follows.goesOn
          rw [halt] at goesOn
          have comes := server.perform_comesTo passage.client goesOn.1
          rw [performed] at comes
          exact ⟨state, follows.waiting halt comes.1 comes.2 client⟩
      | collapsed halt performed => exact ⟨state, follows.past, trivial⟩
  | hear key news => exact ⟨state, follows.past, follows.goesOn⟩
  | leave key =>
      change ∃ after, (passage.leave server).1.Follows rules ends start after
      rw [leave]
      split
      · exact ⟨state, follows.lost⟩
      · exact ⟨state, follows⟩
      · exact ⟨state, follows⟩
  | arrive request client | elapse milliseconds => exact ⟨state, follows⟩

namespace Traffic

variable {traffic : Traffic} {σ : Type} {rules : Rules σ}
  {ends : Request → σ → Except Failure Answer → Prop} {start : σ}

/-- Every request follows the rules that its program obeys. -/
def Follows (rules : Rules σ)
    (ends : Request → σ → Except Failure Answer → Prop)
    (start : σ) (traffic : Traffic) : Prop :=
  ∀ (key : Nat) (passage : Passage), traffic.passages[key]? = some passage →
    ∃ state, passage.Follows rules (ends passage.request) start state

theorem Follows.move (follows : traffic.Follows rules ends start)
    (orderly : traffic.IsOrderly)
    (obeys : ∀ request, (Protocol.program traffic.server.service request).Obeys
      rules (ends request) start) (move : Move) :
    (traffic.move move).Follows rules ends start := by
  intro key passage present
  cases own : move.key? with
  | some other =>
      rcases orderly.advances own with still | ⟨rival, advances⟩
      · rw [still] at present
        exact follows key passage present
      · by_cases same : other = key
        · subst same
          rw [advances.getElem?_self] at present
          cases present
          rcases follows other rival advances.present with ⟨state, follows⟩
          rw [advances.proceeds.request]
          exact follows.change traffic.server move
        · rw [advances.getElem?_of_ne same] at present
          exact follows key passage present
  | none =>
      cases move with
      | arrive request client =>
          rcases getElem?_arrive present with present | ⟨-, rfl⟩
          · exact follows key passage present
          · exact ⟨start, .begin (obeys request) client⟩
      | elapse milliseconds => exact follows key passage present
      | act | hear | leave => cases own

theorem Follows.run (follows : traffic.Follows rules ends start)
    (orderly : traffic.IsOrderly)
    (obeys : ∀ request, (Protocol.program traffic.server.service request).Obeys
      rules (ends request) start) (moves : List Move) :
    (traffic.run moves).Follows rules ends start := by
  induction moves generalizing traffic with
  | nil => exact follows
  | cons first later hypothesis =>
      refine hypothesis (follows.move orderly obeys first)
        (orderly.move first) ?_
      rw [orderly.service_move]
      exact obeys

/-- Who asks how far an upload is is told what the store has told. -/
theorem run_shows {server : Server} (faultless : server.IsFaultless)
    {moves : List Move} {key : Nat} {passage : Passage}
    (present : ((begin server).run moves).passages[key]? = some passage)
    (asks : Protocol.intentsOf server.service passage.request = [.fileInfo])
    {response : Response}
    (answered : passage.halt = .finished (.ok (.respond response))) :
    response.ShowsRead (Protocol.addressed server.service passage.request)
      passage.past := by
  have nobody : (begin server).Follows Rules.noting
      (fun request past result =>
        Protocol.intentsOf server.service request = [.fileInfo] →
        ∀ response, result = .ok (.respond response) →
        response.ShowsRead (Protocol.addressed server.service request) past)
      [] := fun key passage present => by simp [begin] at present
  rcases nobody.run (begin_isOrderly faultless)
    (Protocol.program_shows server.service) moves key passage present with
    ⟨state, past, goesOn⟩
  rw [Rules.after_noting] at past
  cases past
  rw [answered] at goesOn
  exact goesOn asks response rfl

end Traffic

end ResumableUpload
