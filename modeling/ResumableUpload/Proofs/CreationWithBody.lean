import ResumableUpload.Proofs.Solo.Accounts
import ResumableUpload.Proofs.Solo.Address
import ResumableUpload.Proofs.Solo.Creation
import ResumableUpload.Proofs.Solo.Parallels
/-!
# A creation with a body is a creation and a write

A request that creates an upload and brings a body does what two requests do:
one that creates the upload and brings nothing, and one that writes the body to
it from the beginning.  `Server.visit_creates_and_writes` says so of every
server on which nobody waits, nothing fails and no host watches: the store and
the leases are the same in the end, and the answer is that of the creation, with
the place where the upload ends and the end of its life as the write tells them.

The two ways have different requests, and so the proof is about programs that
are alike.  The creation is the same but for the type of the body, which it does
not look at, and for the client, with which it has nothing to do.  The write is
the same but for a method that overrides its own, which it does not look at
either, and it is made on the same scene.
-/

namespace ResumableUpload

variable {service : Service} {scene after : Scene} {exchange : Exchange}
  {intent : Intent} {handling : Handling} {id : String}

/-! ## What is created -/

/-- What follows an insertion is about the upload that was inserted. -/
theorem Attempt.Inserts.identifies {attempt : Attempt String} {upload : Upload}
    (inserts : attempt.Inserts upload scene)
    {rest : String → Attempt (Exchange × Outcome)}
    (about : ∀ id, (rest id).Gives fun given => given.1.id = some id)
    {given : Exchange × Outcome}
    (ends : (attempt >>= rest).play scene = .finished (.ok given) after) :
    given.1.id = some (Store.idOf scene.store.created) := by
  rcases Attempt.bind_ends ends with
      ⟨_, contrary, -⟩ | ⟨id, middle, created, ends, -⟩
  · cases contrary
  · rcases inserts _ _ created with ⟨_, contrary, -⟩ | ⟨same, -⟩
    · cases contrary
    · cases same
      exact about _ _ _ _ ends

/-- The exchange of a creation is about the upload that the store has added. -/
theorem Handling.carryOut_identifies (creates : intent.creates = true)
    (handled : ofIntent? service intent = some handling) {checked : Exchange}
    {given : Exchange × Outcome}
    (works : (handling.carryOut checked).play scene
      = .finished (.ok given) after) :
    given.1.id = some (Store.idOf scene.store.created) := by
  cases intent with
  | createFile =>
      cases handled
      exact (Attempt.Inserts.create service checked.newLength
        checked.declared.metadataText scene).identifies
          (fun _ => .bind fun _ => .pure rfl) works
  | concatenate =>
      cases handled
      rw [concatenate] at works
      simp only at works
      split at works
      · obtain ⟨content, inserts⟩ := Attempt.Inserts.createJoined service _
          checked.declared.metadataText scene
        exact inserts.identifies (fun _ => .bind fun _ => .pure rfl) works
      · exact (Attempt.Inserts.createPiece service checked.newLength
          checked.declared.metadataText scene).identifies
            (fun _ => .bind fun _ => .pure rfl) works
      · exact (Attempt.Inserts.createPiece service checked.newLength
          checked.declared.metadataText scene).identifies
            (fun _ => .bind fun _ => .pure rfl) works
  | _ => cases creates

namespace Protocol

/-- A creation that is answered as one is about the upload it has created. -/
theorem handleIntent_identifies
    (handled : Handling.ofIntent? service intent = some handling)
    (creates : intent.creates = true) (agrees : scene.HostAgrees)
    {done : Exchange}
    (ends : (handleIntent intent handling exchange).play scene
      = .finished (.ok done) after)
    (status : done.response.status = 201) :
    done.id = some (Store.idOf scene.store.created) := by
  have course := handleIntent_course handled exchange scene
  rw [ends] at course
  cases course.ended with
  | stopped same refused =>
      have := refused agrees done rfl
      omega
  | @carried checked asked told last first checks same sight agreeing carries
      does closes left =>
      rcases Attempt.bind_ends carries with
          ⟨failure, rfl, -⟩ | ⟨⟨worked, outcome⟩, middle, works, -, -⟩
      · have := status_of_settle_error closes.symm
        omega
      · have still := Attempt.play_ends_agrees (agreeing agrees) works
        rcases play_carryOut_of_agrees works still with ⟨_, -, same'⟩
        rw [carries] at same'
        cases same'
        cases closes
        rw [← sight.store]
        exact Handling.carryOut_identifies creates handled works

end Protocol

/-! ## The answers -/

/--
A response that is another one, but for the place where an upload ends and the
end of its life: these are as a second response tells them, if it does.
-/
structure Response.Updates (first second updated : Response) : Prop where
  status : updated.status = first.status
  message : updated.message = first.message
  told : ∀ name ∈ [HeaderName.uploadOffset, HeaderName.uploadExpires],
    ∀ value, second.headers.first? name = some value →
      updated.headers.values name = [value]
  kept : ∀ name, (name ∈ [HeaderName.uploadOffset, HeaderName.uploadExpires] →
      second.headers.first? name = none) →
    updated.headers.values name = first.headers.values name

theorem Headers.values_remove_self (headers : Headers) (name : String) :
    (headers.remove name).values name = [] := by
  rw [remove, values, List.filter_filter, List.map_eq_nil_iff,
    List.filter_eq_nil_iff]
  intro field _
  simp

theorem Headers.values_put_self (headers : Headers) (name : String)
    (value : Bytes) : (headers.put name value).values name = [value] := by
  have gone : (headers.remove name).values name = [] :=
    values_remove_self headers name
  rw [values, List.map_eq_nil_iff] at gone
  rw [put, values, List.filter_append, gone]
  simp

/-- The fields with one value for a name, if there is one to be had. -/
def Headers.putIf (headers : Headers) (name : String) (value? : Option Bytes) :
    Headers :=
  match value? with
  | some value => headers.put name value
  | none => headers

theorem Headers.values_putIf (headers : Headers) (name other : String)
    (value? : Option Bytes) :
    (headers.putIf name value?).values other
      = if other = name then
          (value?.map fun value => [value]).getD (headers.values other)
        else headers.values other := by
  cases value? with
  | none => simp [putIf]
  | some value =>
      by_cases same : other = name
      · subst same
        rw [if_pos rfl]
        exact values_put_self headers other value
      · rw [if_neg same]
        exact values_put same value

/-- The answer to a creation that was followed by a write is updated by it. -/
theorem Protocol.adopt_updates (first second : Response) :
    first.Updates second (adopt first second) := by
  have adopted : (adopt first second).headers
      = (first.headers.putIf HeaderName.uploadOffset
          (second.headers.first? HeaderName.uploadOffset)).putIf
            HeaderName.uploadExpires
            (second.headers.first? HeaderName.uploadExpires) := rfl
  refine ⟨rfl, rfl, ?_, ?_⟩
  · intro name carried value told
    rw [adopted, Headers.values_putIf, Headers.values_putIf]
    simp only [List.mem_cons, List.not_mem_nil, or_false] at carried
    rcases carried with rfl | rfl
    · rw [if_neg (by decide), if_pos rfl, told]
      rfl
    · rw [if_pos rfl, told]
      rfl
  · intro name silent
    rw [adopted, Headers.values_putIf, Headers.values_putIf]
    by_cases expires : name = HeaderName.uploadExpires
    · subst expires
      rw [if_pos rfl, silent (by decide), if_neg (by decide)]
      rfl
    · rw [if_neg expires]
      by_cases offset : name = HeaderName.uploadOffset
      · subst offset
        rw [if_pos rfl, silent (by decide)]
        rfl
      · rw [if_neg offset]

/-! ## The two requests -/

namespace Request

/-- The request without the type of its body, and without fields after it. -/
def withoutBody (request : Request) : Request :=
  { request with
    headers := request.headers.remove HeaderName.contentType
    hasTrailers := false }

/-- The request as a write of its body to an upload, from the beginning. -/
def asWrite (request : Request) (urlPath id : String) : Request where
  method := .patch
  path := addressOf urlPath id
  headers :=
    ((request.headers.remove HeaderName.uploadLength).remove
      HeaderName.methodOverride).put HeaderName.uploadOffset
        (Bytes.ofString "0")
  hasTrailers := request.hasTrailers

end Request

theorem Headers.text?_of_removed {headers : Headers} {name : String}
    (removed : headers.values name = []) : headers.text? name = none := by
  rw [text?, first?_eq_head?, removed]
  rfl

/-- The fields of a write are those of the write that follows a creation. -/
theorem Headers.agreeBut_asWrite (headers : Headers) (value : Bytes) :
    AgreeBut HeaderName.methodOverride
      (((headers.remove HeaderName.uploadLength).remove
        HeaderName.methodOverride).put HeaderName.uploadOffset value)
      ((headers.remove HeaderName.uploadLength).put HeaderName.uploadOffset
        value) := by
  intro other apart
  by_cases offset : other = HeaderName.uploadOffset
  · subst offset
    rw [values_put_self, values_put_self]
  · rw [values_put offset, values_put offset, values_remove apart]

namespace Protocol

variable {request : Request}

/--
Without a body a request asks for the creation alone, if it asks for anything,
and with its body for a write as well.
-/
theorem intentsOf_withoutBody
    (method : request.method.effective request.headers = .post)
    (supported : service.terms.supports .creationWithUpload = true)
    (body : request.headers.announceBody = true) :
    intentsOf service request.withoutBody = [.notApplicable] ∨
      ∃ first : Intent, first.creates = true ∧
        intentsOf service request.withoutBody = [first] ∧
        intentsOf service request = [first, .writeFile] ∧
        request.headers.has HeaderName.tusResumable = true := by
  have agree := Headers.AgreeBut.remove HeaderName.contentType request.headers
  have same : request.method.effective request.withoutBody.headers = .post := by
    rw [← method, Method.effective, Method.effective]
    exact congrArg (fun text : Option String => (text.bind _).getD _)
      (agree.text? (by decide))
  have bare : request.withoutBody.headers.announceBody = false := by
    rw [Headers.announceBody, Request.withoutBody,
      Headers.text?_of_removed (Headers.values_remove_self _ _)]
  have versioned : request.withoutBody.headers.has HeaderName.tusResumable
      = request.headers.has HeaderName.tusResumable :=
    agree.has (by decide)
  have primary (address : Address) :
      Intent.primary service.terms .post address request.withoutBody.headers
        = Intent.primary service.terms .post address request.headers := by
    cases address with
    | base =>
        rw [Intent.primary, Intent.primary]
        rw [show request.withoutBody.headers.has HeaderName.uploadConcat
          = request.headers.has HeaderName.uploadConcat from
            agree.has (by decide)]
    | upload id | elsewhere => rfl
  have alone : intentsOf service request.withoutBody
      = Intent.ofRequest service.terms service.config.urlPath .post
          request.path request.withoutBody.headers := by
    rw [← same]
    rfl
  rw [alone, intentsOf, method, Intent.ofRequest, Intent.ofRequest, versioned,
    primary, bare, body, supported]
  cases request.headers.has HeaderName.tusResumable with
  | false => exact .inl rfl
  | true =>
      rcases creates_primary_of_post service.terms
          (Address.ofPath service.config.urlPath request.path)
          request.headers with none | creates
      · left
        simp [none, Intent.creates]
      · right
        refine ⟨_, creates, ?_, ?_, rfl⟩ <;> simp [creates]

/-- A write is understood as one, if it says which version it follows. -/
theorem intentsOf_asWrite
    (versioned : request.headers.has HeaderName.tusResumable = true)
    (segment : Address.IsSegment id) :
    intentsOf service (request.asWrite service.config.urlPath id)
      = [.writeFile] := by
  have unchanged {name : String} (length : name ≠ HeaderName.uploadLength)
      (override : name ≠ HeaderName.methodOverride)
      (offset : name ≠ HeaderName.uploadOffset) :
      (request.asWrite service.config.urlPath id).headers.values name
        = request.headers.values name :=
    (Headers.values_put offset _).trans
      ((Headers.values_remove override).trans (Headers.values_remove length))
  have method : (request.asWrite service.config.urlPath id).method.effective
      (request.asWrite service.config.urlPath id).headers = .patch := by
    rw [Method.effective, Request.asWrite, Headers.text?_of_removed
      ((Headers.values_put (by decide) _).trans
        (Headers.values_remove_self _ _))]
    rfl
  have follows : (request.asWrite service.config.urlPath id).headers.has
      HeaderName.tusResumable = true := by
    rw [Headers.has_eq_values, unchanged (by decide) (by decide) (by decide),
      ← Headers.has_eq_values, versioned]
  have named : Address.ofPath service.config.urlPath
      (request.asWrite service.config.urlPath id).path = .upload id :=
    Address.ofPath_addressOf segment _
  rw [intentsOf, method, Intent.ofRequest, follows, named]
  rfl

/-! ## The two ways, step by step -/

/-- A creation is the same without a body, whoever the client is. -/
theorem play_creation_of_withoutBody (creates : intent.creates = true)
    (handled : Handling.ofIntent? service intent = some handling)
    (unwatched : scene.IsUnwatched) (client : Client) (news : List News)
    {done : Exchange}
    (ends : (handleIntent intent handling
      (.ofRequest service request.withoutBody)).play scene
        = .finished (.ok done) after) :
    ∃ whole : Exchange,
      (handleIntent intent handling (.ofRequest service request)).play
          (scene.visitedBy client news)
        = .finished (.ok whole) (after.visitedBy client news) ∧
      whole.response = done.response ∧ whole.id = done.id ∧
      whole.headers = request.headers ∧
      whole.hasTrailers = request.hasTrailers ∧ after.IsUnwatched := by
  have agree := Headers.AgreeBut.remove HeaderName.contentType request.headers
  have parallel : handling.IsParallel
      (fun action => action.leavesClient = true)
      (.ofRequest service request.withoutBody) (.ofRequest service request) :=
    Handling.parallel_of_creates creates handled agree.symm
  have unleased : intent.needsLease = false := by
    cases intent with
    | createFile | concatenate => rfl
    | _ => cases creates
  have versions : versionOf (.ofRequest service request)
      = versionOf (.ofRequest service request.withoutBody) :=
    congrArg (Option.getD · "") (agree.symm.text? (by decide))
  have alike := (handleIntent_parallel intent parallel
    (fun needed => by rw [unleased] at needed; cases needed) versions
      (.ofRequest service request.withoutBody)).play
        (Scene.indistinct_isVisitedBy client news) ⟨rfl, unwatched⟩
  change ((handleIntent intent handling (.ofRequest service
    request.withoutBody)).play scene).Alike _ _ ((handleIntent intent handling
      (.ofRequest service request)).play (scene.visitedBy client news)) at alike
  rw [ends] at alike
  generalize (handleIntent intent handling (.ofRequest service request)).play
    (scene.visitedBy client news) = played at alike ⊢
  cases alike with
  | finished values scenes =>
      rcases values with ⟨⟨done⟩⟩
      rcases scenes with ⟨rfl, still⟩
      exact ⟨_, rfl, rfl, rfl, rfl, rfl, still⟩

/-- The write that follows a creation is a write of its own. -/
theorem play_write_of_continueWith (service : Service)
    (headers : exchange.headers = request.headers)
    (trailing : exchange.hasTrailers = request.hasTrailers)
    (segment : Address.IsSegment id) (unwatched : scene.IsUnwatched) :
    ((handleIntent .writeFile (.write service) (.ofRequest service
        (request.asWrite service.config.urlPath id))).play scene).Alike
      Scene.IsSame
      (SameResult (Exchange.Parallel
        (.ofRequest service (request.asWrite service.config.urlPath id))
        (exchange.continueWith id)))
      ((handleIntent .writeFile (.write service)
        (exchange.continueWith id)).play scene) := by
  have agree : Headers.AgreeBut HeaderName.methodOverride
      (request.asWrite service.config.urlPath id).headers
      (exchange.continueWith id).headers := by
    rw [Exchange.continueWith, headers]
    exact Headers.agreeBut_asWrite request.headers _
  have versions : versionOf (exchange.continueWith id)
      = versionOf (.ofRequest service
        (request.asWrite service.config.urlPath id)) :=
    congrArg (Option.getD · "") (agree.text? (by decide))
  have named : Address.uploadId? service.config.urlPath
      (request.asWrite service.config.urlPath id).path = some id :=
    Address.uploadId?_addressOf segment _
  have same : (Exchange.ofRequest service
      (request.asWrite service.config.urlPath id)).under
        (exchange.continueWith id) = exchange.continueWith id := by
    rw [Exchange.under, Exchange.ofRequest, named]
    rfl
  have alike := (handleIntent_parallel .writeFile (Handling.write_parallel
    agree trailing service) (fun _ => rfl) versions (.ofRequest service
      (request.asWrite service.config.urlPath id))).play
        Scene.indistinct_isSame ⟨rfl, unwatched⟩
  rw [Exchange.under_self, same] at alike
  exact alike

/-- A write that follows a creation is played as it would be by itself. -/
theorem play_handleBody (intent : Intent) (handling : Handling)
    (exchange : Exchange) (id : String) (scene : Scene) :
    (handleBody intent handling exchange id).play scene
      = ((handleIntent intent handling (exchange.continueWith id)).play
          scene).andThen fun result after =>
            .finished (.ok (match result with
              | .ok written => adopt exchange.response written.response
              | .error _ => exchange.response)) after := by
  rw [handleBody, Attempt.play_bind, Attempt.play_lift, Played.andThen_assoc]
  rfl

end Protocol

/--
What becomes of a creation with a body, given the answer to the creation alone
and what becomes of the write alone.
-/
inductive Played.Combines (first : Response) :
    Played (Except Failure Answer) → Played (Except Failure Answer) → Prop where
  | answered {second updated : Response} {scene : Scene}
      (updates : first.Updates second updated) :
      Combines first (.finished (.ok (.respond second)) scene)
        (.finished (.ok (.respond updated)) scene)
  | failed (failure : Failure) (scene : Scene) :
      Combines first (.finished (.error failure) scene)
        (.finished (.ok (.respond first)) scene)
  | waiting (scene : Scene) : Combines first (.waiting scene) (.waiting scene)
  | collapsed (scene : Scene) :
      Combines first (.collapsed scene) (.collapsed scene)

namespace Protocol

variable {request : Request}

/-- After a creation the body is written. -/
theorem play_handle_of_creation
    (handled : Handling.ofIntent? service intent = some handling)
    (both : intentsOf service request = [intent, .writeFile])
    (ends : (handleIntent intent handling (.ofRequest service request)).play
      scene = .finished (.ok exchange) after)
    (identified : exchange.id = some id)
    (created : exchange.response.status = 201) :
    (handle service request).play scene
      = ((handleBody .writeFile (.write service) exchange id).play
          after).andThen (Attempt.orFailure fun response last =>
            .finished (.ok (.respond response)) last) := by
  have second : handleSecond service exchange (some .writeFile)
      = handleBody .writeFile (.write service) exchange id := by
    rw [handleSecond.eq_def, identified]
    exact if_pos created
  rw [handle, both]
  simp only [handled]
  rw [Attempt.play_bind, ends, Played.finished_andThen, Attempt.orFailure_ok,
    List.head?_cons, second, Attempt.play_bind]
  rfl

/-- A creation with a body is a creation, and then a write. -/
theorem play_handle_combines
    (method : request.method.effective request.headers = .post)
    (supported : service.terms.supports .creationWithUpload = true)
    (body : request.headers.announceBody = true)
    (unwatched : scene.IsUnwatched) (client : Client) (news : List News)
    {first : Response}
    (ends : (handle service request.withoutBody).play scene
      = .finished (.ok (.respond first)) after)
    (created : first.status = 201) :
    ((handle service (request.asWrite service.config.urlPath
        (Store.idOf scene.store.created))).play
          (after.visitedBy client news)).Combines first
      ((handle service request).play (scene.visitedBy client news)) := by
  rcases intentsOf_withoutBody method supported body with
      nothing | ⟨intent, creates, alone, both, versioned⟩
  · rw [play_handle_of_notApplicable nothing] at ends
    cases ends
  have segment := Store.idOf_isSegment scene.store.created
  obtain ⟨handling, handled⟩ : ∃ handling,
      Handling.ofIntent? service intent = some handling := by
    cases intent with
    | createFile | concatenate => exact ⟨_, rfl⟩
    | _ => cases creates
  rw [play_handle_of_single alone handled] at ends
  rcases Played.andThen_ends ends with ⟨result, middle, handles, ends⟩
  cases result with
  | error failure => cases ends
  | ok done =>
      cases ends
      have identified := handleIntent_identifies handled creates
        (Scene.hostAgrees_of_unwatched unwatched) handles created
      rcases play_creation_of_withoutBody creates handled unwatched client news
          handles with
          ⟨whole, plays, response, id, headers, trailing, still⟩
      rw [play_handle_of_single (intentsOf_asWrite versioned segment) rfl,
        play_handle_of_creation handled both plays (id.trans identified)
          (response ▸ created), play_handleBody, response]
      have still : (after.visitedBy client news).IsUnwatched := still
      have written := play_write_of_continueWith service headers trailing
        segment still
      generalize (handleIntent .writeFile (.write service) (.ofRequest service
        (request.asWrite service.config.urlPath (Store.idOf
          scene.store.created)))).play (after.visitedBy client news) = one
            at written ⊢
      generalize (handleIntent .writeFile (.write service) (whole.continueWith
        (Store.idOf scene.store.created))).play (after.visitedBy client news)
        = two at written ⊢
      cases written with
      | finished values scenes =>
          cases scenes.1
          cases values with
          | ok values =>
              rcases values with ⟨written⟩
              exact .answered (adopt_updates _ _)
          | error failure => exact .failed failure _
      | waiting scenes =>
          cases scenes.1
          exact .waiting _
      | collapsed scenes =>
          cases scenes.1
          exact .collapsed _

end Protocol

theorem Played.Combines.left {first : Response}
    {write both : Played (Except Failure Answer)}
    (combines : write.Combines first both) : both.left = write.left := by
  cases combines <;> rfl

namespace Server

/--
What is said of a creation with a body, given the answer to the creation alone
and what is said of the write alone.
-/
inductive Handled.Combines (first : Response) : Handled → Handled → Prop where
  | answered {second updated : Response}
      (updates : first.Updates second updated) :
      Combines first (.answered (.respond second))
        (.answered (.respond updated))
  | failed (failure : Failure) :
      Combines first (.failed failure) (.answered (.respond first))
  | waiting (write both : Program (Except Failure Answer)) :
      Combines first (.waiting write) (.waiting both)
  | collapsed : Combines first .collapsed .collapsed

theorem Handled.Tells.combines {first : Response}
    {write both : Played (Except Failure Answer)} {one two : Handled}
    (told : one.Tells write) (combines : write.Combines first both)
    (told' : two.Tells both) : one.Combines first two := by
  cases combines with
  | answered updates =>
      cases told
      cases told'
      exact .answered updates
  | failed failure scene =>
      cases told
      cases told'
      exact .failed failure
  | waiting scene =>
      cases told
      cases told'
      exact .waiting _ _
  | collapsed scene =>
      cases told
      cases told'
      exact .collapsed

end Server

namespace Visit

/-- The visit without its body: its request, sent by a client with nothing. -/
def withoutBody (visit : Visit) : Visit where
  request := visit.request.withoutBody

/-- The visit as a write of its body to an upload, from the beginning. -/
def asWrite (visit : Visit) (urlPath id : String) : Visit :=
  { visit with request := visit.request.asWrite urlPath id }

end Visit

namespace Server

variable {server : Server}

/--
On a server on which nobody waits, nothing fails and no host watches, a visit
that creates an upload and brings a body leaves the store and the leases as two
visits do: the same without the body, if that is answered with 201, and then a
write of the body, from the beginning, to the upload that was created.  It is
answered as the first of them, but that the place where the upload ends and the
end of its life are those of the second, if that tells them; whatever else the
second is answered, and even if it fails.
-/
theorem visit_creates_and_writes (quiet : server.IsQuiet)
    (unwatched : ∀ hook, server.hooks hook = none)
    (supported : server.service.terms.supports .creationWithUpload = true)
    {visit : Visit}
    (method : visit.request.method.effective visit.request.headers = .post)
    (body : visit.request.headers.announceBody = true) {first : Response}
    (answered : (server.visit visit.withoutBody).1.response? = some first)
    (created : first.status = 201) :
    let between := (server.visit visit.withoutBody).2.2
    let written := between.visit (visit.asWrite server.service.config.urlPath
      (Store.idOf server.store.created))
    (server.visit visit).2.2.store = written.2.2.store ∧
      (server.visit visit).2.2.locks = written.2.2.locks ∧
      written.1.Combines first (server.visit visit).1 := by
  intro between written
  obtain ⟨after, ends⟩ := quiet.play_of_response? answered
  obtain ⟨-, still, news, seen⟩ := quiet.visit_depicts visit.withoutBody
  have service : between.service = server.service :=
    (quiet.visit_succeeds visit.withoutBody).service
  have scene : between.scene visit.client visit.news
      = after.visitedBy visit.client visit.news := by
    change _ = Played.left ((Protocol.handle server.service
      visit.withoutBody.request).play (server.scene {} [])) at seen
    have ended : Played.left ((Protocol.handle server.service
        visit.withoutBody.request).play (server.scene {} [])) = after :=
      congrArg Played.left ends
    rw [← ended, ← seen]
    rfl
  have hosted : (server.scene {} []).IsUnwatched := unwatched
  have combines := Protocol.play_handle_combines method supported body hosted
    visit.client visit.news ends created
  have wrote := still.visit_depicts (visit.asWrite
    server.service.config.urlPath (Store.idOf server.store.created))
  have both := quiet.visit_depicts visit
  change VisitDepicts written ((Protocol.handle between.service
    (visit.request.asWrite server.service.config.urlPath
      (Store.idOf server.store.created))).play
        (between.scene visit.client visit.news)) at wrote
  rw [service, scene] at wrote
  refine ⟨?_, ?_, wrote.tells.combines combines both.tells⟩
  · rw [both.store, wrote.store]
    exact congrArg Scene.store combines.left
  · rw [both.locks, wrote.locks]
    exact congrArg Scene.locks combines.left

/-- A visit that creates an upload of five bytes and brings all of them. -/
def creatingWhole : Visit :=
  { Visit.creating
      [(HeaderName.uploadLength, "5"), (HeaderName.contentType, bodyType)] with
    client := { body := [.data (Bytes.ofString "hello")] } }

/-- So an upload that is created with all its bytes is complete either way. -/
theorem visit_creates_and_writes_whole :
    let between := (Server.visit {} creatingWhole.withoutBody).2.2
    let written := between.visit (creatingWhole.asWrite "/files" "~0~")
    ∃ first, (Server.visit {} creatingWhole.withoutBody).1.response?
        = some first ∧ first.status = 201 ∧
      (Server.visit {} creatingWhole).2.2.store = written.2.2.store ∧
      written.2.2.store.HasComplete "~0~" ∧
      written.1.Combines first (Server.visit {} creatingWhole).1 := by
  intro between written
  have quiet : IsQuiet {} := ⟨rfl, fun _ => rfl⟩
  have status : (Server.visit {}
      creatingWhole.withoutBody).1.response?.map (·.status) = some 201 := by
    decide +kernel
  rcases Option.map_eq_some_iff.1 status with ⟨first, answered, created⟩
  rcases visit_creates_and_writes quiet (fun _ => rfl) (by decide +kernel)
      (by decide +kernel) (by decide +kernel) answered created with
      ⟨store, -, combines⟩
  have complete : (written.2.2.store.find? "~0~").map (·.isComplete)
      = some true := by
    decide +kernel
  exact ⟨first, answered, created, store, Option.map_eq_some_iff.1 complete,
    combines⟩

end Server

end ResumableUpload
