import ResumableUpload.Proofs.Solo.Creation
import ResumableUpload.Proofs.Solo.Joining
/-!
# Concatenation is exact

A request that joins uploads either joins exactly those that it names, in the
order and as often as it names them, or does nothing; and it is answered with
201 in the first case only.  `Server.visit_joins` says which of the two it is,
of every store that numbers its uploads: those of all servers that have begun
with an empty store do, and so do those in which uploads are being written.

A request that joins uploads may bring a body.  The write that follows the
creation is rejected then, because what others were joined to is full.
-/

namespace ResumableUpload

variable {service : Service} {exchange : Exchange} {scene : Scene}
  {ids : List String}

/-- Uploads can be joined only where that is on offer. -/
theorem Intent.supports_of_concatenate {terms : Terms} {urlPath path : String}
    {method : Method} {headers : Headers}
    (asked : (ofRequest terms urlPath method path headers).head?
      = some .concatenate) : terms.supports .concatenation = true := by
  have primary : primary terms method (Address.ofPath urlPath path) headers
      = .concatenate := by
    rw [ofRequest] at asked
    split at asked
    · cases asked
    · simp only at asked
      split at asked <;> exact Option.some.inj asked
  rw [Intent.primary.eq_def] at primary
  split at primary
  · split at primary
    · exact (Bool.and_eq_true_iff.1 ‹_›).2
    · split at primary <;> cases primary
  all_goals first | cases primary | (split at primary <;> cases primary)

/-- A request that asks, in the right version, to join some uploads. -/
structure Request.Joins (request : Request) (service : Service)
    (ids : List String) : Prop where
  method : request.method.effective request.headers = .post
  asked : (Protocol.intentsOf service request).head? = some .concatenate
  version : request.headers.text? HeaderName.tusResumable
    = some protocolVersion
  names : request.headers.NamesPieces service ids

namespace Protocol

/-- The upload that some uploads of a store are joined to. -/
def joiningOf (store : Store) (headers : Headers) (ids : List String) :
    Upload :=
  .joining ids headers.metadataText? (store.contents ids)

/--
How a concatenation ends: with a new upload, if that may be created, and
otherwise without a trace.
-/
inductive JoinEnds (service : Service) (scene : Scene) (headers : Headers)
    (ids : List String) : Exchange → Scene → Prop where
  | joined {done : Exchange} {after : Scene}
      (may : service.MayJoin scene.store headers ids)
      (status : done.response.status = 201)
      (id : done.id = some (Store.idOf scene.store.created))
      (store : after.store
        = (scene.store.insert (joiningOf scene.store headers ids)).2) :
      JoinEnds service scene headers ids done after
  | refused {done : Exchange} {after : Scene}
      (may : ¬service.MayJoin scene.store headers ids)
      (status : done.response.status ≠ 201)
      (store : after.store = scene.store) :
      JoinEnds service scene headers ids done after

/-- A concatenation is executed, or what is wrong with it is answered. -/
theorem executeSettled_joins (agrees : scene.HostAgrees)
    (numbered : scene.store.IsNumbered)
    (supported : service.terms.supports .concatenation = true)
    (names : exchange.headers.NamesPieces service ids)
    (fresh : exchange.declared.metadataText = none)
    (counted : scene.store.lengths ids ≤ Budget.ceiling) :
    ∃ done after,
      (executeSettled (Handling.concatenate service) exchange).play scene
        = .finished (.ok done) after ∧
      after.HostAgrees ∧
      JoinEnds service scene exchange.headers ids done after := by
  have decides := Handling.concatenate_check_decides supported counted names
    fresh
  rw [play_executeSettled, play_execute]
  by_cases may : service.MayJoin scene.store exchange.headers ids
  · rcases decides.passes may with ⟨checked, ⟨part, text⟩, checks⟩
    rcases play_afterCheck_of_agrees agrees (Handling.concatenate service)
        exchange checked with ⟨told, rest, executed⟩
    have there : ∀ id ∈ ids, told.store.has id = true := by
      intro id listed
      rcases may.joinable.pieces id listed with ⟨upload, found, -⟩
      rw [rest.told.store]
      exact Store.has_of_find? found
    rw [← rest.told.store] at numbered
    have works := Handling.play_createJoined supported there numbered checked
    have joins : (Handling.concatenate service).carryOut checked
        = Handling.createJoined service checked ids := by
      rw [Handling.concatenate]
      simp only [part]
    rw [← joins] at works
    rcases play_carryOut_of_agrees works rest.agrees with ⟨after, last, ends⟩
    refine ⟨Handling.answerCreated service checked
      (Store.idOf told.store.created) none, after, ?_, last.agrees,
      .joined may rfl ?_ ?_⟩
    · rw [checks, Played.finished_andThen, Attempt.orFailure_ok, executed, ends]
      rfl
    · rw [← rest.told.store]
      rfl
    · rw [last.told.store, joiningOf, ← text, ← rest.told.store]
  · rcases decides.rejects may with ⟨rejection, rejects⟩
    refine ⟨exchange.reject rejection, scene, ?_, agrees, .refused may ?_ rfl⟩
    · rw [rejects]
      rfl
    · have blames := rejection.le_status
      change rejection.status ≠ 201
      omega

/-- So it is with the intent, in the right version. -/
theorem handleIntent_joins (agrees : scene.HostAgrees)
    (numbered : scene.store.IsNumbered)
    (supported : service.terms.supports .concatenation = true)
    (exchange : Exchange) (version : versionOf exchange = protocolVersion)
    (names : exchange.headers.NamesPieces service ids)
    (fresh : exchange.declared.metadataText = none)
    (counted : scene.store.lengths ids ≤ Budget.ceiling) :
    ∃ done after,
      (handleIntent .concatenate (Handling.concatenate service) exchange).play
        scene = .finished (.ok done) after ∧
      after.HostAgrees ∧
      JoinEnds service scene exchange.headers ids done after := by
  rcases play_handleIntent_of_agrees agrees .concatenate
      (Handling.concatenate service) exchange with ⟨told, rest, handled⟩
  have names : (versioned exchange).headers.NamesPieces service ids := names
  rw [handled, executeVersioned_of_version version, if_neg (by decide)]
  rw [← rest.told.store] at numbered counted
  rcases executeSettled_joins rest.agrees numbered supported names fresh
      counted with ⟨done, after, ends, still, joins⟩
  refine ⟨done, after, ends, still, ?_⟩
  cases joins with
  | joined may status id store =>
      rw [rest.told.store] at may id store
      exact .joined may status id store
  | refused may status store =>
      rw [rest.told.store] at may store
      exact .refused may status store

/-- What has not been created is not written. -/
theorem handleSecond_of_not_created
    (status : exchange.response.status ≠ 201) (second? : Option Intent) :
    handleSecond service exchange second? = pure exchange.response := by
  rw [handleSecond.eq_def]
  split
  · rw [if_neg status]
  · rfl

/-- A body that follows a concatenation changes neither store nor status. -/
theorem handleSecond_joined {store : Store} {headers : Headers}
    {second? : Option Intent} (agrees : scene.HostAgrees)
    (supported : service.terms.supports .concatenation = true)
    (numbered : store.IsNumbered) (status : exchange.response.status = 201)
    (id : exchange.id = some (Store.idOf store.created))
    (left : scene.store = (store.insert (joiningOf store headers ids)).2)
    (writes : second? = none ∨ second? = some .writeFile) :
    ∃ response after,
      (handleSecond service exchange second?).play scene
        = .finished (.ok response) after ∧
      response.status = 201 ∧ after.store = scene.store := by
  rcases writes with rfl | rfl
  · exact ⟨exchange.response, scene, rfl, status, rfl⟩
  · have found : scene.store.find? (Store.idOf store.created)
        = some (joiningOf store headers ids) := by
      rw [left, Store.find?_insert, numbered.find?_next (Nat.le_refl _),
        Option.none_or, if_pos rfl]
    rcases play_handleBody_of_joined agrees supported found rfl rfl exchange
        with ⟨response, after, ends, same, kept⟩
    refine ⟨response, after, ?_, same.trans status, kept⟩
    rw [handleSecond.eq_def, id]
    change (if exchange.response.status = 201 then
        handleBody .writeFile (Handling.write service) exchange
          (Store.idOf store.created)
      else pure exchange.response).play scene = _
    rw [if_pos status, ends]

/-- A concatenation is answered with 201 exactly if it has been done. -/
theorem handle_joins {request : Request} (agrees : scene.HostAgrees)
    (numbered : scene.store.IsNumbered) (joins : request.Joins service ids)
    (counted : scene.store.lengths ids ≤ Budget.ceiling) :
    ∃ response after,
      (handle service request).play scene
        = .finished (.ok (.respond response)) after ∧
      (response.status = 201 ↔
        service.MayJoin scene.store request.headers ids) ∧
      after.store = if response.status = 201 then
          (scene.store.insert (joiningOf scene.store request.headers ids)).2
        else scene.store := by
  rcases intentsOf_of_post joins.method service with
      ⟨first, later, intents, -, writes⟩
  have asked := joins.asked
  rw [intents] at asked
  cases asked
  have supported : service.terms.supports .concatenation = true :=
    Intent.supports_of_concatenate joins.asked
  have version : versionOf (.ofRequest service request) = protocolVersion := by
    change (request.headers.text? HeaderName.tusResumable).getD "" = _
    rw [joins.version]
    rfl
  rcases handleIntent_joins agrees numbered supported
      (.ofRequest service request) version joins.names rfl counted with
      ⟨done, middle, ends, still, joins⟩
  have handles : (handle service request).play scene
      = ((handleSecond service done later.head?).play middle).andThen
          (Attempt.orFailure fun response after =>
            .finished (.ok (.respond response)) after) := by
    rw [handle, intents]
    change (handleIntent .concatenate (Handling.concatenate service)
      (.ofRequest service request) >>= fun exchange =>
        handleSecond service exchange later.head? >>= fun response =>
          pure (Answer.respond response)).play scene = _
    rw [Attempt.play_bind, ends, Played.finished_andThen, Attempt.orFailure_ok,
      Attempt.play_bind]
    rfl
  rw [handles]
  cases joins with
  | refused may status store =>
      rw [handleSecond_of_not_created status]
      refine ⟨done.response, middle, rfl, iff_of_false status may, ?_⟩
      rw [if_neg status, store]
  | joined may status id store =>
      rcases handleSecond_joined still supported numbered status id store
          writes with ⟨response, after, second, same, left⟩
      refine ⟨response, after, ?_, iff_of_true same may, ?_⟩
      · rw [second]
        rfl
      · rw [if_pos same, left, store]
        rfl

end Protocol

namespace Server

variable {server : Server}

/--
On a quiet server whose host agrees a request that joins uploads is answered,
and with 201 exactly if all of them are there, are pieces and complete, are
together not too large, no length is given and the metadata is understood.
Then there is one upload more, under an id of its own, which has their contents
one after another, the size of that for its length, and no end of its life.
Otherwise there is none, and every upload that was there is as it was, whatever
the body of the request is.
-/
theorem visit_joins (quiet : server.IsQuiet) (agrees : server.HostAgrees)
    (numbered : server.store.IsNumbered) {visit : Visit}
    (joins : visit.request.Joins server.service ids)
    (counted : server.store.lengths ids ≤ Budget.ceiling) :
    ∃ response, (server.visit visit).1.response? = some response ∧
      (response.status = 201 ↔
        server.service.MayJoin server.store visit.request.headers ids) ∧
      (server.visit visit).2.2.store = if response.status = 201 then
          (server.store.insert (.joining ids visit.request.headers.metadataText?
            (server.store.contents ids))).2
        else server.store := by
  have hosted : (server.scene visit.client visit.news).HostAgrees := agrees
  have numbered : (server.scene visit.client visit.news).store.IsNumbered :=
    numbered
  rcases Protocol.handle_joins hosted numbered joins counted with
      ⟨response, after, plays, exact, store⟩
  refine ⟨response, quiet.visit_response? plays, exact, ?_⟩
  rw [quiet.visit_store, plays]
  exact store

/-- A server with two pieces that are complete. -/
def holdingPieces : Server where
  store :=
    ((Store.insert {}
        { content := Bytes.ofString "ab", length := some 2, part := .piece }).2
      |>.insert
        { content := Bytes.ofString "cd", length := some 2, part := .piece }).2

/-- A visit that joins the pieces, one of them twice, and brings a body. -/
def joiningVisit : Visit :=
  { Visit.creating
      [(HeaderName.uploadConcat, "final;/files/~1~ /files/~0~ /files/~1~"),
        (HeaderName.contentType, bodyType)] with
    client := { body := [.data (Bytes.ofString "ef")] } }

/-- So the contents of pieces are joined in order, and the body is left out. -/
theorem visit_joins_twice :
    ∃ response, (holdingPieces.visit joiningVisit).1.response? = some response ∧
      response.status = 201 ∧
      (holdingPieces.visit joiningVisit).2.2.store
        = (holdingPieces.store.insert
            (.joining ["~1~", "~0~", "~1~"] none
              (Bytes.ofString "cdabcd"))).2 := by
  have quiet : holdingPieces.IsQuiet := ⟨rfl, fun _ => rfl⟩
  have joins : joiningVisit.request.Joins holdingPieces.service
      ["~1~", "~0~", "~1~"] :=
    ⟨by decide +kernel, by decide +kernel, by decide +kernel,
      by decide +kernel⟩
  have may : holdingPieces.service.MayJoin holdingPieces.store
      joiningVisit.request.headers ["~1~", "~0~", "~1~"] := by
    decide +kernel
  rcases visit_joins quiet (fun _ _ watched => by cases watched)
      ((Store.IsNumbered.empty.insert _).insert _) joins (by decide +kernel)
      with ⟨response, answered, exact, store⟩
  have status := exact.2 may
  refine ⟨response, answered, status, ?_⟩
  rw [store, if_pos status]
  have contents : holdingPieces.store.contents ["~1~", "~0~", "~1~"]
      = Bytes.ofString "cdabcd" := by
    decide +kernel
  rw [contents]
  rfl

end Server

end ResumableUpload
