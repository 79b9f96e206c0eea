import ResumableUpload.Proofs.Concatenations
import ResumableUpload.Proofs.Independence
import ResumableUpload.Proofs.Solo.Rejecting
/-!
# Uploads whose life is over

An upload stays in the store when its life is over, until it is removed.  To a
request that names it in its path it is gone all the same: the answer is the one
that is given where there is no such upload, and nothing is changed.

Whoever asks to join uploads is asked for other things: the uploads have to be
there, to be meant for that and to be complete, and nobody asks whether they are
alive.  Where one of them is not so, the request is refused as it would be
without the upload whose life is over, but for the words of the refusal, because
these say which requirement was looked at first.  Where all are, the upload is
joined with the others as long as it is stored; `joins_overdue` is an example.
`Server.visit_misses_overdue` says what holds apart from that, of every quiet
server and whatever host watches there.
-/

namespace ResumableUpload

variable {service : Service} {request : Request} {id : String}
  {ids : List String}

/-- A request that asks to join some uploads. -/
structure Request.WouldJoin (request : Request) (service : Service)
    (ids : List String) : Prop where
  asked : (Protocol.intentsOf service request).head? = some .concatenate
  names : request.headers.NamesPieces service ids

/-- A request that asks to join uploads names none in its path. -/
theorem Request.WouldJoin.uploadId? (joins : request.WouldJoin service ids) :
    Address.uploadId? service.config.urlPath request.path = none := by
  have asked := joins.asked
  cases named : Address.uploadId? service.config.urlPath request.path with
  | none => rfl
  | some id =>
      rcases Protocol.intentsOf_of_upload named with
          nothing | ⟨intent, _, single, names, -⟩
      · rw [nothing] at asked
        cases asked
      · rw [single] at asked
        cases asked
        cases names

/-- The same answer but for its words. -/
inductive Answer.SameButWords : Answer → Answer → Prop where
  | passOn : SameButWords .passOn .passOn
  | respond (response : Response) (message? : Option String) :
      SameButWords (.respond response)
        (.respond { response with message := message? })

/-- Exchanges about no upload whose answers are the same but for their words. -/
def Exchange.SameButWords (one two : Exchange) : Prop :=
  one.id = none ∧ ∃ message?, two = { one with
    response := { one.response with message := message? } }

namespace Protocol

variable {now : Instant} {one two : Store} {first second : Scene}

/-- A request that names an upload is handled alike wherever that is missed. -/
theorem play_handle_missed
    (named : Address.uploadId? service.config.urlPath request.path = some id)
    (supported : service.terms.supports .expiration = true)
    (misses : ∀ scene : Scene, scene.clock = now →
      scene.store = one ∨ scene.store = two → scene.Misses id)
    (scenes : Scene.Restocked now one two first second) :
    ((handle service request).play first).Alike (Scene.Restocked now one two)
      Eq ((handle service request).play second) := by
  have about : (versioned (Exchange.ofRequest service request)).IsAbout id :=
    congrArg (Option.getD · "") named
  rcases intentsOf_of_upload named with
      nothing | ⟨intent, handling, asked, names, handled⟩
  · rw [play_handle_of_notApplicable nothing,
      play_handle_of_notApplicable nothing]
    exact .finished rfl scenes
  · obtain ⟨rejection, rejected⟩ :=
      Handling.rejects_missed names handled supported about
    have rejects : handling.RejectsOn
        (versioned (.ofRequest service request)) Eq now one two :=
      ⟨fun _ => rfl, (· = rejection), by rintro _ _ rfl rfl; rfl,
        fun scene clock store => rejected scene (misses scene clock store)⟩
    rw [play_handle_of_single asked handled,
      play_handle_of_single asked handled]
    refine (play_handleIntent_restocked rejects intent scenes).andThen ?_
    rintro _ _ _ _ (rfl | failure) scenes
    · exact .finished rfl scenes
    · exact .finished rfl scenes

/-- Nothing is written to an upload that is not known. -/
theorem handleSecond_of_anonymous {exchange : Exchange}
    (anonymous : exchange.id = none) (second? : Option Intent) :
    handleSecond service exchange second? = pure exchange.response := by
  rw [handleSecond.eq_def]
  split
  · cases anonymous.symm.trans ‹exchange.id = some _›
  · rfl

/-- A request to join what cannot be joined is refused on either store. -/
theorem play_handle_unjoinable (joins : request.WouldJoin service ids)
    (lacks : ¬∀ id ∈ ids, one.HasPiece id)
    (lacks' : ¬∀ id ∈ ids, two.HasPiece id)
    (scenes : Scene.Restocked now one two first second) :
    ((handle service request).play first).Alike (Scene.Restocked now one two)
      (SameResult Answer.SameButWords)
      ((handle service request).play second) := by
  have supported : service.terms.supports .concatenation = true :=
    Intent.supports_of_concatenate joins.asked
  obtain ⟨rest, asked⟩ := List.head?_eq_some_iff.1 joins.asked
  have anonymous : (Exchange.ofRequest service request).id = none :=
    joins.uploadId?
  have names : (versioned (.ofRequest service request)).headers.NamesPieces
      service ids := joins.names
  have rejects : (Handling.concatenate service).RejectsOn
      (versioned (.ofRequest service request)) Exchange.SameButWords now one
      two := by
    refine ⟨fun _ => ⟨anonymous, _, rfl⟩, (·.status = 400), ?_, ?_⟩
    · intro rejection other status status'
      refine ⟨anonymous, other.message?, ?_⟩
      rw [Exchange.reject, Exchange.reject, status, status']
      rfl
    · rintro scene - (store | store)
      · exact Handling.concatenate_rejects supported names (store ▸ lacks)
      · exact Handling.concatenate_rejects supported names (store ▸ lacks')
  rw [handle, asked]
  simp only [Handling.ofIntent?]
  rw [Attempt.play_bind, Attempt.play_bind]
  refine (play_handleIntent_restocked rejects .concatenate scenes).orFailure ?_
  rintro done _ _ _ ⟨anonymous, message?, rfl⟩ scenes
  have anonymous' : ({ done with response :=
      { done.response with message := message? } } : Exchange).id = none :=
    anonymous
  rw [handleSecond_of_anonymous anonymous,
    handleSecond_of_anonymous anonymous']
  exact .finished (.ok (.respond _ _)) scenes

end Protocol

namespace Server

/-- What is said of two requests is the same but for the words of an answer. -/
inductive Handled.SameButWords : Handled → Handled → Prop where
  | same {one two : Handled} (same : one.Same two) : SameButWords one two
  | worded {one two : Answer} (answers : one.SameButWords two) :
      SameButWords (.answered one) (.answered two)

theorem Handled.Tells.sameButWords {near : Scene → Scene → Prop}
    {one two : Played (Except Failure Answer)} {first second : Handled}
    (told : first.Tells one) (told' : second.Tells two)
    (alike : one.Alike near (SameResult Answer.SameButWords) two) :
    first.SameButWords second := by
  cases alike with
  | finished results _ =>
      cases results with
      | ok answers =>
          cases told
          cases told'
          exact .worded answers
      | error failure =>
          cases told
          cases told'
          exact .same (.failed failure)
  | waiting _ =>
      cases told
      cases told'
      exact .same (.waiting _ _)
  | collapsed _ =>
      cases told
      cases told'
      exact .same .collapsed

/-- The server without an upload. -/
def without (server : Server) (id : String) : Server :=
  { server with store := server.store.erase id }

/--
For a request that names an upload in its path the upload is gone when its life
is over: what is said of the request is the same as if there were no such
upload, and nothing is changed.  The same, but for the words of the answer, is
true of a request that asks to join uploads of which this is one, unless all of
them are pieces and complete.
-/
theorem visit_misses_overdue {server : Server} (quiet : server.IsQuiet)
    (supported : server.service.terms.supports .expiration = true)
    (readable : server.clock.isReadable = true) {upload : Upload}
    (found : server.store.find? id = some upload)
    (past : upload.isOver server.clock = true) (visit : Visit) :
    (visit.uploadId? server.service = some id →
      (server.visit visit).1.Same ((server.without id).visit visit).1 ∧
        (server.visit visit).2.2.store = server.store) ∧
    ∀ ids, visit.request.WouldJoin server.service ids → id ∈ ids →
      ¬(∀ other ∈ ids, server.store.HasPiece other) →
        (server.visit visit).1.SameButWords
            ((server.without id).visit visit).1 ∧
          (server.visit visit).2.2.store = server.store := by
  have gone : (server.without id).store.find? id = none := by
    rw [without, Store.find?_erase, if_pos rfl]
  have quiet' : (server.without id).IsQuiet := ⟨quiet.idle, quiet.faultless⟩
  have depicts := quiet.visit_depicts visit
  have depicts' := quiet'.visit_depicts visit
  have scenes : Scene.Restocked server.clock server.store
      (server.without id).store (server.scene visit.client visit.news)
      ((server.without id).scene visit.client visit.news) := ⟨rfl, rfl, rfl⟩
  rw [depicts.store, Played.left_store]
  constructor
  · intro named
    have misses (scene : Scene) (clock : scene.clock = server.clock)
        (store : scene.store = server.store ∨
          scene.store = (server.without id).store) : scene.Misses id := by
      refine ⟨clock ▸ readable, fun other present => ?_⟩
      rcases store with store | store
      · rw [store, found] at present
        cases present
        exact clock ▸ past
      · rw [store, gone] at present
        cases present
    have alike := Protocol.play_handle_missed named supported misses scenes
    exact ⟨depicts.tells.same depicts'.tells alike, alike.scenes.store⟩
  · intro ids joins listed lacks
    have lacks' : ¬∀ other ∈ ids, (server.without id).store.HasPiece other := by
      intro pieces
      obtain ⟨upload, present, -⟩ := pieces id listed
      rw [gone] at present
      cases present
    have alike := Protocol.play_handle_unjoinable joins lacks lacks' scenes
    exact ⟨depicts.tells.sameButWords depicts'.tells alike, alike.scenes.store⟩

/-! ## An example -/

/--
Two pieces whose lives have ended a minute after their creation: the first is
complete, and of the second nothing has arrived.
-/
def overdue : Server :=
  ({ service := { config := { expiration := some (.absolute 60) } } }
    : Server).live
      [.visit (.creating [(HeaderName.uploadConcat, "partial"),
          (HeaderName.uploadLength, "5")]),
        .visit (.writing "0" "hello" []),
        .visit (.creating [(HeaderName.uploadConcat, "partial"),
          (HeaderName.uploadLength, "5")]),
        .elapse 120000]

/-- A visit that asks how far the first upload of a store is. -/
def askingFirst : Visit where
  request :=
    { method := .head
      path := "/files/~0~"
      headers := .ofTexts [(HeaderName.tusResumable, protocolVersion)] }

/-- A visit that joins one upload. -/
def joiningOne (path : String) : Visit :=
  .creating [(HeaderName.uploadConcat, "final;" ++ path)]

/--
So nobody is told how far the first piece is, and the second cannot be joined.
-/
theorem visit_misses_overdue_pieces :
    (overdue.visit askingFirst).1.response?.map (·.status) = some 404 ∧
      (overdue.visit askingFirst).1.Same
        ((overdue.without "~0~").visit askingFirst).1 ∧
      (overdue.visit (joiningOne "/files/~1~")).1.response?.map (·.status)
        = some 400 ∧
      (overdue.visit (joiningOne "/files/~1~")).1.SameButWords
        ((overdue.without "~1~").visit (joiningOne "/files/~1~")).1 := by
  have began : IsQuiet
      { service := { config := { expiration := some (.absolute 60) } } } :=
    ⟨rfl, fun _ => rfl⟩
  have quiet : overdue.IsQuiet := (began.live_succeeds _).quiet
  have supported : overdue.service.terms.supports .expiration = true := by
    decide +kernel
  have readable : overdue.clock.isReadable = true := by decide +kernel
  have first : (overdue.store.find? "~0~").map (·.isOver overdue.clock)
      = some true := by decide +kernel
  have second : (overdue.store.find? "~1~").map (·.isOver overdue.clock)
      = some true := by decide +kernel
  obtain ⟨one, found, past⟩ := Option.map_eq_some_iff.1 first
  obtain ⟨two, found', past'⟩ := Option.map_eq_some_iff.1 second
  have missed := visit_misses_overdue quiet supported readable found past
    askingFirst
  have refused := visit_misses_overdue quiet supported readable found' past'
    (joiningOne "/files/~1~")
  have joins : (joiningOne "/files/~1~").request.WouldJoin overdue.service
      ["~1~"] := ⟨by decide +kernel, by decide +kernel⟩
  have unfinished : overdue.store.find? "~1~"
      = some { length := some 5, part := .piece,
               expiry := some { seconds := 60 } } := by decide +kernel
  refine ⟨by decide +kernel, (missed.1 (by decide +kernel)).1,
    by decide +kernel, (refused.2 ["~1~"] joins (by decide) ?_).1⟩
  intro pieces
  obtain ⟨piece, present, -, full⟩ := pieces "~1~" (by decide)
  cases unfinished.symm.trans present
  cases full

/--
But the first piece is joined although its life is over: what it is joined to
has its bytes, and without the piece the request would be refused.  What the
refusal says of the second depends on whether it is there.
-/
theorem joins_overdue :
    let joined := overdue.visit (joiningOne "/files/~0~")
    let refused := overdue.visit (joiningOne "/files/~1~")
    (overdue.store.find? "~0~").map (·.isOver overdue.clock) = some true ∧
      joined.1.response?.map (·.status) = some 201 ∧
      (joined.2.2.store.find? "~2~").map (·.content)
        = some (Bytes.ofString "hello") ∧
      ((overdue.without "~0~").visit
        (joiningOne "/files/~0~")).1.response?.map (·.status) = some 400 ∧
      (overdue.store.find? "~1~").map (·.isOver overdue.clock) = some true ∧
      refused.1.response?.bind (·.message)
        = Rejection.pieceUnfinished.message? ∧
      ((overdue.without "~1~").visit
        (joiningOne "/files/~1~")).1.response?.bind (·.message)
        = Rejection.pieceMissing.message? := by
  decide +kernel

end Server

end ResumableUpload
