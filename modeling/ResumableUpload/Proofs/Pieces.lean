import ResumableUpload.Proofs.Announcements
import ResumableUpload.Proofs.Lifetimes
/-!
# Pieces that are complete

A piece, an upload that is to be joined with others, is no file of its own.  Yet
a write does not look at what part an upload plays: if the last byte of a piece
is written, the host is told that the piece is complete, as it is of any other
upload.  Where a piece is created the host is not told so, even if the piece is
empty and has all its bytes from the beginning.

`Server.live_announces_pieces` says both: a piece is announced only by a visit
that has appended to it, and a write that is accepted announces what it has
completed, whatever that is.
-/

namespace ResumableUpload

variable {service : Service} {exchange checked : Exchange}
  {scene after : Scene} {id : String}

open Act (completions)

/-- There is an upload under an id that is to be joined with others. -/
def Store.HoldsPiece (store : Store) (id : String) : Prop :=
  ∃ upload, store.find? id = some upload ∧ upload.part = .piece

/-- An act by which what a client sends has been appended to an upload. -/
inductive Act.Appends (id : String) : Act → Prop where
  | appended (route : Route) (count : Nat) (store : Store) :
      Appends id ⟨.append id route, some (.ok count), store⟩

/-- Pieces are announced only where something has been appended to them. -/
def Act.AnnounceWritten (acts : List Act) : Prop :=
  ∀ id moment, (id, moment) ∈ completions acts → moment.HoldsPiece id →
    ∃ act ∈ acts, act.Appends id

namespace Act.AnnounceWritten

variable {acts earlier later : List Act}

theorem of_silent (silent : completions acts = []) : AnnounceWritten acts := by
  intro id moment told
  rw [silent] at told
  cases told

theorem append (first : AnnounceWritten earlier)
    (second : AnnounceWritten later) : AnnounceWritten (earlier ++ later) := by
  intro id moment told piece
  rw [completions_append] at told
  rcases List.mem_append.1 told with here | there
  · obtain ⟨act, present, appends⟩ := first id moment here piece
    exact ⟨act, List.mem_append_left _ present, appends⟩
  · obtain ⟨act, present, appends⟩ := second id moment there piece
    exact ⟨act, List.mem_append_right _ present, appends⟩

/-- Of two attempts the second begins where the first has ended well. -/
theorem bind {α β : Type} {attempt : Attempt α} {rest : α → Attempt β}
    (first : AnnounceWritten (attempt.actsOn scene))
    (second : ∀ value after, attempt.play scene = .finished (.ok value) after →
      AnnounceWritten ((rest value).actsOn after)) :
    AnnounceWritten ((attempt >>= rest).actsOn scene) := by
  rcases Attempt.bind_cases attempt rest scene with
    ⟨acts, -⟩ | ⟨value, middle, ends, acts, -⟩
  · exact acts ▸ first
  · exact acts ▸ first.append (second value middle ends)

end Act.AnnounceWritten

open Act (AnnounceWritten)

/-! ## The work -/

namespace Handling

/-- A write calls nothing complete but the upload that is written. -/
theorem write_calls (service : Service) (checked : Exchange) :
    ((write service).carryOut checked).Gives fun given =>
      ∀ id, given.2.completed? = some id → id = checked.fileId := by
  refine .bind fun _ => .bind fun _ => .bind fun keeps => ?_
  cases keeps with
  | false => exact .pure nofun
  | true =>
      refine .bind fun _ => .bind fun offset => .bind fun length => .pure ?_
      intro id called
      rw [Outcome.completed?] at called
      split at called
      · exact (Option.some.inj called).symm
      · cases called

/-- Where a write is answered something has been appended to its upload. -/
theorem write_appends {given : Exchange × Outcome}
    (works : ((write service).carryOut checked).play scene
      = .finished (.ok given) after) :
    ∃ act ∈ ((write service).carryOut checked).actsOn scene,
      act.Appends checked.fileId := by
  rw [write] at works ⊢
  simp only at works ⊢
  rcases Attempt.bind_ends works with
    ⟨_, contrary, -⟩ | ⟨_, middle, -, works, fixes⟩
  · cases contrary
  rcases Attempt.bind_ends works with
    ⟨_, contrary, -⟩ | ⟨count, last, appended, -, acts⟩
  · cases contrary
  rw [Attempt.play_append] at appended
  refine ⟨_, ?_, .appended (route service) count middle.store⟩
  rw [fixes, acts, Attempt.actsOn_append, appended]
  exact List.mem_append_right _ (List.mem_append_left _
    (List.mem_singleton_self _))

/-- An accepted write calls its upload complete if it is, whatever it is. -/
theorem write_calls_iff {upload : Upload} {done : Exchange} {outcome : Outcome}
    (found : scene.store.find? checked.fileId = some upload)
    (may : MayWrite service exchange checked upload)
    (unchecked : IsUnchecked exchange)
    (works : ((write service).carryOut checked).play scene
      = .finished (.ok (done, outcome)) after)
    (status : done.response.status = 204) :
    outcome.completed? = some checked.fileId
      ↔ after.store.HasComplete checked.fileId := by
  cases write_carryOut_result found may unchecked.length unchecked.pledge
      works with
  | mismatched refuses => cases status
  | @accepted _ _ written accepts left =>
      have whole : after.store.HasComplete checked.fileId
          ↔ written.isComplete = true := by
        constructor
        · rintro ⟨other, found, complete⟩
          cases left.symm.trans found
          exact complete
        · exact fun complete => ⟨written, left, complete⟩
      rw [whole, Outcome.completed?]
      cases written.isComplete <;> simp

/-- What is neither created nor written is not called complete. -/
theorem calls_nothing {intent : Intent} {handling : Handling}
    (creates : intent.creates = false) (reads : intent ≠ .writeFile)
    (handled : ofIntent? service intent = some handling)
    (checked : Exchange) :
    (handling.carryOut checked).Gives fun given =>
      given.2.completed? = none := by
  cases intent with
  | createFile | concatenate => cases creates
  | writeFile => exact absurd rfl reads
  | deleteFile =>
      cases handled
      exact .bind fun _ => .pure rfl
  | fileInfo =>
      cases handled
      exact .bind fun _ => .bind fun _ => .bind fun _ => .bind fun _ =>
        .bind fun _ => .pure rfl
  | options =>
      cases handled
      exact .bind fun _ => .pure rfl
  | notApplicable => cases handled

/-- A piece that is called complete is one to which something was appended. -/
theorem carryOut_calls {intent : Intent} {handling : Handling}
    (handled : ofIntent? service intent = some handling)
    (numbered : scene.store.IsNumbered) {done : Exchange} {outcome : Outcome}
    (works : (handling.carryOut checked).play scene
      = .finished (.ok (done, outcome)) after)
    (called : outcome.completed? = some id)
    (piece : after.store.HoldsPiece id) :
    ∃ act ∈ (handling.carryOut checked).actsOn scene, act.Appends id := by
  cases creates : intent.creates with
  | true =>
      have begins := carryOut_begins creates handled numbered checked
      rw [works] at begins
      cases begins with
      | nothing same fails => exact absurd rfl (fails _ _)
      | @upload upload declared left calls =>
          obtain ⟨rfl, apart⟩ := calls done outcome after rfl id called
          obtain ⟨other, found, joins⟩ := piece
          have left : after.store = (scene.store.insert upload).2 := left
          rw [left, (find?_inserted numbered upload).1] at found
          cases found
          exact absurd joins apart
  | false =>
      by_cases reads : intent = .writeFile
      · subst reads
        cases handled
        rw [write_calls service checked _ _ _ works id called]
        exact write_appends works
      · have silent := calls_nothing creates reads handled checked _ _ _ works
        cases called.symm.trans silent

end Handling

/-! ## Requests -/

namespace Protocol

variable {intent : Intent} {handling : Handling}

theorem carryOut_announceWritten
    (handled : Handling.ofIntent? service intent = some handling)
    (numbered : scene.store.IsNumbered) :
    AnnounceWritten ((carryOut handling checked).actsOn scene) := by
  rcases completions_carryOut handled checked scene with
    ⟨nothing, -⟩ | ⟨done, outcome, last, works, acts⟩
  · exact .of_silent nothing
  · rcases completions_tellOutcome done outcome last with told | ⟨-, nothing⟩
    · intro id moment here piece
      rw [acts, told, Option.mem_toList, Option.map_eq_some_iff] at here
      obtain ⟨_, called, same⟩ := here
      cases same
      obtain ⟨act, present, appends⟩ :=
        Handling.carryOut_calls handled numbered works called piece
      refine ⟨act, ?_, appends⟩
      rw [carryOut, Attempt.actsOn_bind]
      exact List.mem_append_left _ present
    · exact .of_silent (acts.trans nothing)

theorem handleIntent_announceWritten
    (handled : Handling.ofIntent? service intent = some handling)
    (numbered : scene.store.IsNumbered) (exchange : Exchange) :
    AnnounceWritten ((handleIntent intent handling exchange).actsOn scene) := by
  have course := handleIntent_course handled exchange scene
  generalize (handleIntent intent handling exchange).actsOn scene = acts
    at course ⊢
  generalize (handleIntent intent handling exchange).play scene = played
    at course
  cases course with
  | stops light sight refused => exact .of_silent light.completions
  | works sight checks telling _ before later finishes =>
      have numbered := telling.store ▸ sight.store ▸ numbered
      exact ((AnnounceWritten.of_silent before.completions).append
        (carryOut_announceWritten handled numbered)).append
          (.of_silent later.completions)

theorem handleSecond_announceWritten (service : Service)
    (exchange : Exchange) (second? : Option Intent)
    (numbered : scene.store.IsNumbered) :
    AnnounceWritten
      ((handleSecond service exchange second?).actsOn scene) := by
  rw [handleSecond.eq_def]
  split
  · rename_i intent handling id identified handled
    split
    · rw [handleBody, Attempt.actsOn_bind_pure, Attempt.actsOn_lift]
      exact handleIntent_announceWritten handled numbered
        (exchange.continueWith id)
    · exact .of_silent rfl
  · exact .of_silent rfl

/-- Whatever a request does, it announces no piece that it has not written. -/
theorem handle_announceWritten (service : Service) (request : Request)
    (numbered : scene.store.IsNumbered) :
    AnnounceWritten ((handle service request).actsOn scene) := by
  rw [handle]
  split
  · exact .of_silent rfl
  · rename_i first rest _
    split
    · exact .of_silent rfl
    · rename_i handling handled
      refine .bind (handleIntent_announceWritten handled numbered _) ?_
      intro exchange after ends
      have deeds := handleIntent_deeds handled (.ofRequest service request)
        scene
      rw [ends] at deeds
      have numbered : after.store.IsNumbered :=
        (Store.Deeds.created_le numbered deeds).1
      exact .bind (handleSecond_announceWritten service exchange rest.head?
        numbered) fun _ _ _ => .of_silent rfl

/-- An accepted write announces what is complete then, whatever part it has. -/
theorem handleIntent_write_announces
    (unchecked : Handling.IsUnchecked exchange) (agrees : scene.HostAgrees)
    {done : Exchange}
    (ends : (handleIntent .writeFile (.write service) exchange).play scene
      = .finished (.ok done) after)
    (status : done.response.status = 204) :
    exchange.fileId ∈ (completions ((handleIntent .writeFile (.write service)
        exchange).actsOn scene)).map Prod.fst
      ↔ after.store.HasComplete exchange.fileId := by
  have handled : Handling.ofIntent? service .writeFile
      = some (.write service) := rfl
  have course := handleIntent_course handled exchange scene
  rw [ends] at course
  generalize (handleIntent .writeFile (.write service) exchange).actsOn scene
    = acts at course ⊢
  generalize same : Played.finished (.ok done : Except Failure Exchange) after
    = played at course
  cases course with
  | stops light sight refused =>
      have := refused agrees done after same.symm
      omega
  | @works checked asked told _ _ finish sight checks telling agreeing before
      later finishes =>
      rw [Act.completions_append, Act.completions_append, before.completions,
        later.completions, List.nil_append, List.append_nil]
      rcases Played.andThen_ends same.symm with ⟨result, last, carries, left⟩
      injection left with closes left
      rcases Attempt.bind_ends carries with
        ⟨failure, rfl, -⟩ | ⟨⟨worked, outcome⟩, middle, works, -, -⟩
      · have := status_of_settle_error closes
        omega
      · have still := Attempt.play_ends_agrees (agreeing agrees) works
        rcases play_carryOut_of_agrees works still with ⟨_, rest, same'⟩
        rw [carries] at same'
        cases same'
        cases closes
        rw [completions_carryOut_of_agrees handled works still, ← left,
          (finishes last).store, rest.told.store]
        obtain ⟨upload, found, may⟩ := Handling.write_check_ends_well checks
        rw [← may.fileId, ← telling.store] at found
        have about : checked.fileId = exchange.fileId := may.fileId
        rw [← about, ← Handling.write_calls_iff found may unchecked.versioned
          works status]
        cases outcome.completed? <;> simp [eq_comm]

/-- A write that is accepted announces what is complete then. -/
theorem handle_write_announces {request : Request} {response : Response}
    (agrees : scene.HostAgrees) (writes : request.IsWriteTo service id)
    (ends : (handle service request).play scene
      = .finished (.ok (.respond response)) after)
    (status : response.status = 204) :
    id ∈ (completions ((handle service request).actsOn scene)).map Prod.fst
      ↔ after.store.HasComplete id := by
  obtain ⟨method, named⟩ := writes
  rcases intentsOf_of_patch method service with asked | asked
  · obtain ⟨done, rfl, handles⟩ := handle_ends_of_patch method ends
    have about : (Exchange.ofRequest service request).fileId = id :=
      congrArg (Option.getD · "") named
    rw [actsOn_handle_of_single asked rfl, ← about]
    exact handleIntent_write_announces (.ofRequest service request) agrees
      handles status
  · rw [play_handle_of_notApplicable asked] at ends
    cases ends

end Protocol

/-! ## Servers -/

namespace Server

variable {server : Server}

/-- What is announced in a life is announced by one of its visits. -/
theorem IsQuiet.visit_of_completions (quiet : server.IsQuiet)
    {occurrences : List Occurrence} {moment : Store}
    (told : (id, moment) ∈ server.completions occurrences) :
    ∃ earlier visit later, occurrences = earlier ++ .visit visit :: later ∧
      (id, moment) ∈ Act.completions ((server.live earlier).acts visit) := by
  induction occurrences generalizing server with
  | nil => cases told
  | cons first rest hypothesis =>
      rw [Server.completions, history, Act.completions_append] at told
      rcases List.mem_append.1 told with here | there
      · cases first with
        | visit visit => exact ⟨[], visit, rest, rfl, here⟩
        | elapse milliseconds => cases here
        | sweep =>
            rw [quiet.completions_sweep] at here
            cases here
      · obtain ⟨earlier, visit, later, rfl, announces⟩ :=
          hypothesis (quiet.undergo_succeeds first).quiet there
        exact ⟨first :: earlier, visit, later, rfl, announces⟩

/--
A piece is announced only by a visit that has appended to it, and never where it
is created, however the host reacts.  But where the host agrees, a write that is
accepted announces what it has written, a piece as any other upload, if that is
complete then.
-/
theorem live_announces_pieces (quiet : server.IsQuiet)
    (numbered : server.store.IsNumbered) (occurrences : List Occurrence) :
    (∀ id moment, (id, moment) ∈ server.completions occurrences →
      moment.HoldsPiece id →
      ∃ earlier visit later, occurrences = earlier ++ .visit visit :: later ∧
        (id, moment) ∈ Act.completions ((server.live earlier).acts visit) ∧
        ∃ act ∈ (server.live earlier).acts visit, act.Appends id) ∧
    ∀ earlier visit later, occurrences = earlier ++ .visit visit :: later →
      (server.live earlier).HostAgrees →
      ∀ id response, visit.request.IsWriteTo server.service id →
        ((server.live earlier).visit visit).1.response? = some response →
        response.status = 204 →
        (id ∈ (Act.completions ((server.live earlier).acts visit)).map Prod.fst
          ↔ ((server.live earlier).visit visit).2.2.store.HasComplete id) := by
  constructor
  · intro id moment told piece
    obtain ⟨earlier, visit, later, rfl, here⟩ :=
      quiet.visit_of_completions told
    refine ⟨earlier, visit, later, rfl, here, ?_⟩
    have lived := quiet.live_succeeds earlier
    have numbered : ((server.live earlier).scene visit.client
        visit.news).store.IsNumbered :=
      (Store.Deeds.created_le numbered lived.deeds).1
    rw [lived.quiet.acts_eq] at here ⊢
    exact Protocol.handle_announceWritten _ _ numbered id moment here piece
  · rintro earlier visit later - agrees id response writes answered accepted
    have lived := quiet.live_succeeds earlier
    obtain ⟨after, ends⟩ := lived.quiet.play_of_response? answered
    rw [← lived.service] at writes
    rw [lived.quiet.acts_eq, lived.quiet.visit_store, ends]
    have agrees : ((server.live earlier).scene visit.client
      visit.news).HostAgrees := agrees
    exact Protocol.handle_write_announces agrees writes ends accepted

/-- A visit that creates a piece of five bytes. -/
def creatingPiece : Visit :=
  .creating [(HeaderName.uploadLength, "5"),
    (HeaderName.uploadConcat, "partial")]

/-- So it is with a piece whose bytes are all written. -/
theorem live_announces_pieces_by_write :
    (∃ earlier visit later, [.visit creatingPiece,
        .visit (.writing "0" "hello" [])] = earlier ++ .visit visit :: later ∧
      ∃ act ∈ ((watched {}).live earlier).acts visit, act.Appends "~0~") ∧
    ("~0~" ∈ (Act.completions (((watched {}).live [.visit creatingPiece]).acts
        (.writing "0" "hello" []))).map Prod.fst
      ↔ (((watched {}).live [.visit creatingPiece]).visit
          (.writing "0" "hello" [])).2.2.store.HasComplete "~0~") := by
  have quiet := watched_isQuiet {}
  have told : ((watched {}).completions [.visit creatingPiece,
      .visit (.writing "0" "hello" [])]).map (fun told =>
        (told.1, (told.2.find? told.1).map Upload.part))
      = [("~0~", some .piece)] := by
    decide +kernel
  have accepted : (((watched {}).live [.visit creatingPiece]).visit
      (.writing "0" "hello" [])).1.response?.map Response.status
      = some 204 := by
    decide +kernel
  have writes : (Visit.writing "0" "hello" []).request.IsWriteTo
      (watched {}).service "~0~" := by
    decide +kernel
  obtain ⟨announces, accepts⟩ := live_announces_pieces quiet .empty
    [.visit creatingPiece, .visit (.writing "0" "hello" [])]
  constructor
  · have present : ("~0~", some Part.piece) ∈ [("~0~", some Part.piece)] :=
      List.mem_singleton_self _
    rw [← told] at present
    obtain ⟨⟨id, moment⟩, announced, same⟩ := List.mem_map.1 present
    obtain ⟨rfl, part⟩ := Prod.mk.inj same
    obtain ⟨upload, found, piece⟩ := Option.map_eq_some_iff.1 part
    obtain ⟨earlier, visit, later, split, -, appends⟩ :=
      announces "~0~" moment announced ⟨upload, found, piece⟩
    exact ⟨earlier, visit, later, split, appends⟩
  · obtain ⟨response, answered, status⟩ := Option.map_eq_some_iff.1 accepted
    exact accepts [.visit creatingPiece] _ [] rfl
      (quiet.visit_agrees (watched_hostAgrees {}) creatingPiece) "~0~" response
      writes answered status

/-- The host is told that a piece is complete. -/
theorem live_announces_a_piece :
    let occurrences : List Occurrence :=
      [.visit creatingPiece, .visit (.writing "0" "hello" [])]
    ((watched {}).completions occurrences).map Prod.fst = ["~0~"] ∧
      (((watched {}).live occurrences).store.find? "~0~").map Upload.part
        = some .piece ∧
      ((watched {}).live occurrences).log.filterMap LogEntry.completed?
        = ["~0~"] := by
  decide +kernel

end Server

end ResumableUpload
