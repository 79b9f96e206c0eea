import ResumableUpload.Proofs.Solo.Accounts
/-!
# The announcement of complete uploads

On a server that began empty the host is told of every upload at most once that
it is complete, and then it is: `Server.live_announces_once`.  Whether the host
stops requests or breaks off does not matter.

It is not so that the host is told of every upload that has become complete.
What it is not told of, on a server that answers all requests and whose host
agrees, are uploads that have been completed by a write whose body was refused:
`Server.live_announces_or_refuses`.  Such a write may have left bytes behind, or
may have declared the length that the content had already, as in
`Server.live_completes_in_silence`.
-/

namespace ResumableUpload

variable {service : Service}

/-- The upload that the host is told is complete, by an entry of the log. -/
def LogEntry.completed? (entry : LogEntry) : Option String :=
  entry.event?.bind Event.completed?

/-- A host that watches for it hears of what is called complete. -/
theorem Act.completed?_of_heard (watches : Hook → Bool) (act : Act) :
    (act.heard? watches).bind Event.completed?
      = if watches .fileComplete then act.completion?.map Prod.fst
        else none := by
  rcases act with ⟨action, reply?, store⟩
  cases action with
  | tell event =>
      change (if watches event.hook then some event else none).bind
        Event.completed? = if watches .fileComplete then
          (event.completed?.map fun id => (id, store)).map Prod.fst else none
      cases event with
      | fileComplete id =>
          rw [Event.hook]
          cases watches .fileComplete <;> rfl
      | _ =>
          simp only [Event.completed?, Option.map_none, ite_self]
          split <;> rfl
  | _ => cases watches .fileComplete <;> rfl

theorem Act.completed?_heard (watches : Hook → Bool) (acts : List Act) :
    (acts.filterMap (heard? watches)).filterMap Event.completed?
      = if watches .fileComplete then (completions acts).map Prod.fst
        else [] := by
  rw [List.filterMap_filterMap, funext (completed?_of_heard watches)]
  cases watches .fileComplete with
  | false => exact List.filterMap_eq_nil_iff.2 fun _ _ => rfl
  | true => exact List.map_filterMap.symm

namespace Server

variable {server : Server}

/--
The uploads of which the host is told that they are complete, in order, with
the store as it is at that moment.
-/
def completions (server : Server) (occurrences : List Occurrence) :
    List (String × Store) :=
  Act.completions (server.history occurrences)

namespace IsQuiet

/-- The log tells of all acts of a life. -/
theorem live_heard (quiet : server.IsQuiet) (occurrences : List Occurrence) :
    server.HasHeard (server.history occurrences) (server.live occurrences) := by
  induction occurrences generalizing server with
  | nil => exact ⟨rfl, rfl⟩
  | cons first later hypothesis =>
      exact (quiet.undergo_heard first).trans
        (hypothesis (quiet.undergo_succeeds first).quiet)

/-- A sweep announces nothing. -/
theorem completions_sweep (quiet : server.IsQuiet) :
    Act.completions (server.actsOf .sweep) = [] := by
  rw [actsOf, quiet.program_acts]
  exact Act.completions_of_works
    (.serviceCall server.service rfl) (server.scene {} [])

/-- What happens to a store and is announced is a chronicle. -/
theorem undergo_chronicle (quiet : server.IsQuiet)
    (numbered : server.store.IsNumbered) (occurrence : Occurrence) :
    Chronicle server.service server.store
      (Act.completions (server.actsOf occurrence))
      (server.undergo occurrence).store := by
  cases occurrence with
  | visit visit =>
      rw [actsOf, quiet.acts_eq, undergo, quiet.visit_store]
      have numbered : (server.scene visit.client visit.news).store.IsNumbered :=
        numbered
      exact Protocol.handle_chronicles server.service visit.request numbered
  | elapse milliseconds => exact .of_eq rfl
  | sweep =>
      rw [quiet.completions_sweep]
      exact .quiet (quiet.undergo_succeeds .sweep).deeds

theorem live_chronicle (quiet : server.IsQuiet)
    (numbered : server.store.IsNumbered) (occurrences : List Occurrence) :
    Chronicle server.service server.store (server.completions occurrences)
      (server.live occurrences).store := by
  induction occurrences generalizing server with
  | nil => exact .of_eq rfl
  | cons first later hypothesis =>
      have succeeds := quiet.undergo_succeeds first
      have chronicle := hypothesis succeeds.quiet
        (Store.Deeds.created_le numbered succeeds.deeds).1
      rw [succeeds.service] at chronicle
      rw [completions, history, Act.completions_append]
      exact (quiet.undergo_chronicle numbered first).trans chronicle

end IsQuiet

/--
On a server that began empty, whatever happens to it and however its host
reacts, the host is told of no upload twice that it is complete; whenever it is
told so, all bytes of the upload have arrived; and if it watches for this, its
log tells of exactly these announcements.
-/
theorem live_announces_once (quiet : server.IsQuiet)
    (empty : server.store = {}) (occurrences : List Occurrence) :
    ((server.completions occurrences).map Prod.fst).Nodup ∧
    (∀ id moment, (id, moment) ∈ server.completions occurrences →
      ∃ upload, moment.find? id = some upload ∧
        upload.length = some upload.content.length) ∧
    (server.live occurrences).log.filterMap LogEntry.completed?
      = (if server.watches .fileComplete then
          ((server.completions occurrences).map Prod.fst).reverse
        else []) ++ server.log.filterMap LogEntry.completed? := by
  have all : server.service.AccommodatesAll server.store :=
    empty ▸ .empty server.service
  have chronicle := quiet.live_chronicle all.numbered occurrences
  refine ⟨chronicle.nodup all, ?_, ?_⟩
  · intro id moment told
    rcases (chronicle.between told).2.1 with ⟨upload, found, complete⟩
    exact ⟨upload, found, eq_of_beq complete⟩
  · have heard := congrArg (List.filterMap Event.completed?)
      (quiet.live_heard occurrences).log
    rw [List.filterMap_append, List.filterMap_reverse, Act.completed?_heard,
      List.filterMap_filterMap, List.filterMap_filterMap,
      apply_ite List.reverse, List.reverse_nil] at heard
    exact heard

/-- A server whose host watches for uploads that are complete. -/
def watched (config : Config) : Server where
  service := { config := config }
  hooks hook := if hook = .fileComplete then some [] else none

theorem watched_isQuiet (config : Config) : (watched config).IsQuiet :=
  ⟨rfl, fun _ => rfl⟩

/-- So it is with an upload that is completed by a second write. -/
theorem live_announces_once_by_write :
    ((watched {}).live [.visit (.creating [(HeaderName.uploadLength, "5")]),
      .visit (.writing "0" "hel" []), .visit (.writing "3" "lo" []),
      .visit (.writing "5" "" [])]).log.filterMap LogEntry.completed?
      = ["~0~"] := by
  have told : ((watched {}).completions
      [.visit (.creating [(HeaderName.uploadLength, "5")]),
        .visit (.writing "0" "hel" []), .visit (.writing "3" "lo" []),
        .visit (.writing "5" "" [])]).map Prod.fst = ["~0~"] := by
    decide +kernel
  have watches : (watched {}).watches .fileComplete = true := rfl
  rcases live_announces_once (watched_isQuiet {}) rfl
      [.visit (.creating [(HeaderName.uploadLength, "5")]),
        .visit (.writing "0" "hel" []), .visit (.writing "3" "lo" []),
        .visit (.writing "5" "" [])] with ⟨-, -, log⟩
  rw [log, told, watches]
  rfl

/-! ## Completion in silence -/

/-- Every visit is answered, one after another. -/
def AnswersAll (server : Server) : List Occurrence → Prop
  | [] => True
  | .visit visit :: later =>
      (∃ answer, (server.visit visit).1 = .answered answer) ∧
        (server.visit visit).2.2.AnswersAll later
  | first :: later => (server.undergo first).AnswersAll later

instance decidableAnswered (handled : Handled) :
    Decidable (∃ answer, handled = .answered answer) :=
  match handled with
  | .answered answer => .isTrue ⟨answer, rfl⟩
  | .failed _ => .isFalse (by rintro ⟨_, contrary⟩; cases contrary)
  | .collapsed => .isFalse (by rintro ⟨_, contrary⟩; cases contrary)
  | .waiting _ => .isFalse (by rintro ⟨_, contrary⟩; cases contrary)

instance decidableAnswersAll (server : Server) :
    (occurrences : List Occurrence) → Decidable (server.AnswersAll occurrences)
  | [] => .isTrue trivial
  | .visit visit :: later =>
      have := decidableAnswersAll (server.visit visit).2.2 later
      inferInstanceAs (Decidable
        ((∃ answer, (server.visit visit).1 = .answered answer) ∧
          (server.visit visit).2.2.AnswersAll later))
  | .elapse milliseconds :: later =>
      decidableAnswersAll (server.undergo (.elapse milliseconds)) later
  | .sweep :: later => decidableAnswersAll (server.undergo .sweep) later

/-- In some visit an upload was completed although bytes of it were refused. -/
def CompletesRefused (server : Server) (occurrences : List Occurrence)
    (id : String) : Prop :=
  ∃ earlier visit later, occurrences = earlier ++ .visit visit :: later ∧
    ¬(server.live earlier).store.HasWhole id ∧
    ((server.live earlier).visit visit).2.2.store.HasWhole id ∧
    ∃ act ∈ (server.live earlier).acts visit, act.Refuses id

namespace IsQuiet

/-- What a visit does that is answered is accounted for. -/
theorem visit_accounts (quiet : server.IsQuiet) (agrees : server.HostAgrees)
    (numbered : server.store.IsNumbered) {visit : Visit} {answer : Answer}
    (answered : (server.visit visit).1 = .answered answer) :
    Store.Accounts (server.acts visit) server.store
      (server.visit visit).2.2.store := by
  have tells := (quiet.visit_depicts visit).tells
  rw [quiet.acts_eq, quiet.visit_store]
  rw [answered] at tells
  have numbered : (server.scene visit.client visit.news).store.IsNumbered :=
    numbered
  change Handled.Tells (.answered answer) ((Protocol.handle server.service
    visit.request).play (server.scene visit.client visit.news)) at tells
  generalize played : (Protocol.handle server.service visit.request).play
    (server.scene visit.client visit.news) = ended at tells ⊢
  cases tells with
  | answered answer after =>
      exact Protocol.handle_accounts visit.request numbered agrees played

/-- A sweep completes nothing. -/
theorem hasWhole_of_sweep (quiet : server.IsQuiet)
    (numbered : server.store.IsNumbered) {id : String}
    (whole : (server.undergo .sweep).store.HasWhole id) :
    server.store.HasWhole id := by
  rcases whole with ⟨upload, found, whole⟩
  exact ⟨upload, quiet.find?_of_sweep numbered found, whole⟩

end IsQuiet

theorem CompletesRefused.cons {first : Occurrence} {later : List Occurrence}
    {id : String}
    (completes : (server.undergo first).CompletesRefused later id) :
    server.CompletesRefused (first :: later) id := by
  rcases completes with ⟨earlier, visit, rest, rfl, completes⟩
  exact ⟨first :: earlier, visit, rest, rfl, completes⟩

/-- What happens is accounted for, if all is answered and the host agrees. -/
theorem IsQuiet.live_accounts (quiet : server.IsQuiet)
    (agrees : server.HostAgrees) (numbered : server.store.IsNumbered)
    (occurrences : List Occurrence) (answers : server.AnswersAll occurrences)
    {id : String} (whole : (server.live occurrences).store.HasWhole id) :
    server.store.HasWhole id ∨
      id ∈ (server.completions occurrences).map Prod.fst ∨
      server.CompletesRefused occurrences id := by
  induction occurrences generalizing server with
  | nil => exact .inl whole
  | cons first later hypothesis =>
      have succeeds := quiet.undergo_succeeds first
      have still := (Store.Deeds.created_le numbered succeeds.deeds).1
      have later_or (agrees : (server.undergo first).HostAgrees)
          (answers : (server.undergo first).AnswersAll later) :
          (server.undergo first).store.HasWhole id ∨
            id ∈ (server.completions (first :: later)).map Prod.fst ∨
            server.CompletesRefused (first :: later) id := by
        rcases hypothesis succeeds.quiet agrees still answers whole with
            before | told | completes
        · exact .inl before
        · rw [completions, history, Act.completions_append, List.map_append]
          exact .inr (.inl (List.mem_append_right _ told))
        · exact .inr (.inr completes.cons)
      cases first with
      | elapse milliseconds => exact later_or agrees answers
      | sweep =>
          exact (later_or (quiet.sweep_agrees agrees) answers).imp_left
            (quiet.hasWhole_of_sweep numbered)
      | visit visit =>
          rcases answers with ⟨⟨answer, answered⟩, answers⟩
          rcases later_or (quiet.visit_agrees agrees visit) answers with
              since | otherwise
          · by_cases before : server.store.HasWhole id
            · exact .inl before
            · right
              rcases quiet.visit_accounts agrees numbered answered id since with
                  earlier | ⟨act, present, announces | refuses⟩
              · exact absurd earlier before
              · left
                rw [completions, history, Act.completions_append,
                  List.map_append]
                exact List.mem_append_left _
                  (Act.mem_completions.2 ⟨act, present, announces⟩)
              · exact .inr ⟨[], visit, later, rfl, before, since, act, present,
                  refuses⟩
          · exact .inr otherwise

/--
On a server that began empty, that answers all requests and whose host agrees,
every complete upload that is not to be joined has been announced, or was
completed by a visit although bytes of it were refused.
-/
theorem live_announces_or_refuses (quiet : server.IsQuiet)
    (empty : server.store = {}) (agrees : server.HostAgrees)
    (occurrences : List Occurrence) (answers : server.AnswersAll occurrences)
    {id : String} (whole : (server.live occurrences).store.HasWhole id) :
    id ∈ (server.completions occurrences).map Prod.fst ∨
      server.CompletesRefused occurrences id := by
  have numbered : server.store.IsNumbered := empty ▸ .empty
  refine (quiet.live_accounts agrees numbered occurrences answers
    whole).resolve_left ?_
  rintro ⟨upload, found, -⟩
  rw [empty] at found
  cases found

theorem watched_hostAgrees (config : Config) : (watched config).HostAgrees := by
  intro hook reactions watched
  change (if hook = .fileComplete then some [] else none) = some reactions
    at watched
  split at watched
  · cases watched
    exact fun _ present => absurd present List.not_mem_nil
  · cases watched

/--
An upload of three bytes is created, and these bytes are sent to it and then one
more.
-/
def spilled : List Occurrence :=
  [.visit (.creating [(HeaderName.uploadLength, "3")]),
    .visit (.writingParts ["abc", "d"])]

/-- It is complete by the time at which bytes of it are refused. -/
theorem live_announces_or_refuses_spilled :
    (watched { preferPipelines := true }).CompletesRefused spilled "~0~" := by
  have answers : (watched { preferPipelines := true }).AnswersAll spilled := by
    decide +kernel
  have whole : ((watched { preferPipelines := true }).live
      spilled).store.HasWhole "~0~" := by
    decide +kernel
  have silent : (watched { preferPipelines := true }).completions spilled
      = [] := by
    decide +kernel
  rcases live_announces_or_refuses (watched_isQuiet _) rfl
      (watched_hostAgrees _) spilled answers whole with told | completes
  · rw [silent] at told
    cases told
  · exact completes

/--
An upload is sent all its bytes, and its length is declared afterwards by a
write of one byte more.
-/
def declaredLate : List Occurrence :=
  [.visit (.creating [(HeaderName.uploadDeferLength, "1")]),
    .visit (.writing "0" "hello" []),
    .visit (.writing "5" "!" [(HeaderName.uploadLength, "5")])]

/-- So an upload can be complete, all requests answered, and nobody is told. -/
theorem live_completes_in_silence :
    (watched {}).HostAgrees ∧ (watched {}).AnswersAll declaredLate ∧
      ((watched {}).live declaredLate).store.HasWhole "~0~" ∧
      (watched {}).completions declaredLate = [] :=
  ⟨watched_hostAgrees {}, by decide +kernel, by decide +kernel,
    by decide +kernel⟩

end Server

end ResumableUpload
