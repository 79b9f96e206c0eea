import ResumableUpload.Proofs.Traffic.Effects
/-!
# What the holder of a lease does to the upload

The stage of the holder of a lease says something about the record of the
upload: that it is there, that it ends where the request wants to append, or
that the append of the request began there and has not been verified.
`Stage.Fits` puts that down, and `Stage.Fits.perform` says that it stays true of
the stage to which an action leads.  An append is described by
`Performed.Writes`: it begins at the end of the upload and only adds to it,
however often it has to wait.
-/

namespace ResumableUpload

/-! ## Calls -/

/-- What came of a call is what the store answers, unless it came to nothing. -/
def Performed.AnswersAs (asked : Call) (server : Server) :
    Performed (Except Failure asked.Reply) → Prop
  | .answered reply _ after =>
      reply = (server.store.answer server.clock asked).1 ∧
        after.store = (server.store.answer server.clock asked).2
  | .waiting _ _ _ after | .collapsed _ after => after.store = server.store

/-- Whether a call joins uploads. -/
def Call.joins : Call → Bool
  | .createJoined _ _ => true
  | _ => false

namespace Server

variable {server : Server} {client : Client} {asked : Call}

theorem attend_answersAs (server : Server) (client : Client)
    (plain : asked.joins = false) :
    (server.attend client asked).AnswersAs asked server := by
  rw [attend.eq_def]
  split
  · exact rfl
  · split
    · exact ⟨rfl, rfl⟩
    · split
      · cases plain
      · exact rfl

theorem callStore_answersAs (faultless : server.IsFaultless) (client : Client)
    (plain : asked.joins = false) :
    (server.callStore client asked).AnswersAs asked server := by
  rw [callStore, (faultless.note _).nextFault]
  exact attend_answersAs (server.note _) client plain

/-- A call that goes on with a record that is there is answered by the store. -/
theorem goOn_calling_answersAs (server : Server) (client : Client)
    {turn : Turn} (plain : asked.joins = false)
    (present : ∀ id, asked.record? = some id →
      server.store.has turn.id = true) :
    (server.goOn client (.calling turn asked)).AnswersAs asked server := by
  rw [goOn]
  split
  · exact rfl
  · cases used : asked.record? with
    | none => exact attend_answersAs (server.leave turn) client plain
    | some id =>
        simp only
        rw [answerInTurn, if_pos (present id used)]
        exact ⟨rfl, rfl⟩

end Server

/-! ## Appends -/

/-- An append to the upload began at a place, and the place is still there. -/
structure Upload.IsUnderWay (start : Nat) (upload : Upload) : Prop where
  begun : upload.chunkStart = some start
  within : start ≤ upload.content.length

/-- The append with which an action goes on. -/
def Action.underWay? : Action → Option Appending
  | .goOn (.appending _ appending) => some appending
  | _ => none

/--
What came of an append to an upload that ended at a place when the append began:
the upload has what it had, and the bytes that have been appended.  An append
that waits knows what is there.
-/
def Performed.Writes (id : String) (start : Nat) (before : Bytes) :
    Performed (Except Failure Nat) → Prop
  | .answered _ _ after => ∃ upload, after.store.find? id = some upload ∧
      before <+: upload.content ∧ upload.IsUnderWay start
  | .waiting instead _ _ after => ∃ upload,
      after.store.find? id = some upload ∧ before <+: upload.content ∧
        match instead.underWay? with
        | some appending => upload.IsUnderWay start ∧
            upload.content = appending.content
        | none => upload.content.length = start
  | .collapsed _ after => ∃ upload, after.store.find? id = some upload ∧
      before <+: upload.content

namespace Server

variable {server : Server} {client : Client} {id : String} {upload : Upload}

theorem find?_changeRecord (change : Upload → Upload)
    (found : server.store.find? id = some upload) :
    (server.changeRecord id change).store.find? id = some (change upload) := by
  change (server.store.modify id change).find? id = _
  rw [Store.find?_modify_self, found]
  rfl

theorem store_leave (server : Server) (turn? : Option Turn) :
    (server.leave turn?).store = server.store := by
  cases turn? <;> rfl

theorem advanceAppend_writes (client : Client) {start : Nat}
    {appending : Appending} (found : server.store.find? id = some upload)
    (underWay : upload.IsUnderWay start)
    (same : upload.content = appending.content) (turn? : Option Turn) :
    (server.advanceAppend client id turn? appending).Writes id start
      upload.content := by
  have added := appending.content_advance client.readable client.cancelled
  rw [← same] at added
  unfold advanceAppend
  simp only
  generalize appending.advance client.readable client.cancelled = progress
    at added ⊢
  have written := find?_changeRecord (fun upload =>
    { upload with content := progress.appending.content }) found
  have still : ({ upload with content := progress.appending.content }
      : Upload).IsUnderWay start :=
    ⟨underWay.begun, Nat.le_trans underWay.within added.length_le⟩
  cases progress.result with
  | some result =>
      refine ⟨_, ?_, added, still⟩
      exact (congrArg (Store.find? · id) (store_leave _ turn?)).trans written
  | none => cases turn? <;> exact ⟨_, written, added, still, rfl⟩

theorem beginAppend_writes (client : Client) {other : Upload}
    (found : server.store.find? id = some upload)
    (same : other.content = upload.content) (turn? : Option Turn)
    (route : Route) :
    (server.beginAppend client id turn? route other).Writes id upload.offset
      upload.content := by
  have begun := find?_changeRecord Upload.beginChunk found
  rw [beginAppend]
  cases begins : Appending.begin? (server.changeRecord id
    Upload.beginChunk).settings route other with
  | none =>
      refine ⟨upload.beginChunk, ?_, List.prefix_rfl⟩
      rw [store_leave]
      exact begun
  | some appending =>
      exact advanceAppend_writes client begun ⟨rfl, Nat.le_refl _⟩
        (same.symm.trans (Appending.content_begin begins).symm) turn?

theorem append_writes (faultless : server.IsFaultless) (client : Client)
    (found : server.store.find? id = some upload) (route : Route) :
    (server.append client id route).Writes id upload.offset upload.content := by
  have here : (server.note (.appended id route)).store.find? id = some upload :=
    found
  rw [append, (faultless.note _).nextFault]
  simp only [here]
  split
  · exact ⟨upload, here, List.prefix_rfl, rfl⟩
  · exact beginAppend_writes client here rfl none route

theorem goOn_beginning_writes (client : Client) {turn : Turn}
    (found : server.store.find? turn.id = some upload) (route : Route) :
    (server.goOn client (.beginning turn route)).Writes turn.id upload.offset
      upload.content := by
  have here : server.record? turn.id = some upload := by
    rw [record?, found]
    rfl
  rw [goOn]
  split
  · exact ⟨upload, found, List.prefix_rfl, rfl⟩
  · simp only [here]
    exact beginAppend_writes client found rfl turn route

theorem goOn_appending_writes (client : Client) {turn : Turn} {start : Nat}
    {appending : Appending} (found : server.store.find? turn.id = some upload)
    (underWay : upload.IsUnderWay start)
    (same : upload.content = appending.content) :
    (server.goOn client (.appending turn appending)).Writes turn.id start
      upload.content := by
  rw [goOn]
  split
  · exact ⟨upload, found, List.prefix_rfl, underWay, same⟩
  · exact advanceAppend_writes client found underWay same turn

end Server

/-! ## Stages -/

/--
What a stage says about the record of the upload, given the append with which
the holder of the lease goes on.
-/
def Stage.Fits (law : Law) (id : String) (store : Store)
    (underWay? : Option Appending) : Stage → Prop
  | .unsure | .settled => True
  | .found => store.has id = true
  | .matched => ∃ upload, store.find? id = some upload ∧
      match underWay? with
      | none => law.offset = some upload.offset
      | some appending => ∃ start, law.offset = some start ∧
          upload.IsUnderWay start ∧ upload.content = appending.content
  | .begun => ∃ upload start, store.find? id = some upload ∧
      law.offset = some start ∧ upload.IsUnderWay start

/-- What came of an action agrees with the stage to which it leads. -/
def Performed.FitsIn {reply : Type} (law : Law) (id : String) (stage : Stage)
    (upshot : reply → Upshot) : Performed reply → Prop
  | .answered answer _ after =>
      ∀ next, law.stage? id stage (upshot answer) = some next →
        next.Fits law id after.store none
  | .waiting instead _ _ after =>
      stage.Fits law id after.store instead.underWay?
  | .collapsed _ _ => True

/-- Only appends come to something that is appended. -/
theorem Action.underWay?_eq_none {action : Action}
    (other : ∀ reply id count, action.upshot reply ≠ .appended id count) :
    action.underWay? = none := by
  cases action with
  | goOn begun =>
      cases begun with
      | appending turn appending =>
          exact absurd rfl (other (.ok 0) turn.id (.ok 0))
      | _ => rfl
  | _ => rfl

section Stages

variable {reply : Type} {law : Law} {id : String} {stage : Stage}
  {server : Server} {client : Client} {upshot : reply → Upshot}
  {performed : Performed reply}

theorem Stage.Fits.of_keeps {before after : Store}
    {underWay? : Option Appending} (keeps : before.Keeps id after)
    (fits : stage.Fits law id before underWay?) :
    stage.Fits law id after underWay? := by
  cases stage with
  | unsure | settled => trivial
  | found =>
      rcases Store.exists_find?_of_has fits with ⟨upload, found⟩
      rcases keeps upload found with ⟨expiry, found⟩
      exact Store.has_of_find? found
  | matched =>
      rcases fits with ⟨upload, found, fits⟩
      rcases keeps upload found with ⟨expiry, found⟩
      refine ⟨_, found, ?_⟩
      cases underWay? with
      | none => exact fits
      | some appending =>
          rcases fits with ⟨start, known, underWay, same⟩
          exact ⟨start, known, ⟨underWay.begun, underWay.within⟩, same⟩
  | begun =>
      rcases fits with ⟨upload, start, found, known, underWay⟩
      rcases keeps upload found with ⟨expiry, found⟩
      exact ⟨_, start, found, known, underWay.begun, underWay.within⟩

/-- From the time when the upload has been found it is there. -/
theorem Stage.Fits.has {store : Store} {underWay? : Option Appending}
    (fits : stage.Fits law id store underWay?)
    (later : Stage.found.leadsTo stage = true ∨ stage = .begun) :
    store.has id = true := by
  cases stage with
  | found => exact fits
  | matched =>
      rcases fits with ⟨upload, found, -⟩
      exact Store.has_of_find? found
  | begun =>
      rcases fits with ⟨upload, start, found, -⟩
      exact Store.has_of_find? found
  | unsure | settled => rcases later with contrary | contrary <;> cases contrary

/-- An action that keeps the record, and does not change the stage. -/
theorem Performed.FitsIn.of_keeps
    (keeps : server.store.Keeps id performed.server.store)
    (comes : performed.ComesTo upshot)
    (other : ∀ answer id count, upshot answer ≠ .appended id count)
    (fits : stage.Fits law id server.store none)
    (still : ∀ answer, law.stage? id stage (upshot answer) = some stage) :
    performed.FitsIn law id stage upshot := by
  cases performed with
  | answered answer client after =>
      intro next leads
      rw [still answer] at leads
      cases leads
      exact fits.of_keeps keeps
  | waiting instead same client after =>
      have none : instead.underWay? = none :=
        Action.underWay?_eq_none fun answer id count contrary =>
          other (same answer) id count ((comes.2 answer).symm.trans contrary)
      simp only [FitsIn, none]
      exact fits.of_keeps keeps
  | collapsed client after => trivial

/-- An append to the upload leads on from where it ended. -/
theorem Performed.Writes.fitsIn {performed : Performed (Except Failure Nat)}
    {start : Nat} {before : Bytes} (writes : performed.Writes id start before)
    (known : law.offset = some start) :
    performed.FitsIn law id .matched (.appended id) := by
  cases performed with
  | answered answer client after =>
      rcases writes with ⟨upload, found, -, underWay⟩
      intro next leads
      rcases Law.stage?_appended leads with ⟨-, -, rfl⟩
      cases answer with
      | ok count => exact ⟨upload, start, found, known, underWay⟩
      | error failure => trivial
  | waiting instead same client after =>
      rcases writes with ⟨upload, found, -, going⟩
      refine ⟨upload, found, ?_⟩
      cases underWay : instead.underWay? with
      | none =>
          simp only [underWay] at going
          simp only [known, Upload.offset, going]
      | some appending =>
          simp only [underWay] at going
          exact ⟨start, known, going⟩
  | collapsed client after => trivial

/-- What the store answers agrees with the stage to which it leads. -/
theorem Performed.FitsIn.of_answersAs {asked : Call}
    {performed : Performed (Except Failure asked.Reply)}
    (comes : performed.ComesTo (.called asked))
    (answers : performed.AnswersAs asked server)
    (fits : stage.Fits law id server.store none)
    (answered : ∀ next,
      law.stage? id stage
          (.called asked (server.store.answer server.clock asked).1)
        = some next →
      next.Fits law id (server.store.answer server.clock asked).2 none) :
    performed.FitsIn law id stage (.called asked) := by
  cases performed with
  | answered answer client after =>
      rcases answers with ⟨rfl, left⟩
      intro next leads
      rw [left]
      exact answered next leads
  | waiting instead same client after =>
      have none : instead.underWay? = none :=
        Action.underWay?_eq_none fun answer id count contrary => by
          rw [comes.2 answer] at contrary
          cases contrary
      simp only [FitsIn, none]
      exact fits.of_keeps (.of_eq answers)
  | collapsed client after => trivial

/-- A length that is declared is all that may change of an upload. -/
theorem Store.find?_setLength {store : Store} {upload : Upload}
    (found : store.find? id = some upload) (length : Nat) :
    ∃ known, (store.setLength id length).2.find? id
      = some { upload with length := known } := by
  rw [Store.setLength, found]
  simp only
  split
  · exact ⟨upload.length, found⟩
  · refine ⟨some length, ?_⟩
    rw [Store.find?_modify_self, found]
    rfl

theorem Stage.Fits.setLength {store : Store} (length : Nat)
    (fits : Stage.matched.Fits law id store none) :
    Stage.matched.Fits law id (store.setLength id length).2 none := by
  rcases fits with ⟨upload, found, ends⟩
  rcases Store.find?_setLength found length with ⟨known, found⟩
  exact ⟨_, found, ends⟩

/-- To ask whether the upload is there is to find it. -/
theorem Stage.Fits.has_answered {store : Store} {now : Instant}
    {other : String} (fits : stage.Fits law id store none) {next : Stage}
    (leads : law.stage? id stage
        (.called (.has other) (store.answer now (.has other)).1)
      = some next) : next.Fits law id store none := by
  simp only [Store.answer] at leads
  cases here : store.has other with
  | false =>
      rw [here] at leads
      cases leads
      exact fits
  | true =>
      rw [here] at leads
      simp only [Law.stage?, Option.some.injEq] at leads
      subst leads
      split
      · rename_i found
        rw [found.1] at here
        exact here
      · exact fits

/-- To ask where the upload ends is to find out whether it ends as it should. -/
theorem Stage.Fits.offset_answered {store : Store} {now : Instant}
    (fits : Stage.found.Fits law id store none) {next : Stage}
    (leads : law.stage? id .found
        (.called (.offset id) (store.answer now (.offset id)).1)
      = some next) :
    next.Fits law id (store.answer now (.offset id)).2 none := by
  rcases Store.exists_find?_of_has fits with ⟨upload, found⟩
  have asked : store.answer now (.offset id) = (.ok upload.offset, store) := by
    rw [Store.answer, Store.ask, found]
  rw [asked] at leads ⊢
  simp only [Law.stage?, true_and, Option.some.injEq] at leads
  subst leads
  split
  · exact ⟨upload, found, ‹_›⟩
  · exact fits

/-- A call agrees with the stage to which it leads. -/
theorem Performed.fitsIn_of_call {asked : Call}
    {performed : Performed (Except Failure asked.Reply)}
    (comes : performed.ComesTo (.called asked))
    (spares : performed.Spares (fun id => asked.alters id = false) client
      server)
    (answers : asked.joins = false →
      (∀ other, asked.record? = some other → server.store.has other = true) →
      performed.AnswersAs asked server)
    (fits : stage.Fits law id server.store none)
    (permitted : ∀ answer, ∃ next,
      law.stage? id stage (.called asked answer) = some next) :
    performed.FitsIn law id stage (.called asked) := by
  -- Where the call alters nothing the stage stays what it is, unless the call
  -- finds the upload or its end.
  have gently (spared : asked.alters id = false)
      (still : ∀ answer,
        law.stage? id stage (.called asked answer) = some stage) :
      performed.FitsIn law id stage (.called asked) :=
    .of_keeps (spares.server.records id spared) comes
      (by rintro other count reply ⟨⟩) fits still
  cases asked with
  | has other =>
      refine .of_answersAs comes (answers rfl (by rintro other ⟨⟩)) fits ?_
      exact fun next leads => fits.has_answered leads
  | offset other =>
      by_cases looks : other = id ∧ stage = .found
      · obtain ⟨rfl, rfl⟩ := looks
        refine .of_answersAs comes (answers rfl ?_) fits ?_
        · rintro other ⟨⟩
          exact fits
        · exact fun next leads => fits.offset_answered leads
      · refine gently rfl fun answer => ?_
        cases answer with
        | error failure => rfl
        | ok offset =>
            refine congrArg some (if_neg fun here => looks ?_)
            exact ⟨here.1, here.2.1⟩
  | setLength other length =>
      rcases permitted (.ok ()) with ⟨next, leads⟩
      rcases Law.stage?_setLength leads with ⟨rfl, rfl, -⟩
      refine .of_answersAs comes (answers rfl ?_) fits ?_
      · rintro other ⟨⟩
        exact fits.has (.inl rfl)
      · intro next leads
        rcases Law.stage?_setLength leads with ⟨-, -, rfl⟩
        exact fits.setLength length
  | verify other algorithm hash =>
      rcases permitted (.ok true) with ⟨next, leads⟩
      rcases Law.stage?_verify leads with ⟨rfl, rfl, -⟩
      refine .of_answersAs comes (answers rfl ?_) fits ?_
      · rintro other ⟨⟩
        exact fits.has (.inr rfl)
      · intro next leads
        rcases Law.stage?_verify leads with ⟨-, -, -, rfl⟩
        trivial
  | delete other =>
      refine .of_answersAs comes (answers rfl (by rintro other ⟨⟩)) fits ?_
      intro next leads
      rcases Law.stage?_delete leads with ⟨-, -, rfl⟩
      trivial
  | removeExpired =>
      rcases permitted (.ok 0) with ⟨next, leads⟩
      cases leads
  | _ => exact gently rfl fun _ => rfl

/--
What the holder of a lease does to the upload agrees with the stage to which
that leads.
-/
theorem Server.perform_fitsIn (faultless : server.IsFaultless)
    (client : Client) {action : Action} (sound : action.IsSound)
    (fits : stage.Fits law id server.store action.underWay?)
    (permitted : ∀ reply, ∃ next,
      law.stage? id stage (action.upshot reply) = some next) :
    (server.perform client action).FitsIn law id stage action.upshot := by
  have comes := server.perform_comesTo client sound
  have elsewhere (spared : action.alters id = false)
      (other : action.isLeasing = false)
      (unwritten : ∀ reply id count, action.upshot reply ≠ .appended id count)
      (still : ∀ reply,
        law.stage? id stage (action.upshot reply) = some stage) :
      (server.perform client action).FitsIn law id stage action.upshot := by
    rw [Action.underWay?_eq_none unwritten] at fits
    exact .of_keeps
      ((server.perform_spares faultless client other).server.records id spared)
      comes unwritten fits still
  cases action with
  | acquire other =>
      rcases permitted (.ok none) with ⟨next, leads⟩
      cases leads
  | release lease =>
      rcases permitted () with ⟨next, leads⟩
      cases leads
  | call asked =>
      exact Performed.fitsIn_of_call comes
        (callStore_spares faultless client fun _ here => here)
        (fun plain _ => callStore_answersAs faultless client plain) fits
        permitted
  | append other route =>
      rcases permitted (.ok 0) with ⟨next, leads⟩
      rcases Law.stage?_appended leads with ⟨rfl, rfl, -⟩
      rcases fits with ⟨upload, found, known⟩
      exact (append_writes faultless client found route).fitsIn known
  | trailers | clock | tell event =>
      exact elsewhere rfl rfl nofun fun _ => rfl
  | goOn begun =>
      cases begun with
      | calling turn asked =>
          refine Performed.fitsIn_of_call comes
            (goOn_spares server client fun _ here => here) ?_ fits permitted
          intro plain present
          refine goOn_calling_answersAs server client plain fun other own => ?_
          rw [sound other own]
          exact present other own
      | joining turn content rest ids metadata | reading turn =>
          exact elsewhere rfl rfl nofun fun _ => rfl
      | beginning turn route =>
          rcases permitted (.ok 0) with ⟨next, leads⟩
          rcases Law.stage?_appended leads with ⟨rfl, rfl, -⟩
          rcases fits with ⟨upload, found, known⟩
          exact (goOn_beginning_writes client found route).fitsIn known
      | appending turn appending =>
          rcases permitted (.ok 0) with ⟨next, leads⟩
          rcases Law.stage?_appended leads with ⟨rfl, rfl, -⟩
          rcases fits with ⟨upload, found, start, known, underWay, same⟩
          exact (goOn_appending_writes client found underWay same).fitsIn known

end Stages

end ResumableUpload
