import ResumableUpload.Proofs.Solo.Checks
import ResumableUpload.Proofs.Traffic.Effects
/-!
# How a server drifts

On a server where anything may fail, where hosts break off and where others
are in line, little can be said of what comes of an action.  But an action that
is not about leases leaves the leases alone, no plan of failures gets longer,
and only an action that writes changes the store: `Server.perform_drifts`.
What is performed in place of an action that waits is of the same kind.
-/

namespace ResumableUpload

/-- Whether an action may change the store. -/
def Action.writes : Action → Bool
  | .call asked | .goOn (.calling _ asked) => asked.isNotable
  | .append _ _ | .goOn (.joining _ _ _ _ _) | .goOn (.beginning _ _)
  | .goOn (.appending _ _) => true
  | .acquire _ | .release _ | .trailers | .clock | .tell _
  | .goOn (.reading _) => false

/-- An action that is not about leases, and changes the store only if it may. -/
structure Action.Stays (writes : Bool) (action : Action) : Prop where
  other : action.isLeasing = false
  may : action.writes = true → writes = true

theorem Action.Stays.reads {action : Action} (stays : action.Stays false) :
    action.writes = false :=
  Bool.eq_false_iff.2 fun writes => nomatch stays.may writes

/-- An action that is not about leases and writes nothing stays what it is. -/
theorem Action.Stays.of_reads {writes : Bool} {action : Action}
    (other : action.isLeasing = false) (reads : action.writes = false) :
    action.Stays writes :=
  ⟨other, fun does => nomatch reads.symm.trans does⟩

/--
The leases and what becomes of them when they are dropped are the same, no
plan of failures is longer, and the store is the same unless it may change.
-/
structure Server.Drifts (writes : Bool) (before after : Server) : Prop where
  locks : after.locks = before.locks
  dropsAtOnce : after.dropsAtOnce = before.dropsAtOnce
  faults : ∀ operation,
    after.faults operation <:+ before.faults operation
  store : writes = false → after.store = before.store

namespace Server.Drifts

variable {writes : Bool} {before middle after : Server}

theorem refl (server : Server) : server.Drifts writes server :=
  ⟨rfl, rfl, fun _ => List.suffix_rfl, fun _ => rfl⟩

theorem trans (first : before.Drifts writes middle)
    (second : middle.Drifts writes after) : before.Drifts writes after where
  locks := second.locks.trans first.locks
  dropsAtOnce := second.dropsAtOnce.trans first.dropsAtOnce
  faults operation :=
    (second.faults operation).trans (first.faults operation)
  store still := (second.store still).trans (first.store still)

theorem note (server : Server) (entry : LogEntry) :
    server.Drifts writes (server.note entry) :=
  ⟨rfl, rfl, fun _ => List.suffix_rfl, fun _ => rfl⟩

theorem join (server : Server) (id : String) :
    server.Drifts writes (server.join id).2 :=
  ⟨rfl, rfl, fun _ => List.suffix_rfl, fun _ => rfl⟩

theorem leave (server : Server) (turn? : Option Turn) :
    server.Drifts writes (server.leave turn?) := by
  cases turn? <;> exact ⟨rfl, rfl, fun _ => List.suffix_rfl, fun _ => rfl⟩

/-- A failure that was planned happens once. -/
theorem nextFault (server : Server) (operation : Operation) :
    server.Drifts writes (server.nextFault operation).2 := by
  rw [Server.nextFault]
  split
  · exact .refl server
  · rename_i fault later planned
    refine ⟨rfl, rfl, fun other => ?_, fun _ => rfl⟩
    by_cases same : other = operation
    · subst same
      simp only [if_true, planned]
      exact List.suffix_cons fault later
    · simp only [if_neg same]
      exact List.suffix_rfl

theorem nextReaction (server : Server) (hook : Hook) :
    server.Drifts writes (server.nextReaction hook).2 := by
  rw [Server.nextReaction]
  split <;> exact ⟨rfl, rfl, fun _ => List.suffix_rfl, fun _ => rfl⟩

theorem changeRecord (server : Server) (id : String)
    (change : Upload → Upload) :
    server.Drifts true (server.changeRecord id change) :=
  ⟨rfl, rfl, fun _ => List.suffix_rfl, nofun⟩

variable {asked : Call}

theorem answer (server : Server)
    (may : asked.isNotable = true → writes = true) :
    server.Drifts writes (server.answer asked).2 := by
  refine ⟨rfl, rfl, fun _ => List.suffix_rfl, fun still => ?_⟩
  refine Store.answer_of_not_isNotable server.store server.clock ?_
  simpa [still] using may

theorem answerInTurn (server : Server) (turn : Turn)
    (may : asked.isNotable = true → writes = true) :
    server.Drifts writes (server.answerInTurn turn asked).2 := by
  rw [Server.answerInTurn]
  split
  · exact .answer server may
  · exact ⟨rfl, rfl, fun _ => List.suffix_rfl, fun _ => rfl⟩

end Server.Drifts

namespace Performed

variable {reply : Type}

/-- What is performed in place of an action that waits stays what it was. -/
def Stays (writes : Bool) : Performed reply → Prop
  | .waiting instead _ _ _ => instead.Stays writes
  | .answered _ _ _ | .collapsed _ _ => True

/-- What came of an action that is not about leases. -/
structure Drifts (writes : Bool) (client : Client) (server : Server)
    (performed : Performed reply) : Prop where
  server : server.Drifts writes performed.server
  lease : performed.client.lease = client.lease
  stays : performed.Stays writes

variable {writes : Bool} {client : Client} {before after : Server}

theorem Drifts.of_server {performed : Performed reply}
    (first : before.Drifts writes after)
    (second : performed.Drifts writes client after) :
    performed.Drifts writes client before :=
  ⟨first.trans second.server, second.lease, second.stays⟩

end Performed

namespace Server

variable {writes : Bool}

theorem waitFor_drifts (server : Server) (client : Client)
    {begun : Unfinished}
    (may : (Action.goOn begun).writes = true → writes = true) :
    (server.waitFor client begun).Drifts writes client server :=
  ⟨.refl server, rfl, rfl, may⟩

theorem joinRest_drifts (server : Server) (client : Client)
    (ids : List String) (metadata : Option String) (content : Bytes)
    (rest : List String) :
    (server.joinRest client ids metadata content rest).Drifts true client
      server := by
  rw [joinRest]
  split
  · exact ⟨.refl server, rfl, trivial⟩
  · split
    · exact ⟨⟨rfl, rfl, fun _ => List.suffix_rfl, by rintro ⟨⟩⟩, rfl,
        trivial⟩
    · exact .of_server (.join server _) (waitFor_drifts _ client fun _ => rfl)

theorem attend_drifts (server : Server) (client : Client) {asked : Call}
    (may : asked.isNotable = true → writes = true) :
    (server.attend client asked).Drifts writes client server := by
  rw [attend.eq_def]
  split
  · exact ⟨.refl server, rfl, trivial⟩
  · split
    · exact ⟨.answer server may, rfl, trivial⟩
    · split
      · cases may rfl
        exact joinRest_drifts server client _ _ _ _
      · exact .of_server (.join server _) (waitFor_drifts _ client may)

theorem callStore_drifts (server : Server) (client : Client) {asked : Call}
    (may : asked.isNotable = true → writes = true) :
    (server.callStore client asked).Drifts writes client server := by
  have noted : server.Drifts writes
      ((server.note (.called asked)).nextFault asked.operation).2 :=
    .trans (.note server _) (.nextFault _ _)
  rw [callStore]
  generalize (server.note (.called asked)).nextFault asked.operation = next
    at noted ⊢
  rcases next with ⟨_ | failure, after⟩
  · exact .of_server noted (attend_drifts after client may)
  · exact ⟨noted, rfl, trivial⟩

theorem advanceAppend_drifts (server : Server) (client : Client) (id : String)
    (turn? : Option Turn) (appending : Appending) :
    (server.advanceAppend client id turn? appending).Drifts true client
      server := by
  unfold advanceAppend
  simp only
  split
  · exact ⟨.trans (.changeRecord server id _) (.leave _ turn?), rfl, trivial⟩
  · split
    · exact ⟨.changeRecord server id _, rfl, rfl, fun _ => rfl⟩
    · exact ⟨.trans (.changeRecord server id _) (.join _ id), rfl, rfl,
        fun _ => rfl⟩

theorem beginAppend_drifts (server : Server) (client : Client) (id : String)
    (turn? : Option Turn) (route : Route) (upload : Upload) :
    (server.beginAppend client id turn? route upload).Drifts true client
      server := by
  have begun : server.Drifts true (server.changeRecord id Upload.beginChunk) :=
    .changeRecord server id _
  rw [beginAppend]
  split
  · exact .of_server begun (advanceAppend_drifts _ client id turn? _)
  · exact ⟨begun.trans (.leave _ turn?), rfl, trivial⟩

theorem append_drifts (server : Server) (client : Client) (id : String)
    (route : Route) :
    (server.append client id route).Drifts true client server := by
  have noted : server.Drifts true
      ((server.note (.appended id route)).nextFault route.operation).2 :=
    .trans (.note server _) (.nextFault _ _)
  rw [append]
  generalize (server.note (.appended id route)).nextFault route.operation
    = next at noted ⊢
  rcases next with ⟨_ | failure, after⟩
  · simp only
    split
    · exact ⟨noted, rfl, trivial⟩
    · split
      · exact .of_server (noted.trans (.join after id))
          (waitFor_drifts _ client fun _ => rfl)
      · exact .of_server noted (beginAppend_drifts after client id none route _)
  · exact ⟨noted, rfl, trivial⟩

theorem lookForTrailers_drifts (server : Server) (client : Client) :
    (server.lookForTrailers client).Drifts writes client server := by
  rw [lookForTrailers]
  split
  · exact ⟨.refl server, rfl, trivial⟩
  · split
    · exact ⟨.refl server, rfl, rfl, by rintro ⟨⟩⟩
    · exact ⟨.refl server, rfl, trivial⟩
    · exact ⟨.refl server, rfl, trivial⟩
    · exact ⟨.refl server, rfl, trivial⟩

theorem react_drifts (server : Server) (client : Client) (event : Event)
    (file : Except Failure (Option StoredFile)) :
    (server.react client event file).Drifts writes client server := by
  have reacted : server.Drifts writes
      ((server.note (.told event file)).nextReaction event.hook).2 :=
    .trans (.note server _) (.nextReaction _ _)
  rw [react]
  generalize (server.note (.told event file)).nextReaction event.hook = next
    at reacted ⊢
  rcases next with ⟨_ | (_ | _), after⟩ <;> exact ⟨reacted, rfl, trivial⟩

theorem readBack_drifts (server : Server) (client : Client) (id : String) :
    (server.readBack client id).Drifts writes client server := by
  have noted : server.Drifts writes
      ((server.note (.called (.read id))).nextFault .read).2 :=
    .trans (.note server _) (.nextFault _ _)
  rw [readBack]
  split
  · generalize (server.note (.called (.read id))).nextFault .read = next
      at noted ⊢
    rcases next with ⟨_ | failure, after⟩
    · simp only
      split
      · exact .of_server (noted.trans (.join after id))
          (waitFor_drifts _ client (by rintro ⟨⟩))
      · exact .of_server (noted.trans (.answer after (by rintro ⟨⟩)))
          (react_drifts _ client _ _)
    · exact .of_server noted (react_drifts after client _ _)
  · exact react_drifts server client _ _

theorem tellHost_drifts (server : Server) (client : Client) (event : Event) :
    (server.tellHost client event).Drifts writes client server := by
  rw [tellHost.eq_def]
  split
  · exact ⟨.refl server, rfl, trivial⟩
  · split
    · exact readBack_drifts server client _
    · exact react_drifts server client _ _

theorem goOn_drifts (server : Server) (client : Client) {begun : Unfinished}
    (may : (Action.goOn begun).writes = true → writes = true) :
    (server.goOn client begun).Drifts writes client server := by
  have left (turn : Turn) : server.Drifts writes (server.leave (some turn)) :=
    .leave server turn
  rw [goOn.eq_def]
  split
  · exact waitFor_drifts server client may
  · cases begun with
    | calling turn asked =>
        simp only
        split
        · exact ⟨.trans (.answerInTurn server turn may)
            (.leave (server.answerInTurn turn asked).2 turn), rfl, trivial⟩
        · exact .of_server (left turn) (attend_drifts _ client may)
    | joining turn content rest ids metadata =>
        cases may rfl
        exact .of_server (left turn) (joinRest_drifts _ client _ _ _ _)
    | beginning turn route =>
        cases may rfl
        simp only
        split
        · exact beginAppend_drifts server client _ _ route _
        · exact ⟨left turn, rfl, trivial⟩
    | appending turn appending =>
        cases may rfl
        exact advanceAppend_drifts server client _ _ appending
    | reading turn =>
        have read : server.Drifts writes
            ((server.answerInTurn turn (.read turn.id)).2.leave turn) :=
          .trans (.answerInTurn server turn (by rintro ⟨⟩)) (.leave _ turn)
        exact .of_server read (react_drifts _ client _ _)

/-- What comes of an action that is not about leases. -/
theorem perform_drifts (server : Server) (client : Client) {action : Action}
    (stays : action.Stays writes) :
    (server.perform client action).Drifts writes client server := by
  cases action with
  | call asked => exact callStore_drifts server client stays.may
  | append id route =>
      cases stays.may rfl
      exact append_drifts server client id route
  | trailers => exact lookForTrailers_drifts server client
  | clock =>
      rw [perform]
      split <;> exact ⟨.refl server, rfl, trivial⟩
  | tell event => exact tellHost_drifts server client event
  | goOn begun => exact goOn_drifts server client stays.may
  | acquire id | release lease => cases stays.other

end Server

/-! ## Inquiries, work and tidings -/

theorem Action.writes_of_isInquiry {action : Action}
    (inquires : action.isInquiry = true) : action.writes = false := by
  cases action with
  | call asked => exact (Bool.not_eq_true' asked.isNotable).mp inquires
  | clock => rfl
  | _ => cases inquires

theorem Action.stays_of_isInquiry {writes : Bool} {action : Action}
    (inquires : action.isInquiry = true) : action.Stays writes := by
  refine .of_reads ?_ (writes_of_isInquiry inquires)
  cases action with
  | call asked => rfl
  | clock => rfl
  | _ => cases inquires

theorem Action.stays_of_isWork {action : Action}
    (works : action.isWork = true) : action.Stays true := by
  cases action with
  | call | append | trailers | clock => exact ⟨rfl, fun _ => rfl⟩
  | _ => cases works

/-- To tell the host something is not about leases, and writes nothing. -/
theorem Action.tell_stays {writes : Bool} (event : Event) :
    (Action.tell event).Stays writes :=
  .of_reads rfl rfl

namespace Protocol

theorem tellBefore_stays {writes : Bool} (event? : Option Event) :
    (tellBefore event?).Uses (Action.Stays writes) := by
  cases event? with
  | none => exact .pure Verdict.proceed
  | some event => exact .tell (Action.tell_stays event)

theorem tellOutcome_stays {writes : Bool} (exchange : Exchange)
    (outcome : Outcome) :
    (tellOutcome exchange outcome).Uses (Action.Stays writes) := by
  cases outcome with
  | created id length complete =>
      refine .bind (.tell (Action.tell_stays _)) ?_
      intro verdict
      split
      · exact .pure verdict
      · exact .tell (Action.tell_stays _)
  | written id complete =>
      rw [tellOutcome]
      split
      · exact .tell (Action.tell_stays _)
      · exact .pure Verdict.proceed
  | deleted id => exact .tell (Action.tell_stays _)
  | settled => exact .pure Verdict.proceed

end Protocol

end ResumableUpload
