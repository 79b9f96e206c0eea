import ResumableUpload.Proofs.Copy.Extension
import ResumableUpload.Proofs.Solo.Depiction
import ResumableUpload.Proofs.Store.Records
import ResumableUpload.Proofs.Traffic.Standing
/-!
# What an action does to the others

On a server with requests in each other's way an action may be answered, may
have to wait or may collapse.  Whatever comes of it, it leaves the content, the
length and the presence of an upload alone unless it is an action that alters
them, and it leaves the leases alone unless it is about them:
`Server.perform_spares`.  What is performed in place of an action that waits
comes to the same upshot: `Server.perform_comesTo`.
-/

namespace ResumableUpload

/-! ## Records -/

/-- The record of an upload is as it was, but for the end of its life. -/
def Store.Keeps (id : String) (before after : Store) : Prop :=
  ∀ upload, before.find? id = some upload →
    ∃ expiry, after.find? id = some { upload with expiry := expiry }

namespace Store

variable {store before middle after : Store} {id other : String}

namespace Keeps

theorem refl (id : String) (store : Store) : Keeps id store store :=
  fun upload found => ⟨upload.expiry, found⟩

theorem of_eq (same : after = before) : Keeps id before after :=
  same ▸ refl id before

theorem trans (first : Keeps id before middle)
    (second : Keeps id middle after) :
    Keeps id before after := by
  intro upload found
  rcases first upload found with ⟨expiry, found⟩
  rcases second _ found with ⟨later, found⟩
  exact ⟨later, found⟩

theorem of_altersAt (alters : AltersAt other before after)
    (apart : id ≠ other) : Keeps id before after := by
  intro upload found
  exact ⟨upload.expiry, (alters.others id apart).trans found⟩

theorem insert (upload : Upload) : Keeps id store (store.insert upload).2 := by
  intro old found
  refine ⟨old.expiry, ?_⟩
  rw [find?_insert, found]
  rfl

end Keeps

/-- A call that does not alter an upload keeps its record. -/
theorem answer_keeps (now : Instant) {asked : Call}
    (spares : asked.alters id = false) :
    Keeps id store (store.answer now asked).2 := by
  cases asked with
  | has | read | algorithms | expired => exact .refl id store
  | length other | offset other | metadata other | part other | expiry other =>
      rw [answer, ask]
      split <;> exact .refl id store
  | create | createPiece => exact .insert _
  | createJoined ids metadata =>
      rw [answer, createJoined]
      split
      · exact .refl id store
      · exact .insert _
  | setExpiry other expiry =>
      rw [answer, change]
      split
      · intro upload found
        by_cases same : id = other
        · subst same
          exact ⟨some expiry, by rw [find?_modify_self, found]; rfl⟩
        · exact ⟨upload.expiry, by rw [find?_modify, if_neg same]; exact found⟩
      · exact .refl id store
  | delete other =>
      have apart : id ≠ other := fun same => by
        simp [Call.alters, same] at spares
      rw [answer]
      split
      · intro upload found
        exact ⟨upload.expiry, by rw [find?_erase, if_neg apart]; exact found⟩
      · exact .refl id store
  | setLength other length =>
      have apart : id ≠ other := fun same => by
        simp [Call.alters, same] at spares
      rw [answer, setLength]
      split
      · exact .refl id store
      · split
        · exact .refl id store
        · change Keeps id store (store.modify other _)
          exact .of_altersAt (.modify store other _) apart
  | verify other algorithm hash =>
      have apart : id ≠ other := fun same => by
        simp [Call.alters, same] at spares
      rw [answer, verify]
      split
      · exact .refl id store
      · change Keeps id store (store.modify other _)
        exact .of_altersAt (.modify store other _) apart
  | removeExpired => cases spares

end Store

/-! ## Servers -/

/--
Configuration, plan of failures and leases are the same, and some records are
kept.
-/
structure Server.Spares (spared : String → Prop) (before after : Server) :
    Prop where
  service : after.service = before.service
  faults : after.faults = before.faults
  locks : after.locks = before.locks
  records : ∀ id, spared id → before.store.Keeps id after.store

namespace Server.Spares

variable {spared : String → Prop} {before middle after server : Server}

theorem refl (server : Server) : server.Spares spared server :=
  ⟨rfl, rfl, rfl, fun id _ => .refl id server.store⟩

theorem trans (first : before.Spares spared middle)
    (second : middle.Spares spared after) : before.Spares spared after where
  service := second.service.trans first.service
  faults := second.faults.trans first.faults
  locks := second.locks.trans first.locks
  records id spared :=
    (first.records id spared).trans (second.records id spared)

theorem note (server : Server) (entry : LogEntry) :
    server.Spares spared (server.note entry) :=
  ⟨rfl, rfl, rfl, fun id _ => .refl id server.store⟩

theorem join (server : Server) (id : String) :
    server.Spares spared (server.join id).2 :=
  ⟨rfl, rfl, rfl, fun id _ => .refl id server.store⟩

theorem leave (server : Server) (turn? : Option Turn) :
    server.Spares spared (server.leave turn?) := by
  cases turn? <;> exact ⟨rfl, rfl, rfl, fun id _ => .refl id server.store⟩

theorem changeRecord (server : Server) {id : String}
    (apart : ∀ other, spared other → other ≠ id) (change : Upload → Upload) :
    server.Spares spared (server.changeRecord id change) :=
  ⟨rfl, rfl, rfl, fun other spared =>
    .of_altersAt (.modify server.store id change) (apart other spared)⟩

variable {asked : Call}

theorem answer (server : Server)
    (gentle : ∀ id, spared id → asked.alters id = false) :
    server.Spares spared (server.answer asked).2 :=
  ⟨rfl, rfl, rfl, fun id spared =>
    Store.answer_keeps server.clock (gentle id spared)⟩

theorem answerInTurn (server : Server) (turn : Turn)
    (gentle : ∀ id, spared id → asked.alters id = false) :
    server.Spares spared (server.answerInTurn turn asked).2 := by
  rw [Server.answerInTurn]
  split
  · exact .answer server gentle
  · exact ⟨rfl, rfl, rfl, fun id _ => .refl id server.store⟩

end Server.Spares

namespace Performed

variable {reply : Type}

/-- The server after what came of an action. -/
def server : Performed reply → Server
  | .answered _ _ server | .waiting _ _ _ server | .collapsed _ server => server

/-- The client after what came of an action. -/
def client : Performed reply → Client
  | .answered _ client _ | .waiting _ _ client _ | .collapsed client _ => client

/-- What came of an action leaves leases alone, and keeps some records. -/
structure Spares (spared : String → Prop) (client : Client) (server : Server)
    (performed : Performed reply) : Prop where
  server : server.Spares spared performed.server
  lease : performed.client.lease = client.lease

variable {spared : String → Prop} {client : Client} {before after : Server}

theorem Spares.of_server {performed : Performed reply}
    (first : before.Spares spared after)
    (second : performed.Spares spared client after) :
    performed.Spares spared client before :=
  ⟨first.trans second.server, second.lease⟩

end Performed

namespace Server

variable {server : Server} {client : Client} {spared : String → Prop}
  {asked : Call}

/-- Nothing will fail. -/
def IsFaultless (server : Server) : Prop :=
  ∀ operation, server.faults operation = []

theorem IsFaultless.nextFault (faultless : server.IsFaultless)
    (operation : Operation) : server.nextFault operation = (none, server) :=
  nextFault_of_faultless (faultless operation)

theorem IsFaultless.note (faultless : server.IsFaultless) (entry : LogEntry) :
    (server.note entry).IsFaultless :=
  faultless

/-! ## Actions spare records -/

theorem waitFor_spares (server : Server) (client : Client)
    (begun : Unfinished) :
    (server.waitFor client begun).Spares spared client server :=
  ⟨.refl server, rfl⟩

theorem joinRest_spares (server : Server) (client : Client)
    (ids : List String) (metadata : Option String) (content : Bytes)
    (rest : List String) :
    (server.joinRest client ids metadata content rest).Spares spared client
      server := by
  rw [joinRest]
  split
  · exact ⟨.refl server, rfl⟩
  · split
    · exact ⟨⟨rfl, rfl, rfl, fun id _ => .insert _⟩, rfl⟩
    · exact ⟨.join server _, rfl⟩

theorem attend_spares (server : Server) (client : Client)
    (gentle : ∀ id, spared id → asked.alters id = false) :
    (server.attend client asked).Spares spared client server := by
  rw [attend.eq_def]
  split
  · exact ⟨.refl server, rfl⟩
  · split
    · exact ⟨.answer server gentle, rfl⟩
    · split
      · exact joinRest_spares server client _ _ _ _
      · exact ⟨.join server _, rfl⟩

theorem callStore_spares (faultless : server.IsFaultless) (client : Client)
    (gentle : ∀ id, spared id → asked.alters id = false) :
    (server.callStore client asked).Spares spared client server := by
  rw [callStore, (faultless.note _).nextFault]
  simp only
  exact .of_server (.note server (.called asked))
    (attend_spares _ client gentle)

theorem advanceAppend_spares (server : Server) (client : Client) {id : String}
    (apart : ∀ other, spared other → other ≠ id) (turn? : Option Turn)
    (appending : Appending) :
    (server.advanceAppend client id turn? appending).Spares spared client
      server := by
  unfold advanceAppend
  simp only
  split
  · exact ⟨.trans (.changeRecord server apart _) (.leave _ turn?), rfl⟩
  · split
    · exact ⟨.changeRecord server apart _, rfl⟩
    · exact ⟨.trans (.changeRecord server apart _) (.join _ id), rfl⟩

theorem beginAppend_spares (server : Server) (client : Client) {id : String}
    (apart : ∀ other, spared other → other ≠ id) (turn? : Option Turn)
    (route : Route) (upload : Upload) :
    (server.beginAppend client id turn? route upload).Spares spared client
      server := by
  have begun : server.Spares spared
      (server.changeRecord id Upload.beginChunk) := .changeRecord server apart _
  rw [beginAppend]
  split
  · exact .of_server begun (advanceAppend_spares _ client apart turn? _)
  · exact ⟨begun.trans (.leave _ turn?), rfl⟩

theorem append_spares (faultless : server.IsFaultless) (client : Client)
    {id : String} (apart : ∀ other, spared other → other ≠ id)
    (route : Route) :
    (server.append client id route).Spares spared client server := by
  have noted : server.Spares spared (server.note (.appended id route)) :=
    .note server _
  rw [append, (faultless.note _).nextFault]
  simp only
  split
  · exact ⟨noted, rfl⟩
  · split
    · exact ⟨noted.trans (.join _ id), rfl⟩
    · exact .of_server noted (beginAppend_spares _ client apart none route _)

theorem react_spares (server : Server) (client : Client) (event : Event)
    (file : Except Failure (Option StoredFile)) :
    (server.react client event file).Spares spared client server := by
  have reacted : server.Spares spared
      ((server.note (.told event file)).nextReaction event.hook).2 := by
    rw [nextReaction]
    split <;> exact ⟨rfl, rfl, rfl, fun id _ => .refl id server.store⟩
  rw [react]
  generalize (server.note (.told event file)).nextReaction event.hook = next
    at reacted ⊢
  rcases next with ⟨_ | (_ | _), after⟩ <;> exact ⟨reacted, rfl⟩

theorem readBack_spares (faultless : server.IsFaultless) (client : Client)
    (id : String) :
    (server.readBack client id).Spares spared client server := by
  have noted : server.Spares spared (server.note (.called (.read id))) :=
    .note server _
  rw [readBack, (faultless.note _).nextFault]
  split
  · simp only
    split
    · exact ⟨noted.trans (.join _ id), rfl⟩
    · exact .of_server (noted.trans (.answer _ fun _ _ => rfl))
        (react_spares _ client _ _)
  · exact react_spares server client _ _

theorem tellHost_spares (faultless : server.IsFaultless) (client : Client)
    (event : Event) :
    (server.tellHost client event).Spares spared client server := by
  rw [tellHost.eq_def]
  split
  · exact ⟨.refl server, rfl⟩
  · split
    · exact readBack_spares faultless client _
    · exact react_spares server client _ _

theorem goOn_spares (server : Server) (client : Client) {begun : Unfinished}
    (gentle : ∀ id, spared id → (Action.goOn begun).alters id = false) :
    (server.goOn client begun).Spares spared client server := by
  have left (turn : Turn) : server.Spares spared (server.leave (some turn)) :=
    .leave server turn
  have apart {turn : Turn} (gentle : ∀ id, spared id → (turn.id == id) = false)
      (other : String) (here : spared other) : other ≠ turn.id := fun same => by
    have := gentle other here
    simp [same] at this
  rw [goOn.eq_def]
  split
  · exact waitFor_spares server client begun
  · cases begun with
    | calling turn asked =>
        simp only
        split
        · exact ⟨.trans (.answerInTurn server turn gentle)
            (.leave (server.answerInTurn turn asked).2 turn), rfl⟩
        · exact .of_server (left turn) (attend_spares _ client gentle)
    | joining turn content rest ids metadata =>
        exact .of_server (left turn) (joinRest_spares _ client _ _ _ _)
    | beginning turn route =>
        simp only
        split
        · exact beginAppend_spares server client (apart gentle) _ route _
        · exact ⟨left turn, rfl⟩
    | appending turn appending =>
        exact advanceAppend_spares server client (apart gentle) _ appending
    | reading turn =>
        have read : server.Spares spared
            ((server.answerInTurn turn (.read turn.id)).2.leave turn) :=
          .trans (.answerInTurn server turn fun _ _ => rfl) (.leave _ turn)
        exact .of_server read (react_spares _ client _ _)

/-- An action keeps the records that it does not alter. -/
theorem perform_spares (faultless : server.IsFaultless) (client : Client)
    {action : Action} (other : action.isLeasing = false) :
    (server.perform client action).Spares
      (fun id => action.alters id = false) client server := by
  cases action with
  | call asked => exact callStore_spares faultless client fun _ here => here
  | append id route =>
      refine append_spares faultless client (fun other here same => ?_) route
      simp [Action.alters, same] at here
  | trailers =>
      rw [perform, lookForTrailers]
      split
      · exact ⟨.refl server, rfl⟩
      · split <;> exact ⟨.refl server, rfl⟩
  | clock =>
      rw [perform]
      split <;> exact ⟨.refl server, rfl⟩
  | tell event => exact tellHost_spares faultless client event
  | goOn begun => exact goOn_spares server client fun _ here => here
  | acquire id | release lease => cases other

end Server

/-! ## Upshots -/

/--
If an action waits, what is performed in its place is sound and comes to the
same upshot.
-/
def Performed.ComesTo {reply : Type} (upshot : reply → Upshot) :
    Performed reply → Prop
  | .waiting instead same _ _ =>
      instead.IsSound ∧ ∀ answer, instead.upshot answer = upshot (same answer)
  | .answered _ _ _ | .collapsed _ _ => True

/-- A call about one upload uses the record of that upload. -/
theorem Call.eq_of_mem_records {asked : Call} {store : Store}
    {id other : String} (used : id ∈ asked.records store)
    (own : asked.record? = some other) : id = other := by
  cases asked
  all_goals cases own
  all_goals exact List.mem_singleton.1 used

namespace Server

variable {server : Server} {client : Client}

theorem joinRest_comesTo (server : Server) (client : Client)
    (ids : List String) (metadata : Option String) (content : Bytes)
    (rest : List String) :
    (server.joinRest client ids metadata content rest).ComesTo
      (.called (.createJoined ids metadata)) := by
  rw [joinRest]
  split
  · trivial
  · split
    · trivial
    · exact ⟨trivial, fun _ => rfl⟩

theorem attend_comesTo (server : Server) (client : Client) (asked : Call) :
    (server.attend client asked).ComesTo (.called asked) := by
  rw [attend.eq_def]
  split
  · trivial
  · split
    · trivial
    · rename_i id used
      split
      · exact joinRest_comesTo server client _ _ _ _
      · refine ⟨fun other own => ?_, fun _ => rfl⟩
        exact Call.eq_of_mem_records (List.mem_of_find?_eq_some used) own

theorem callStore_comesTo (server : Server) (client : Client) (asked : Call) :
    (server.callStore client asked).ComesTo (.called asked) := by
  rw [callStore]
  split
  · trivial
  · exact attend_comesTo _ client asked

theorem advanceAppend_comesTo (server : Server) (client : Client) {id : String}
    {turn? : Option Turn} (own : ∀ turn ∈ turn?, turn.id = id)
    (appending : Appending) :
    (server.advanceAppend client id turn? appending).ComesTo
      (.appended id) := by
  unfold advanceAppend
  simp only
  split
  · trivial
  · split
    · rename_i turn
      refine ⟨trivial, fun answer => ?_⟩
      rw [← own turn rfl]
      rfl
    · exact ⟨trivial, fun _ => rfl⟩

theorem beginAppend_comesTo (server : Server) (client : Client) {id : String}
    {turn? : Option Turn} (own : ∀ turn ∈ turn?, turn.id = id) (route : Route)
    (upload : Upload) :
    (server.beginAppend client id turn? route upload).ComesTo
      (.appended id) := by
  rw [beginAppend]
  split
  · exact advanceAppend_comesTo _ client own _
  · trivial

theorem append_comesTo (server : Server) (client : Client) (id : String)
    (route : Route) :
    (server.append client id route).ComesTo (.appended id) := by
  rw [append]
  split
  · trivial
  · split
    · trivial
    · split
      · exact ⟨trivial, fun _ => rfl⟩
      · exact beginAppend_comesTo _ client (by simp) route _

theorem react_comesTo (server : Server) (client : Client) (event : Event)
    (file : Except Failure (Option StoredFile)) :
    (server.react client event file).ComesTo (.told event) := by
  rw [react]
  split <;> trivial

theorem readBack_comesTo (server : Server) (client : Client) (id : String) :
    (server.readBack client id).ComesTo (.told (.fileComplete id)) := by
  rw [readBack]
  split
  · split
    · exact react_comesTo _ client _ _
    · split
      · exact ⟨trivial, fun _ => rfl⟩
      · exact react_comesTo _ client _ _
  · exact react_comesTo server client _ _

theorem tellHost_comesTo (server : Server) (client : Client) (event : Event) :
    (server.tellHost client event).ComesTo (.told event) := by
  rw [tellHost.eq_def]
  split
  · trivial
  · split
    · exact readBack_comesTo server client _
    · exact react_comesTo server client _ _

theorem goOn_comesTo (server : Server) (client : Client) {begun : Unfinished}
    (sound : (Action.goOn begun).IsSound) :
    (server.goOn client begun).ComesTo (Action.goOn begun).upshot := by
  rw [goOn.eq_def]
  split
  · exact ⟨sound, fun _ => rfl⟩
  · cases begun with
    | calling turn asked =>
        simp only
        split
        · trivial
        · exact attend_comesTo _ client asked
    | joining turn content rest ids metadata =>
        exact joinRest_comesTo _ client _ _ _ _
    | beginning turn route =>
        simp only
        split
        · refine beginAppend_comesTo server client ?_ route _
          rintro other ⟨⟩
          rfl
        · trivial
    | appending turn appending =>
        refine advanceAppend_comesTo server client ?_ appending
        rintro other ⟨⟩
        rfl
    | reading turn => exact react_comesTo _ client _ _

/-- What is performed in place of an action comes to the same upshot. -/
theorem perform_comesTo (server : Server) (client : Client) {action : Action}
    (sound : action.IsSound) :
    (server.perform client action).ComesTo action.upshot := by
  cases action with
  | acquire id =>
      rw [perform]
      split <;> trivial
  | release lease => trivial
  | call asked => exact callStore_comesTo server client asked
  | append id route => exact append_comesTo server client id route
  | trailers =>
      rw [perform, lookForTrailers]
      split
      · trivial
      · split
        · exact ⟨trivial, fun _ => rfl⟩
        · trivial
        · trivial
        · trivial
  | clock =>
      rw [perform]
      split <;> trivial
  | tell event => exact tellHost_comesTo server client event
  | goOn begun => exact goOn_comesTo server client sound

end Server

end ResumableUpload
