import ResumableUpload.Proofs.Solo.Scene
import ResumableUpload.Server.Idle
/-!
# Scenes depict quiet servers

A quiet server is one on which nobody waits and nothing fails.  What a program
does on it, with all the news that reach its client, is what the program does
on the scene of that server: `Server.IsQuiet.conduct_depicts`.  The proof goes
action by action.  Only two actions ever wait, the append and the look for
trailing fields, and each is an induction on the news; while an append waits,
the turn that it keeps is the only one in line, so that its turn has always
come.

`Server.IsQuiet.visit_depicts` then says in which state a visit leaves the
server.
-/

namespace ResumableUpload

/-- What the log tells of the host. -/
def LogEntry.told? :
    LogEntry → Option (Event × Except Failure (Option StoredFile))
  | .told event file => some (event, file)
  | .called _ | .appended _ _ => none

/-- The turn that is kept while an action is waited for. -/
def Action.turn? : Action → Option Turn
  | .goOn begun => some begun.turn
  | _ => none

theorem Program.turn?_act {α : Type} (action : Action)
    (next : action.Reply → Program α) :
    (Program.act action next).turn? = action.turn? := by
  cases action <;> rfl

namespace Server

/-- What matters to a request on a quiet server. -/
def scene (server : Server) (client : Client) (news : List News) : Scene :=
  { service := server.service
    settings := server.settings
    clock := server.clock
    store := server.store
    locks := server.locks
    hooks := server.hooks
    told := server.log.filterMap LogEntry.told?
    client := client
    news := news }

/-- Nobody waits, and nothing will fail. -/
structure IsQuiet (server : Server) : Prop where
  idle : server.IsIdle
  faultless : ∀ operation, server.faults operation = []

theorem nextFault_of_faultless {server : Server} {operation : Operation}
    (faultless : server.faults operation = []) :
    server.nextFault operation = (none, server) := by
  rw [nextFault, faultless]

theorem IsQuiet.nextFault {server : Server} (quiet : server.IsQuiet)
    (operation : Operation) :
    server.nextFault operation = (none, server) :=
  nextFault_of_faultless (quiet.faultless operation)

/-- The log has no influence on whether a server is quiet. -/
theorem IsQuiet.note {server : Server} (quiet : server.IsQuiet)
    (entry : LogEntry) : (server.note entry).IsQuiet :=
  ⟨quiet.idle, quiet.faultless⟩

/-- On a quiet server a turn that is not in line can be left without effect. -/
theorem IsQuiet.leave {server : Server} (quiet : server.IsQuiet)
    (turn? : Option Turn) : (server.leave turn?).IsQuiet := by
  cases turn? with
  | none => exact quiet
  | some turn =>
      have nobody : server.line.turns = [] := quiet.idle
      refine ⟨?_, quiet.faultless⟩
      change server.line.turns.filter (· != turn) = []
      rw [nobody]
      rfl

@[simp]
theorem scene_leave (server : Server) (turn? : Option Turn) (client : Client)
    (news : List News) :
    (server.leave turn?).scene client news = server.scene client news := by
  cases turn? <;> rfl

end Server

/-! ## Awaiting one action -/

/-- What comes of an action, when news may end its waiting. -/
inductive Awaited (reply : Type) where
  /-- It is answered, and some news are left. -/
  | answered (answer : reply) (client : Client) (server : Server)
      (news : List News)
  /-- It waits, and no news are left. -/
  | waiting (instead : Action) (same : instead.Reply → reply)
      (client : Client) (server : Server)
  /-- The host breaks off, and some news are left. -/
  | collapsed (client : Client) (server : Server) (news : List News)

namespace Awaited

/-- The answer seen through a function. -/
def map {reply other : Type} (change : reply → other) :
    Awaited reply → Awaited other
  | .answered answer client server news =>
      .answered (change answer) client server news
  | .waiting instead same client server =>
      .waiting instead (fun answer => change (same answer)) client server
  | .collapsed client server news => .collapsed client server news

theorem map_id {reply : Type} (awaited : Awaited reply) :
    awaited.map (fun answer => answer) = awaited := by
  cases awaited <;> rfl

end Awaited

/-- Waits with an action for as long as there are news. -/
def Performed.await {reply : Type} (performed : Performed reply)
    (news : List News) : Awaited reply :=
  match performed with
  | .answered answer client server => .answered answer client server news
  | .collapsed client server => .collapsed client server news
  | .waiting instead same client server =>
      match news with
      | [] => .waiting instead same client server
      | first :: later =>
          ((server.perform (first.reach client) instead).await later).map same

namespace Performed

variable {reply : Type}

@[simp]
theorem answered_await (answer : reply) (client : Client) (server : Server)
    (news : List News) :
    (Performed.answered answer client server).await news
      = .answered answer client server news := by
  cases news <;> rfl

@[simp]
theorem collapsed_await (client : Client) (server : Server)
    (news : List News) :
    (Performed.collapsed client server : Performed reply).await news
      = .collapsed client server news := by
  cases news <;> rfl

end Performed

/--
Conducting a program that begins with an action is waiting with that action,
and conducting the rest with the news that are left.
-/
theorem Program.conduct_act {α : Type} (action : Action)
    (next : action.Reply → Program α) (client : Client) (server : Server)
    (news : List News) :
    (Program.act action next).conduct client server news
      = match (server.perform client action).await news with
        | .answered answer client server later =>
            (next answer).conduct client server later
        | .waiting instead same client server =>
            ⟨.waiting (.act instead fun answer => next (same answer)), client,
              server⟩
        | .collapsed client server _ => ⟨.collapsed, client, server⟩ := by
  induction news generalizing action client server with
  | nil =>
      cases performed : server.perform client action <;>
        simp only [conduct, run, performed, Performed.await]
  | cons first later hypothesis =>
      cases performed : server.perform client action with
      | answered answer client server =>
          simp only [conduct, run, performed, Performed.await]
      | waiting instead same client server =>
          simp only [conduct, run, performed, Performed.await, hypothesis]
          cases (server.perform (first.reach client) instead).await later
            <;> rfl
      | collapsed client server =>
          simp only [conduct, run, performed, Performed.await]

/-- What is awaited on a quiet server is what is played on its scene. -/
inductive Awaited.Depicts {reply : Type} :
    Awaited reply → Played reply → Prop where
  | finished {answer : reply} {client : Client} {server : Server}
      {news : List News} {scene : Scene} (quiet : server.IsQuiet)
      (seen : server.scene client news = scene) :
      Depicts (.answered answer client server news) (.finished answer scene)
  | waiting {instead : Action} {same : instead.Reply → reply} {client : Client}
      {server : Server} {scene : Scene}
      (quiet : (server.leave instead.turn?).IsQuiet)
      (seen : server.scene client [] = scene) :
      Depicts (.waiting instead same client server) (.waiting scene)
  | collapsed {client : Client} {server : Server} {news : List News}
      {scene : Scene} (quiet : server.IsQuiet)
      (seen : server.scene client news = scene) :
      Depicts (.collapsed client server news) (.collapsed scene)

/-- Depiction does not depend on how the answer is seen. -/
theorem Awaited.Depicts.map {reply : Type} {awaited : Awaited reply}
    {played : Played reply} (depicts : awaited.Depicts played) :
    (awaited.map fun answer => answer).Depicts played := by
  rw [Awaited.map_id]
  exact depicts

namespace Server

/-! ## The append -/

/--
Nothing will fail, and nobody waits but the append under way, which may keep a
turn.
-/
structure IsKeptBy (server : Server) (turn? : Option Turn) : Prop where
  turns : server.line.turns = turn?.toList
  faultless : ∀ operation, server.faults operation = []

namespace IsKeptBy

variable {server : Server} {turn? : Option Turn}

theorem leave (kept : server.IsKeptBy turn?) :
    (server.leave turn?).IsQuiet := by
  cases turn? with
  | none => exact ⟨kept.turns, kept.faultless⟩
  | some turn =>
      refine ⟨?_, kept.faultless⟩
      change server.line.turns.filter (· != turn) = []
      rw [kept.turns]
      simp

theorem hasCome {turn : Turn} (kept : server.IsKeptBy (some turn)) :
    server.line.hasCome turn = true := by
  simp [Line.hasCome, Line.first?, kept.turns]

theorem changeRecord (kept : server.IsKeptBy turn?) (id : String)
    (change : Upload → Upload) :
    (server.changeRecord id change).IsKeptBy turn? :=
  ⟨kept.turns, kept.faultless⟩

theorem join (kept : server.IsKeptBy none) (id : String) :
    (server.join id).2.IsKeptBy (some (server.join id).1) := by
  refine ⟨?_, kept.faultless⟩
  change server.line.turns ++ [(server.join id).1] = [(server.join id).1]
  rw [kept.turns]
  rfl

/-- An append whose turn has come goes on when it is performed again. -/
theorem perform_goOn {turn : Turn} (kept : server.IsKeptBy (some turn))
    (client : Client) (appending : Appending) :
    server.perform client (.goOn (.appending turn appending))
      = server.advanceAppend client turn.id (some turn) appending := by
  change server.goOn client (.appending turn appending) = _
  rw [goOn, Unfinished.turn, kept.hasCome]
  rfl

/--
An append that news may help on does on a server what it does on the scene.
-/
theorem await_advanceAppend (kept : server.IsKeptBy turn?) {id : String}
    (own : ∀ turn ∈ turn?, turn.id = id) (client : Client)
    (appending : Appending) (before news : List News) :
    ((server.advanceAppend client id turn? appending).await news).Depicts
      ((server.scene client before).advanceAppend id appending news) := by
  -- The line holds at most the turn of the append: none when it begins, and
  -- its own from the time at which it waits first.
  induction news generalizing server turn? client appending before with
  | nil =>
      unfold advanceAppend Scene.advanceAppend
      simp only [scene]
      generalize appending.advance client.readable client.cancelled = progress
      have stretched := kept.changeRecord id fun upload =>
        { upload with content := progress.appending.content }
      cases progress.result with
      | some result => exact .finished stretched.leave (scene_leave _ turn? _ _)
      | none =>
          cases turn? with
          | some turn => exact .waiting stretched.leave rfl
          | none => exact .waiting (stretched.join id).leave rfl
  | cons first later hypothesis =>
      unfold advanceAppend Scene.advanceAppend
      simp only [scene]
      generalize appending.advance client.readable client.cancelled = progress
      have stretched := kept.changeRecord id fun upload =>
        { upload with content := progress.appending.content }
      cases progress.result with
      | some result => exact .finished stretched.leave (scene_leave _ turn? _ _)
      | none =>
          cases turn? with
          | some turn =>
              have here : turn.id = id := own turn rfl
              subst here
              simp only [Performed.await, waitFor, stretched.perform_goOn]
              exact (hypothesis stretched own _ _ later).map
          | none =>
              have joined := stretched.join id
              simp only [Performed.await, waitFor]
              rw [joined.perform_goOn]
              refine (hypothesis joined ?_ _ _ later).map
              rintro turn ⟨rfl⟩
              rfl

end IsKeptBy

theorem IsQuiet.isKeptBy_none {server : Server} (quiet : server.IsQuiet) :
    server.IsKeptBy none :=
  ⟨quiet.idle, quiet.faultless⟩

namespace IsQuiet

variable {server : Server}

/-- On a quiet server an append begins at once. -/
theorem append_eq (quiet : server.IsQuiet) (client : Client) (id : String)
    (route : Route) :
    server.append client id route
      = match server.store.find? id with
        | none =>
            .answered (.error (.missing id)) client
              (server.note (.appended id route))
        | some upload =>
            (server.note (.appended id route)).beginAppend client id none route
              upload := by
  have noted := quiet.note (.appended id route)
  have free : (server.note (.appended id route)).line.isUsed id = false := by
    have nobody : (server.note (.appended id route)).line.turns = [] :=
      noted.idle
    simp [Line.isUsed, Line.first?, nobody]
  rw [append, noted.nextFault]
  simp only [free, Bool.false_eq_true, if_false]
  rfl

theorem await_append (quiet : server.IsQuiet) (client : Client) (id : String)
    (route : Route) (news : List News) :
    ((server.append client id route).await news).Depicts
      ((server.scene client news).append id route) := by
  have noted := quiet.note (.appended id route)
  have begun := noted.isKeptBy_none.changeRecord id Upload.beginChunk
  rw [quiet.append_eq, Scene.append]
  simp only [scene]
  cases server.store.find? id with
  | none =>
      rw [Performed.answered_await]
      exact .finished noted rfl
  | some upload =>
      simp only [beginAppend]
      rw [show ((server.note (.appended id route)).changeRecord id
        Upload.beginChunk).settings = server.settings from rfl]
      cases Appending.begin? server.settings route upload with
      | none =>
          simp only [Performed.collapsed_await]
          exact .collapsed begun.leave rfl
      | some appending =>
          refine begun.await_advanceAppend ?_ client appending news news
          rintro turn ⟨⟩

/-! ## The other actions -/

/-- The look for trailing fields waits as long as they may arrive. -/
theorem lookForTrailers_eq (client : Client) :
    server.lookForTrailers client
      = match client.heard? with
        | some heard => .answered heard client server
        | none => .waiting .trailers (fun answer => answer) client server := by
  rw [lookForTrailers, Client.heard?]
  cases client.cancelled with
  | true => rfl
  | false => cases client.trailers <;> rfl

theorem await_lookForTrailers (quiet : server.IsQuiet) (client : Client)
    (before news : List News) :
    ((server.lookForTrailers client).await news).Depicts
      ((server.scene client before).hearTrailers news) := by
  induction news generalizing client before with
  | nil =>
      rw [lookForTrailers_eq, Scene.hearTrailers]
      simp only [scene]
      cases client.heard? with
      | some heard => exact .finished quiet rfl
      | none => exact .waiting quiet rfl
  | cons first later hypothesis =>
      rw [lookForTrailers_eq, Scene.hearTrailers]
      simp only [scene]
      cases client.heard? with
      | some heard => exact .finished quiet rfl
      | none => exact (hypothesis (first.reach client) later).map

theorem await_react (quiet : server.IsQuiet) (client : Client) (event : Event)
    (file : Except Failure (Option StoredFile)) (news : List News)
    (same : (server.scene client news).fileFor event = file) :
    ((server.react client event file).await news).Depicts
      ((server.scene client news).react event) := by
  have noted := quiet.note (.told event file)
  rw [react, nextReaction, Scene.react, same]
  simp only [Server.note, scene]
  rcases server.hooks event.hook with _ | _ | ⟨reaction, later⟩
  · rw [Performed.answered_await]
    exact .finished noted rfl
  · rw [Performed.answered_await]
    exact .finished noted rfl
  · cases reaction with
    | verdict verdict =>
        rw [Performed.answered_await]
        exact .finished ⟨noted.idle, noted.faultless⟩ rfl
    | collapse =>
        rw [Performed.collapsed_await]
        exact .collapsed ⟨noted.idle, noted.faultless⟩ rfl

/-- On a quiet server the store changes as its answer says. -/
theorem answer_eq (quiet : server.IsQuiet) (asked : Call) :
    server.answer asked
      = ((server.store.answer server.clock asked).1,
          { server with
            store := (server.store.answer server.clock asked).2 }) := by
  simp only [answer, quiet.idle.withStore]

theorem await_readBack (quiet : server.IsQuiet) (client : Client)
    (id : String) (news : List News) :
    ((server.readBack client id).await news).Depicts
      ((server.scene client news).react (.fileComplete id)) := by
  rw [readBack]
  cases granted : server.service.terms.grants .readable with
  | false =>
      apply quiet.await_react client (.fileComplete id) _ news
      simp [Scene.fileFor, scene, granted]
  | true =>
      have noted := quiet.note (.called (.read id))
      rw [if_pos rfl, noted.nextFault]
      simp only [noted.idle.not_isUsed, Bool.false_eq_true, if_false,
        noted.answer_eq]
      apply noted.await_react client (.fileComplete id) _ news
      simp only [Scene.fileFor, scene, Server.note, granted, if_true]

theorem await_tellHost (quiet : server.IsQuiet) (client : Client)
    (event : Event) (news : List News) :
    ((server.tellHost client event).await news).Depicts
      ((server.scene client news).tell event) := by
  unfold tellHost Scene.tell
  by_cases absent : (server.hooks event.hook).isNone = true
  · have seen : ((server.scene client news).hooks event.hook).isNone = true :=
      absent
    rw [if_pos absent, if_pos seen, Performed.answered_await]
    exact .finished quiet rfl
  · have seen : ¬((server.scene client news).hooks event.hook).isNone = true :=
      absent
    rw [if_neg absent, if_neg seen]
    cases event with
    | fileComplete id => exact quiet.await_readBack client id news
    | _ => exact quiet.await_react client _ (.ok none) news rfl

theorem await_callStore (quiet : server.IsQuiet) (client : Client)
    (asked : Call) (news : List News) :
    ((server.callStore client asked).await news).Depicts
      ((server.scene client news).call asked) := by
  have noted := quiet.note (.called asked)
  rw [callStore, noted.nextFault, Scene.call]
  by_cases stuck : (asked.looksAtClock && !server.clock.isReadable) = true
  · have here : (asked.looksAtClock
        && !(server.note (.called asked)).clock.isReadable) = true := stuck
    have seen : (asked.looksAtClock
        && !(server.scene client news).clock.isReadable) = true := stuck
    simp only [attend, here, seen, if_true, Performed.collapsed_await]
    exact .collapsed noted rfl
  · have readable (looks : asked.looksAtClock = true) :
        (server.note (.called asked)).clock.isReadable = true := by
      change server.clock.isReadable = true
      simpa [looks] using stuck
    have seen : ¬(asked.looksAtClock
        && !(server.scene client news).clock.isReadable) = true := stuck
    simp only [attend_of_idle noted.idle client readable, noted.answer_eq,
      Performed.answered_await, seen]
    exact .finished ⟨noted.idle, noted.faultless⟩ rfl

/-- On a quiet server no turn has come, and none will. -/
theorem goOn_eq (quiet : server.IsQuiet) (client : Client)
    (begun : Unfinished) :
    server.goOn client begun = server.waitFor client begun := by
  have nobody : server.line.turns = [] := quiet.idle
  have never : server.line.hasCome begun.turn = false := by
    simp [Line.hasCome, Line.first?, nobody]
  unfold goOn
  rw [never]
  rfl

theorem await_goOn (quiet : server.IsQuiet) (client : Client)
    (begun : Unfinished) (news : List News) :
    ((server.goOn client begun).await news).Depicts
      (.waiting
        (server.scene (news.foldl (fun client news => news.reach client) client)
          [])) := by
  induction news generalizing client with
  | nil =>
      rw [quiet.goOn_eq]
      exact .waiting (quiet.leave _) rfl
  | cons first later hypothesis =>
      rw [quiet.goOn_eq]
      exact (hypothesis (first.reach client)).map

/-- An action does on a quiet server what it does on its scene. -/
theorem perform_depicts (quiet : server.IsQuiet) (client : Client)
    (action : Action) (news : List News) :
    ((server.perform client action).await news).Depicts
      ((server.scene client news).perform action) := by
  cases action with
  | acquire id =>
      rw [perform, askLease, quiet.nextFault]
      simp only [Performed.answered_await]
      exact .finished ⟨quiet.idle, quiet.faultless⟩ rfl
  | release lease =>
      rw [perform, giveBack, quiet.nextFault]
      simp only [Performed.answered_await]
      exact .finished ⟨quiet.idle, quiet.faultless⟩ rfl
  | call asked => exact quiet.await_callStore client asked news
  | append id route => exact quiet.await_append client id route news
  | trailers => exact quiet.await_lookForTrailers client news news
  | clock =>
      by_cases readable : server.clock.isReadable = true
      · have seen : (server.scene client news).clock.isReadable = true :=
          readable
        rw [perform, if_pos readable, Scene.perform, if_pos seen,
          Performed.answered_await]
        exact .finished quiet rfl
      · have seen : ¬(server.scene client news).clock.isReadable = true :=
          readable
        rw [perform, if_neg readable, Scene.perform, if_neg seen,
          Performed.collapsed_await]
        exact .collapsed quiet rfl
  | tell event => exact quiet.await_tellHost client event news
  | goOn begun => exact quiet.await_goOn client begun news

end IsQuiet

end Server

/-! ## Programs and visits -/

/-- What a program comes to on a quiet server is what is played on its scene. -/
inductive Ran.Depicts {α : Type} : Ran α → Played α → Prop where
  | finished {value : α} {client : Client} {server : Server}
      {news : List News} {scene : Scene} (quiet : server.IsQuiet)
      (seen : server.scene client news = scene) :
      Depicts ⟨.finished value, client, server⟩ (.finished value scene)
  | waiting {program : Program α} {client : Client} {server : Server}
      {scene : Scene} (quiet : (server.leave program.turn?).IsQuiet)
      (seen : server.scene client [] = scene) :
      Depicts ⟨.waiting program, client, server⟩ (.waiting scene)
  | collapsed {client : Client} {server : Server} {news : List News}
      {scene : Scene} (quiet : server.IsQuiet)
      (seen : server.scene client news = scene) :
      Depicts ⟨.collapsed, client, server⟩ (.collapsed scene)

/-- A program that has ended does not wait for news. -/
theorem Program.conduct_done {α : Type} (value : α) (client : Client)
    (server : Server) (news : List News) :
    (Program.done value).conduct client server news
      = ⟨.finished value, client, server⟩ := by
  cases news <;> rfl

/-- A program does on a quiet server what it does on its scene. -/
theorem Server.IsQuiet.conduct_depicts {α : Type} {server : Server}
    (quiet : server.IsQuiet) (program : Program α) (client : Client)
    (news : List News) :
    (program.conduct client server news).Depicts
      (program.play (server.scene client news)) := by
  induction program generalizing client server news with
  | done value =>
      rw [Program.conduct_done]
      exact .finished quiet rfl
  | act action next hypothesis =>
      have performed := quiet.perform_depicts client action news
      rw [Program.conduct_act, Program.play]
      generalize (server.perform client action).await news = awaited
        at performed ⊢
      generalize (server.scene client news).perform action = played
        at performed ⊢
      cases performed with
      | finished quiet seen =>
          subst seen
          exact hypothesis _ quiet _ _
      | waiting quiet seen =>
          -- The turn that waits is the one of the action, whatever follows it.
          refine .waiting ?_ seen
          rw [Program.turn?_act]
          exact quiet
      | collapsed quiet seen => exact .collapsed quiet seen

/-- The scene once the client has gone away, and its lease is dropped. -/
def Scene.part (scene : Scene) : Scene :=
  match scene.client.lease with
  | some lease => { scene with locks := scene.locks.release lease }
  | none => scene

/-- What a played request leaves behind. -/
def Played.left {α : Type} : Played α → Scene
  | .finished _ scene => scene
  | .waiting scene | .collapsed scene => scene.part

/-- What is said of a request that has been played to its end. -/
inductive Server.Handled.Tells :
    Server.Handled → Played (Except Failure Answer) → Prop where
  | answered (answer : Answer) (scene : Scene) :
      Tells (.answered answer) (.finished (.ok answer) scene)
  | failed (failure : Failure) (scene : Scene) :
      Tells (.failed failure) (.finished (.error failure) scene)
  | collapsed (scene : Scene) : Tells .collapsed (.collapsed scene)
  | waiting (program : Program (Except Failure Answer)) (scene : Scene) :
      Tells (.waiting program) (.waiting scene)

namespace Server

/-- A visit leaves a quiet server as its request leaves the scene. -/
structure VisitDepicts (visited : Handled × Client × Server)
    (played : Played (Except Failure Answer)) : Prop where
  tells : visited.1.Tells played
  quiet : visited.2.2.IsQuiet
  seen : ∃ news, visited.2.2.scene visited.2.1 news = played.left

section VisitDepicts

variable {visited : Handled × Client × Server}
  {played : Played (Except Failure Answer)}

theorem VisitDepicts.store (depicts : VisitDepicts visited played) :
    visited.2.2.store = played.left.store := by
  obtain ⟨news, seen⟩ := depicts.seen
  exact congrArg Scene.store seen

theorem VisitDepicts.locks (depicts : VisitDepicts visited played) :
    visited.2.2.locks = played.left.locks := by
  obtain ⟨news, seen⟩ := depicts.seen
  exact congrArg Scene.locks seen

end VisitDepicts

theorem IsQuiet.dropLease {server : Server} (quiet : server.IsQuiet)
    (lease? : Option Lease) : (server.dropLease lease?).IsQuiet := by
  cases lease? with
  | none => exact quiet
  | some lease =>
      rw [Server.dropLease, giveBack, quiet.nextFault, ite_self]
      exact ⟨quiet.idle, quiet.faultless⟩

/-- Where nothing fails, a lease that is dropped is given back. -/
theorem IsQuiet.scene_dropLease {server : Server} (quiet : server.IsQuiet)
    (client : Client) (news : List News) :
    (server.dropLease client.lease).scene client news
      = (server.scene client news).part := by
  rcases client with ⟨body, trailers, mayPass, cancelled, lease?⟩
  cases lease? with
  | none => rfl
  | some lease =>
      rw [Server.dropLease, giveBack, quiet.nextFault, ite_self]
      rfl

/-- A visit to a quiet server is the request played on its scene. -/
theorem IsQuiet.visit_depicts {server : Server} (quiet : server.IsQuiet)
    (visit : Visit) :
    VisitDepicts (server.visit visit)
      ((Protocol.program server.service visit.request).play
        (server.scene visit.client visit.news)) := by
  have conducted := quiet.conduct_depicts
    (Protocol.program server.service visit.request) visit.client visit.news
  rw [Server.visit]
  generalize (Protocol.program server.service visit.request).conduct
    visit.client server visit.news = ran at conducted ⊢
  generalize (Protocol.program server.service visit.request).play
    (server.scene visit.client visit.news) = played at conducted ⊢
  cases conducted with
  | @finished result client server news scene quiet seen =>
      cases result with
      | ok answer => exact ⟨.answered answer scene, quiet, news, seen⟩
      | error failure => exact ⟨.failed failure scene, quiet, news, seen⟩
  | @waiting program client server scene quiet seen =>
      -- The client gives up, so its turn leaves the line and its lease is
      -- dropped.
      subst seen
      refine ⟨.waiting program _, quiet.dropLease _, [], ?_⟩
      change ((server.leave program.turn?).dropLease client.lease).scene
        client [] = (server.scene client []).part
      rw [quiet.scene_dropLease, scene_leave]
  | @collapsed client server news scene quiet seen =>
      subst seen
      exact ⟨.collapsed _, quiet.dropLease _, news,
        quiet.scene_dropLease client news⟩

/-- A visit is answered as its request is. -/
theorem IsQuiet.visit_response? {server : Server} (quiet : server.IsQuiet)
    {visit : Visit} {response : Response} {after : Scene}
    (ends : (Protocol.handle server.service visit.request).play
      (server.scene visit.client visit.news)
        = .finished (.ok (.respond response)) after) :
    (server.visit visit).1.response? = some response := by
  have tells := (quiet.visit_depicts visit).tells
  have ends : (Protocol.program server.service visit.request).play
      (server.scene visit.client visit.news)
        = .finished (.ok (.respond response)) after := ends
  rw [ends] at tells
  generalize (server.visit visit).1 = handled at tells ⊢
  cases tells
  rfl

/-- A response to a visit is one to its request. -/
theorem IsQuiet.play_of_response? {server : Server} (quiet : server.IsQuiet)
    {visit : Visit} {response : Response}
    (answered : (server.visit visit).1.response? = some response) :
    ∃ after, (Protocol.handle server.service visit.request).play
      (server.scene visit.client visit.news)
        = .finished (.ok (.respond response)) after := by
  have tells := (quiet.visit_depicts visit).tells
  rw [Handled.eq_of_response? answered] at tells
  change Handled.Tells (.answered (.respond response)) ((Protocol.handle
    server.service visit.request).play (server.scene visit.client visit.news))
    at tells
  generalize (Protocol.handle server.service visit.request).play
    (server.scene visit.client visit.news) = played at tells ⊢
  cases tells with
  | answered answer after => exact ⟨after, rfl⟩

/-- A sweep leaves a quiet server as its program leaves the scene. -/
theorem IsQuiet.sweep_depicts {server : Server} (quiet : server.IsQuiet) :
    ∃ client news, (server.undergo .sweep).scene client news
      = ((Protocol.sweep server.service).caught.play
          (server.scene {} [])).scene := by
  have conducted := quiet.conduct_depicts
    (Protocol.sweep server.service).caught {} []
  change ((Protocol.sweep server.service).caught.run {} server).Depicts _
    at conducted
  rw [undergo]
  generalize (Protocol.sweep server.service).caught.run {} server = ran
    at conducted ⊢
  generalize (Protocol.sweep server.service).caught.play
    (server.scene {} []) = played at conducted ⊢
  cases conducted with
  | finished quiet seen | waiting quiet seen | collapsed quiet seen =>
      exact ⟨_, _, seen⟩

end Server

end ResumableUpload
