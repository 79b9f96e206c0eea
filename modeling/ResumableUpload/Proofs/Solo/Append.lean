import ResumableUpload.Proofs.Copy.Delivery
import ResumableUpload.Proofs.Solo.Scene
import ResumableUpload.Proofs.Store.Records
/-!
# What an append does to a scene

An append puts bytes of the body behind the content of its upload, marks where
they begin, and touches nothing else: `Scene.Rewrites` says so, for every way
in which the body may be cut and every number of times that the append waits.
What a client delivers is said without any append, by `Client.delivers?`, and
`Scene.append_delivers` says that an append which has room for all of it puts
there exactly those bytes.
-/

namespace ResumableUpload

/-- An upload with further bytes that have not been verified. -/
def Upload.appended (upload : Upload) (kept : Bytes) : Upload :=
  { upload.beginChunk with content := upload.content ++ kept }

theorem Upload.appended_nil (upload : Upload) :
    upload.appended [] = upload.beginChunk := by
  simp [appended, beginChunk]

/-- An empty body is read as it is. -/
theorem Client.readable_of_empty {client : Client} (empty : client.body = []) :
    client.readable = [] := by
  rw [readable, empty]
  cases client.mayPass <;> rfl

namespace Scene

/-- The record of one upload has been written, and no other. -/
structure Rewrites (id : String) (written : Upload) (before after : Scene) :
    Prop where
  host : SameHost before after
  alters : before.store.AltersAt id after.store
  found : after.store.find? id = some written

namespace Rewrites

variable {scene middle after : Scene} {id : String} {upload written : Upload}

/-- A record that has not been touched counts as written. -/
theorem refl (found : scene.store.find? id = some upload) :
    Rewrites id upload scene scene :=
  ⟨.refl scene, .refl id scene.store, found⟩

theorem trans (first : Rewrites id upload scene middle)
    (second : Rewrites id written middle after) :
    Rewrites id written scene after where
  host := first.host.trans second.host
  alters := first.alters.trans second.alters
  found := second.found

/-- A change of the record writes it. -/
theorem modify (found : scene.store.find? id = some upload)
    (change : Upload → Upload) :
    Rewrites id (change upload) scene
      { scene with store := scene.store.modify id change } where
  host := ⟨rfl, rfl, rfl, rfl, rfl, rfl, rfl⟩
  alters := .modify scene.store id change
  found := by
    rw [Store.find?_modify_self, found]
    rfl

/-- News do not touch the uploads. -/
theorem hear (rewrites : Rewrites id written scene after) (first : News)
    (later : List News) :
    Rewrites id written scene (after.hear first later) where
  host := rewrites.host.hear first later
  alters := rewrites.alters
  found := rewrites.found

end Rewrites

/-- How an append ends that has put some bytes behind the content. -/
inductive AppendEnds (kept : Bytes) : Played (Except Failure Nat) → Prop where
  | done (scene : Scene) :
      AppendEnds kept (.finished (.ok kept.length) scene)
  | refused (excess : Excess) (scene : Scene) :
      AppendEnds kept (.finished (.error (.refused (.excess excess))) scene)
  | waiting (scene : Scene) : AppendEnds kept (.waiting scene)

variable {scene : Scene} {id : String} {upload : Upload}

/-- A stretch of an append changes the content of its upload. -/
theorem rewrites_afterStretch {progress : AppendProgress} {earlier kept : Bytes}
    (found : scene.store.find? id = some (upload.appended earlier))
    (content : progress.appending.content = upload.content ++ kept)
    (news : List News) :
    Rewrites id (upload.appended kept) scene
      { scene.afterStretch id progress with news := news } where
  host := ⟨rfl, rfl, rfl, rfl, rfl, rfl, rfl⟩
  alters := Store.AltersAt.modify scene.store id fun upload =>
    { upload with content := progress.appending.content }
  found := by
    rw [afterStretch, Store.find?_modify_self, found, content]
    rfl

/--
An append that has begun puts some bytes behind the content, however often it
waits, and none if the body is empty.
-/
theorem advanceAppend_spec {appending : Appending} {taken earlier : Bytes}
    (carries : appending.Carries upload taken)
    (found : scene.store.find? id = some (upload.appended earlier))
    (news : List News) :
    ∃ kept, upload.Admits kept.length ∧
      (scene.client.body = [] → kept <+: taken) ∧
      Rewrites id (upload.appended kept) scene
        (scene.advanceAppend id appending news).scene ∧
      AppendEnds kept (scene.advanceAppend id appending news) := by
  -- What carries the induction are the bytes taken so far: the content is a
  -- first part of them behind what was there, as some may be in a buffer.
  induction news generalizing scene appending taken earlier with
  | nil =>
      rcases Appending.advance_leaves carries scene.client.readable
          scene.client.cancelled with ⟨kept, leaves⟩
      have stretched := rewrites_afterStretch found leaves.content []
      refine ⟨kept, leaves.admits, fun empty => ?_, ?_⟩
      · simpa [Client.readable_of_empty empty, Body.delivered] using
          leaves.within
      rw [advanceAppend]
      simp only
      rcases ended : (appending.advance scene.client.readable
          scene.client.cancelled).result with _ | ⟨failure | count⟩
      · exact ⟨stretched, .waiting _⟩
      · rcases leaves.failed failure ended with ⟨⟨excess, rfl⟩, -⟩
        exact ⟨stretched, .refused excess _⟩
      · rcases leaves.done count ended with ⟨all, rfl⟩
        rw [← all]
        exact ⟨stretched, .done _⟩
  | cons first later hypothesis =>
      rcases Appending.advance_leaves carries scene.client.readable
          scene.client.cancelled with ⟨kept, leaves⟩
      have stretched :=
        rewrites_afterStretch found leaves.content (first :: later)
      have none_of_empty : scene.client.body = [] → kept <+: taken := by
        intro empty
        simpa [Client.readable_of_empty empty, Body.delivered] using
          leaves.within
      rw [advanceAppend]
      simp only
      rcases ended : (appending.advance scene.client.readable
          scene.client.cancelled).result with _ | ⟨failure | count⟩
      · have heard := stretched.hear first later
        rcases hypothesis (leaves.waiting ended) heard.found with
            ⟨more, admits, -, appended, ends⟩
        refine ⟨more, admits, fun empty => ?_, heard.trans appended, ends⟩
        -- An empty body keeps nobody waiting.
        have waits := Appending.advance_waits appending scene.client.readable
          scene.client.cancelled (by simp [ended])
        rw [Client.readable_of_empty empty] at waits ended
        simp [Body.held?, ended] at waits
      · rcases leaves.failed failure ended with ⟨⟨excess, rfl⟩, -⟩
        exact ⟨kept, leaves.admits, none_of_empty, stretched,
          .refused excess _⟩
      · rcases leaves.done count ended with ⟨all, rfl⟩
        rw [← all]
        exact ⟨kept, leaves.admits, none_of_empty, stretched, .done _⟩

/-- An append has begun: its upload is marked, and nothing has been added. -/
theorem rewrites_begun (found : scene.store.find? id = some upload) :
    Rewrites id (upload.appended []) scene
      { scene with store := scene.store.modify id Upload.beginChunk } := by
  rw [Upload.appended_nil]
  exact .modify found Upload.beginChunk

/--
An append to an upload puts some bytes behind its content, and none if the body
is empty.  It breaks off only before it has put any there.
-/
theorem append_spec (found : scene.store.find? id = some upload)
    (route : Route) :
    ∃ kept, upload.Admits kept.length ∧ (scene.client.body = [] → kept = []) ∧
      Rewrites id (upload.appended kept) scene (scene.append id route).scene ∧
      (AppendEnds kept (scene.append id route) ∨
        kept = [] ∧ ∃ after, scene.append id route = .collapsed after) := by
  have begun := rewrites_begun found
  rw [append, found]
  simp only
  cases begins : Appending.begin? scene.settings route upload with
  | none => exact ⟨[], .zero, fun _ => rfl, begun, .inr ⟨rfl, _, rfl⟩⟩
  | some appending =>
      rcases advanceAppend_spec (Appending.carries_begin begins) begun.found
          scene.news with ⟨kept, admits, empty, appended, ends⟩
      exact ⟨kept, admits, fun nothing => List.prefix_nil.1 (empty nothing),
        begun.trans appended, .inl ends⟩

end Scene

/-! ## What a client delivers -/

/-- The body of a client in the reads of a route. -/
def Route.reads (settings : BufferSettings) (body : Body) : Route → Body
  | .buffered => body.inReads settings.readSize
  | .streamed (some size) => body.inReads size
  | .streamed none => body

/-- Whether there can be memory for an append on a route. -/
def Route.isAllocatable (settings : BufferSettings) : Route → Bool
  | .buffered => settings.isAllocatable
  | .streamed _ => true

namespace Client

variable (settings : BufferSettings) (route : Route)

/-- What the reads of a route deliver before the client is waited for. -/
def delivered (client : Client) : Bytes :=
  Body.delivered client.cancelled false (route.reads settings client.readable)

/-- The client while it is waited for, if it is. -/
def held? (client : Client) : Option Client :=
  (Body.held? client.cancelled false (route.reads settings client.readable)).map
    fun rest =>
      { client with body := rest, mayPass := false, cancelled := false }

/--
The bytes that the reads of a route deliver in all, when news reach the client
each time that it is waited for; none if it is waited for in vain.
-/
def delivers? (client : Client) : List News → Option Bytes
  | [] =>
      match client.held? settings route with
      | none => some (client.delivered settings route)
      | some _ => none
  | first :: later =>
      match client.held? settings route with
      | none => some (client.delivered settings route)
      | some held =>
          (delivers? (first.reach held) later).map
            (client.delivered settings route ++ ·)

theorem held?_lease (client : Client) (lease : Option Lease) :
    held? settings route { client with lease := lease }
      = (client.held? settings route).map fun held =>
          { held with lease := lease } := by
  rw [held?, held?, Option.map_map]
  rfl

/-- What a client delivers has nothing to do with leases. -/
theorem delivers?_lease (client : Client) (lease : Option Lease)
    (news : List News) :
    delivers? settings route { client with lease := lease } news
      = client.delivers? settings route news := by
  induction news generalizing client with
  | nil =>
      rw [delivers?, delivers?, held?_lease]
      cases client.held? settings route <;> rfl
  | cons first later hypothesis =>
      rw [delivers?, delivers?, held?_lease]
      cases client.held? settings route with
      | none => rfl
      | some held =>
          have same := hypothesis (first.reach held)
          cases first <;> exact congrArg (Option.map _) same

end Client

/-- An append begins if there can be memory for it. -/
theorem Appending.exists_begin? {settings : BufferSettings} {route : Route}
    (allocatable : route.isAllocatable settings = true) (upload : Upload) :
    ∃ appending, begin? settings route upload = some appending ∧
      ∀ body, appending.reads body = route.reads settings body := by
  cases route with
  | buffered =>
      let transfer : Transfer :=
        { settings := settings
          budget := ⟨upload.offset, upload.length⟩
          sink := .holding upload.content }
      have begins : Transfer.begin? settings ⟨upload.offset, upload.length⟩
          (.holding upload.content) = some transfer := if_pos allocatable
      exact ⟨.buffered transfer, congrArg (Option.map buffered) begins,
        fun _ => rfl⟩
  | streamed readSize =>
      cases readSize <;> exact ⟨.streamed _, rfl, fun _ => rfl⟩

namespace Scene

variable {scene : Scene} {id : String} {upload : Upload}
  {settings : BufferSettings} {route : Route}

/-- An append whose client is not waited for ends with what was delivered. -/
theorem advanceAppend_of_not_held {appending : Appending}
    {taken earlier : Bytes} (carries : appending.Carries upload taken)
    (reads : ∀ body, appending.reads body = route.reads settings body)
    (found : scene.store.find? id = some (upload.appended earlier))
    (unheld : scene.client.held? settings route = none)
    (room : ¬upload.Exceeds
      (taken ++ scene.client.delivered settings route).length)
    (news : List News) :
    ∃ after,
      scene.advanceAppend id appending news
        = .finished
            (.ok (taken ++ scene.client.delivered settings route).length)
            after ∧
      Rewrites id
        (upload.appended (taken ++ scene.client.delivered settings route))
        scene after := by
  rcases Appending.advance_leaves carries scene.client.readable
      scene.client.cancelled with ⟨kept, leaves⟩
  have waits := Appending.advance_waits appending scene.client.readable
    scene.client.cancelled fun failure fails => by
      have exceeds := (leaves.failed failure fails).2
      rw [reads] at exceeds
      exact room exceeds
  have stretched := rewrites_afterStretch found leaves.content news
  rw [reads] at leaves waits
  rw [Option.map_eq_none_iff.1 unheld] at waits
  rw [advanceAppend.eq_def]
  simp only
  rcases ended : (appending.advance scene.client.readable
      scene.client.cancelled).result with _ | ⟨failure | count⟩
  · exact absurd ended waits
  · exact absurd (leaves.failed failure ended).2 room
  · rcases leaves.done count ended with ⟨rfl, rfl⟩
    exact ⟨_, rfl, stretched⟩

/--
An append that has room for what is delivered ends when the client has
delivered it.
-/
theorem advanceAppend_delivers {appending : Appending}
    {taken earlier bytes : Bytes} (carries : appending.Carries upload taken)
    (reads : ∀ body, appending.reads body = route.reads settings body)
    (found : scene.store.find? id = some (upload.appended earlier))
    (news : List News)
    (delivers : scene.client.delivers? settings route news = some bytes)
    (room : ¬upload.Exceeds (taken ++ bytes).length) :
    ∃ after,
      scene.advanceAppend id appending news
        = .finished (.ok (taken ++ bytes).length) after ∧
      Rewrites id (upload.appended (taken ++ bytes)) scene after := by
  -- The bytes that have been taken and those that are still to come always
  -- make up the bytes that there is room for.
  induction news generalizing scene appending taken earlier bytes with
  | nil =>
      rw [Client.delivers?] at delivers
      cases held : scene.client.held? settings route with
      | some waiting =>
          rw [held] at delivers
          cases delivers
      | none =>
          rw [held] at delivers
          cases delivers
          exact advanceAppend_of_not_held carries reads found held room []
  | cons first later hypothesis =>
      rw [Client.delivers?] at delivers
      cases held : scene.client.held? settings route with
      | none =>
          rw [held] at delivers
          cases delivers
          exact advanceAppend_of_not_held carries reads found held room _
      | some waiting =>
          rw [held] at delivers
          rcases Option.map_eq_some_iff.1 delivers with ⟨more, comes, rfl⟩
          rcases Option.map_eq_some_iff.1 held with ⟨rest, left, rfl⟩
          rw [← List.append_assoc] at room ⊢
          rcases Appending.advance_leaves carries scene.client.readable
              scene.client.cancelled with ⟨kept, leaves⟩
          rw [reads] at leaves
          have waits := Appending.advance_waits appending scene.client.readable
            scene.client.cancelled fun failure fails => by
              refine room ((leaves.failed failure fails).2.mono ?_)
              exact (List.prefix_append _ _).length_le
          rw [reads, left] at waits
          rcases waits with ⟨waiting, rest', cancelled⟩
          have heard := (rewrites_afterStretch found leaves.content
            (first :: later)).hear first later
          rw [advanceAppend]
          simp only [waiting]
          rw [afterStretch, rest', cancelled] at heard ⊢
          obtain ⟨after, ends, rewrites⟩ := hypothesis
            (leaves.waiting waiting) (fun body => by
              rw [Appending.advance_reads, reads]) heard.found comes room
          exact ⟨after, ends, heard.trans rewrites⟩

/--
An append to an upload that has room for what is delivered puts exactly those
bytes there.
-/
theorem append_delivers (found : scene.store.find? id = some upload)
    (allocatable : route.isAllocatable scene.settings = true) {bytes : Bytes}
    (delivers : scene.client.delivers? scene.settings route scene.news
      = some bytes)
    (room : ¬upload.Exceeds bytes.length) :
    ∃ after,
      scene.append id route = .finished (.ok bytes.length) after ∧
      Rewrites id (upload.appended bytes) scene after := by
  rcases Appending.exists_begin? allocatable upload with
      ⟨appending, begins, reads⟩
  have begun := rewrites_begun found
  rcases advanceAppend_delivers (Appending.carries_begin begins) reads
      begun.found scene.news delivers room with ⟨after, ends, rewrites⟩
  refine ⟨after, ?_, begun.trans rewrites⟩
  rw [append, found]
  simp only [begins]
  exact ends

end Scene

end ResumableUpload
