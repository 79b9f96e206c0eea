import ResumableUpload.Proofs.Copy.Spill
import ResumableUpload.Proofs.Solo.Course
import ResumableUpload.Proofs.Solo.Life
/-!
# Writes of too many bytes

A client delivers its body delivery by delivery, as `Client.deliveries` says
without any append.  If a write is refused because there are too many bytes, it
has gone on up to the first delivery for which the upload has no room, and what
its route has put behind the content by then stays there:
`Scene.append_refused`, and `Protocol.handleIntent_refused` for the intent as a
whole.
-/

namespace ResumableUpload

/-! ## Deliveries -/

/-- The reads of a write are of a limited size. -/
theorem Handling.exists_reads_route (service : Service)
    (settings : BufferSettings) :
    ∃ limit, ∀ body, (route service).reads settings body
      = body.inReads limit := by
  rw [route]
  split
  · exact ⟨streamReadSize, fun _ => rfl⟩
  · exact ⟨settings.readSize, fun _ => rfl⟩

namespace Client

variable (settings : BufferSettings) (route : Route)

/--
What the reads of a route deliver one by one, when news reach the client each
time that it is waited for.
-/
def deliveries (client : Client) : List News → List Bytes
  | [] =>
      Body.deliveries client.cancelled false
        (route.reads settings client.readable)
  | first :: later =>
      Body.deliveries client.cancelled false
          (route.reads settings client.readable)
        ++ match client.held? settings route with
          | some held => deliveries (first.reach held) later
          | none => []

/-- What a client delivers has nothing to do with leases. -/
theorem deliveries_lease (client : Client) (lease : Option Lease)
    (news : List News) :
    deliveries settings route { client with lease := lease } news
      = client.deliveries settings route news := by
  induction news generalizing client with
  | nil => rfl
  | cons first later hypothesis =>
      rw [deliveries, deliveries, held?_lease]
      refine congrArg (_ ++ ·) ?_
      cases client.held? settings route with
      | none => rfl
      | some held =>
          have same := hypothesis (first.reach held)
          cases first <;> exact same

/-- If the reads are of a limited size, each of them delivers something. -/
theorem ne_nil_of_mem_deliveries {settings : BufferSettings} {route : Route}
    {limit : Nat}
    (limited : ∀ body, route.reads settings body = body.inReads limit)
    {client : Client} {news : List News} {bytes : Bytes}
    (present : bytes ∈ client.deliveries settings route news) : bytes ≠ [] := by
  have here {client : Client}
      (present : bytes ∈ Body.deliveries client.cancelled false
        (route.reads settings client.readable)) : bytes ≠ [] := by
    rw [limited] at present
    exact (Body.sizes_of_data_mem_inReads
      (Body.mem_of_mem_deliveries present)).1
  induction news generalizing client with
  | nil => exact here present
  | cons first later hypothesis =>
      rw [deliveries] at present
      rcases List.mem_append.1 present with now | still
      · exact here now
      · cases held : client.held? settings route with
        | none =>
            rw [held] at still
            cases still
        | some waiting =>
            rw [held] at still
            exact hypothesis still

end Client

/-- An append reads the body as its route does. -/
theorem Appending.reads_begin {settings : BufferSettings} {route : Route}
    {upload : Upload} {appending : Appending}
    (begins : begin? settings route upload = some appending) (body : Body) :
    appending.reads body = route.reads settings body := by
  cases route with
  | buffered =>
      rcases Option.map_eq_some_iff.1 begins with ⟨transfer, copying, rfl⟩
      rw [Transfer.begin?] at copying
      split at copying
      · cases copying
        rfl
      · cases copying
  | streamed size =>
      cases begins
      cases size <;> rfl

/-- An append waits only where the body keeps its reader waiting. -/
theorem Appending.held?_of_waiting {appending : Appending} {body : Body}
    {cancelled : Bool}
    (waiting : (appending.advance body cancelled).result = none) :
    Body.held? cancelled false (appending.reads body)
        = some (appending.advance body cancelled).rest ∧
      (appending.advance body cancelled).cancelled = false := by
  have waits := appending.advance_waits body cancelled (by simp [waiting])
  cases held : Body.held? cancelled false (appending.reads body) with
  | none =>
      rw [held] at waits
      exact absurd waiting waits
  | some rest =>
      rw [held] at waits
      rcases waits with ⟨-, rfl, uncancelled⟩
      exact ⟨rfl, uncancelled⟩

/-- The content of an append is what was there and what it has put there. -/
theorem Appending.Took.content {settings : BufferSettings} {upload : Upload}
    {route : Route} {appending : Appending} {taken : List Bytes}
    (took : Took settings upload taken route appending) :
    appending.content = upload.content ++ route.spilled settings taken := by
  cases took with
  | buffered took => exact took.received
  | streamed size carries => exact carries.bytes

/--
What an append leaves of an upload that has room for some of the deliveries but
not for the next: its content, and what the route has put behind it of those.
-/
inductive Upload.Overruns (settings : BufferSettings) (route : Route)
    (deliveries : List Bytes) (excess : Excess) (upload left : Upload) :
    Prop where
  | intro (taken : List Bytes) (bytes : Bytes) (rest : List Bytes)
      (split : deliveries = taken ++ bytes :: rest)
      (refuses : upload.Refuses taken.flatten bytes excess)
      (leaves : left = upload.appended (route.spilled settings taken))

namespace Scene

variable {scene after : Scene} {id : String} {upload : Upload}
  {settings : BufferSettings} {route : Route}

/--
An append that has begun is refused at the first delivery for which there is no
room.
-/
theorem advanceAppend_refused {appending : Appending} {taken : List Bytes}
    {earlier : Bytes} {excess : Excess}
    (took : Appending.Took settings upload taken route appending)
    (reads : ∀ body, appending.reads body = route.reads settings body)
    (found : scene.store.find? id = some (upload.appended earlier))
    (news : List News)
    (ends : scene.advanceAppend id appending news
      = .finished (.error (.refused (.excess excess))) after) :
    ∃ more bytes rest,
      scene.client.deliveries settings route news = more ++ bytes :: rest ∧
      upload.Refuses (taken ++ more).flatten bytes excess ∧
      after.store.find? id = some
        (upload.appended (route.spilled settings (taken ++ more))) := by
  -- From one wait to the next, what carries the induction are the deliveries
  -- that have been taken.
  induction news generalizing scene appending taken earlier with
  | nil =>
      have goes := Appending.advance_goes took scene.client.readable
        scene.client.cancelled
      rw [reads] at goes
      rw [advanceAppend] at ends
      simp only at ends
      split at ends
      · rename_i refused
        cases ends
        rcases goes.refused excess refused with
          ⟨more, bytes, rest, split, content, refuses⟩
        exact ⟨more, bytes, rest, split, refuses,
          (rewrites_afterStretch found content []).found⟩
      · cases ends
  | cons first later hypothesis =>
      have goes := Appending.advance_goes took scene.client.readable
        scene.client.cancelled
      rw [reads] at goes
      rw [advanceAppend] at ends
      simp only at ends
      rw [Client.deliveries]
      split at ends
      · rename_i refused
        cases ends
        rcases goes.refused excess refused with
          ⟨more, bytes, rest, split, content, refuses⟩
        rw [split, List.append_assoc]
        exact ⟨more, bytes, _, rfl, refuses,
          (rewrites_afterStretch found content (first :: later)).found⟩
      · rename_i waiting
        rcases Appending.held?_of_waiting waiting with ⟨held, uncancelled⟩
        have took := goes.waiting waiting
        have heard := (rewrites_afterStretch found took.content
          (first :: later)).hear first later
        rw [afterStretch, uncancelled] at ends heard
        rcases hypothesis took
            (fun body => (Appending.advance_reads ..).trans (reads body))
            heard.found ends with
          ⟨more, bytes, others, split, refuses, found⟩
        rw [List.append_assoc] at refuses found
        refine ⟨_, bytes, others, ?_, refuses, found⟩
        rw [List.append_assoc, Client.held?, ← reads, held, ← split]
        rfl

/--
An append is refused at the first delivery for which there is no room.  What its
route has put behind the content by then stays there.
-/
theorem append_refused {excess : Excess}
    (found : scene.store.find? id = some upload)
    (ends : scene.append id route
      = .finished (.error (.refused (.excess excess))) after) :
    ∃ left, after.store.find? id = some left ∧
      Upload.Overruns scene.settings route
        (scene.client.deliveries scene.settings route scene.news) excess upload
        left := by
  have begun := rewrites_begun found
  rw [append, found] at ends
  simp only at ends
  split at ends
  · rename_i begins
    rcases advanceAppend_refused (Appending.took_begin begins)
        (Appending.reads_begin begins) begun.found scene.news ends with
      ⟨taken, bytes, rest, split, refuses, left⟩
    exact ⟨_, left, taken, bytes, rest, split, refuses, rfl⟩
  · cases ends

end Scene

/-! ## Writes -/

/--
The upload of which an act refuses bytes because there are too many, if it does,
with the way they came and the excess.
-/
def Act.excess? (act : Act) : Option (String × Route × Excess) :=
  match act with
  | ⟨.append id route, some (.error (.refused (.excess excess))), _⟩ =>
      some (id, route, excess)
  | _ => none

variable {service : Service} {exchange checked : Exchange}
  {scene after : Scene} {id : String} {upload : Upload} {route : Route}
  {excess : Excess} {store : Store}

theorem Act.eq_of_excess?_eq_some {act : Act}
    (refuses : act.excess? = some (id, route, excess)) :
    act = ⟨.append id route, some (.error (.refused (.excess excess))),
      act.store⟩ := by
  rw [excess?.eq_def] at refuses
  split at refuses
  · cases refuses
    rfl
  · cases refuses

namespace Handling

/-- A write to which bytes have been refused has come to its end by that. -/
theorem write_carryOut_refused
    (found : scene.store.find? checked.fileId = some upload)
    (may : MayWrite service exchange checked upload)
    (fresh : exchange.declared.length = none)
    (refuses : ⟨.append id route, some (.error (.refused (.excess excess))),
      store⟩ ∈ ((write service).carryOut checked).actsOn scene) :
    id = checked.fileId ∧ route = Handling.route service ∧
      ∃ after left, ((write service).carryOut checked).play scene
          = .finished (.error (.refused (.excess excess))) after ∧
        after.store.find? checked.fileId = some left ∧
        Upload.Overruns scene.settings route
          (scene.client.deliveries scene.settings route scene.news) excess
          (upload.fixedBy checked) left := by
  rcases play_fixLength found may fresh with
      ⟨middle, fixed, prepared, client, news⟩
  rw [write] at refuses ⊢
  simp only at refuses ⊢
  rw [Attempt.play_bind, fixed, Played.finished_andThen, Attempt.orFailure_ok,
    Attempt.play_bind, Attempt.play_append]
  -- Before the append and after it there are errands only.
  rcases Attempt.mem_actsOn_bind refuses with
      before | ⟨_, _, same, refuses⟩
  · cases Program.Uses.of_mem (fixLength_errands service checked) before
  rw [fixed] at same
  cases same
  rcases Attempt.mem_actsOn_bind refuses with
      here | ⟨_, _, -, later⟩
  · rw [Attempt.actsOn_append] at here
    injection List.mem_singleton.1 here with action reply same
    injection action with id_eq route_eq
    subst id_eq route_eq
    cases played : middle.append checked.fileId (Handling.route service) with
    | waiting last | collapsed last =>
        rw [played] at reply
        cases reply
    | finished result last =>
        rw [played] at reply
        cases reply
        rcases Scene.append_refused prepared.found played with
            ⟨left, found, overruns⟩
        rw [client, news, prepared.host.settings] at overruns
        exact ⟨rfl, rfl, last, left, rfl, found, overruns⟩
  · cases Program.Uses.of_mem (afterAppend_errands service checked) later

end Handling

namespace Protocol

open Handling (write)

/-- All that the host is told of an outcome it is told in so many words. -/
theorem tellOutcome_tells (exchange : Exchange) (outcome : Outcome) :
    (tellOutcome exchange outcome).Uses fun action =>
      ∃ event, action = .tell event := by
  cases outcome with
  | created id length complete =>
      refine .bind (.tell ⟨_, rfl⟩) fun verdict => ?_
      split
      · exact .pure verdict
      · exact .tell ⟨_, rfl⟩
  | written id complete =>
      rw [tellOutcome]
      split
      · exact .tell ⟨_, rfl⟩
      · exact .pure _
  | deleted id => exact .tell ⟨_, rfl⟩
  | settled => exact .pure _

theorem carryOut_refused
    (found : scene.store.find? checked.fileId = some upload)
    (may : Handling.MayWrite service exchange checked upload)
    (fresh : exchange.declared.length = none)
    (refuses : ⟨.append id route, some (.error (.refused (.excess excess))),
      store⟩ ∈ (carryOut (write service) checked).actsOn scene) :
    id = checked.fileId ∧ route = Handling.route service ∧
      ∃ after left, (carryOut (write service) checked).play scene
          = .finished (.error (.refused (.excess excess))) after ∧
        after.store.find? checked.fileId = some left ∧
        Upload.Overruns scene.settings route
          (scene.client.deliveries scene.settings route scene.news) excess
          (upload.fixedBy checked) left := by
  have here : ⟨.append id route, some (.error (.refused (.excess excess))),
      store⟩ ∈ ((write service).carryOut checked).actsOn scene := by
    rw [carryOut] at refuses
    rcases Attempt.mem_actsOn_bind refuses with
        here | ⟨done, last, -, told⟩
    · exact here
    · have tells : Attempt.Uses (fun action => ∃ event,
          action = Action.tell event) (do
            let verdict ← tellOutcome done.1 done.2
            return if verdict.failed then done.1.refuse verdict else done.1) :=
        .bind (tellOutcome_tells done.1 done.2) fun _ => .pure _
      rcases Program.Uses.of_mem tells told with ⟨event, contrary⟩
      cases contrary
  rcases Handling.write_carryOut_refused found may fresh here with
      ⟨same, way, after, left, ends, overruns⟩
  refine ⟨same, way, after, left, ?_, overruns⟩
  rw [carryOut, Attempt.play_bind, ends]
  rfl

/--
A write to which bytes have been refused is answered so, and leaves of its
upload what the append has left.
-/
theorem handleIntent_refused (unchecked : Handling.IsUnchecked exchange)
    (refuses : ⟨.append id route, some (.error (.refused (.excess excess))),
      store⟩ ∈ (handleIntent .writeFile (write service) exchange).actsOn
        scene) :
    id = exchange.fileId ∧ route = Handling.route service ∧
      ∃ after left, (handleIntent .writeFile (write service) exchange).play
          scene = .finished (.ok ((versioned exchange).answerMessage 400
            excess.message)) after ∧
        after.store.find? id = some left ∧
        ∃ upload checked, scene.store.find? id = some upload ∧
          Handling.MayWrite service (versioned exchange) checked upload ∧
          Upload.Overruns scene.settings route
            (scene.client.deliveries scene.settings route scene.news) excess
            (upload.fixedBy checked) left := by
  have handled : Handling.ofIntent? service .writeFile
      = some (write service) := rfl
  have course := handleIntent_course handled exchange scene
  generalize (handleIntent .writeFile (write service) exchange).actsOn
    scene = acts at course refuses
  generalize (handleIntent .writeFile (write service) exchange).play scene
    = played at course ⊢
  cases course with
  | stops light sight refused => cases light _ refuses
  | @works checked asked told earlier later finish sight checks telling agrees
      before after finishes =>
      have here : ⟨.append id route,
          some (.error (.refused (.excess excess))), store⟩
            ∈ (carryOut (write service) checked).actsOn told := by
        rcases List.mem_append.1 refuses with first | last
        · rcases List.mem_append.1 first with contrary | here
          · cases before _ contrary
          · exact here
        · cases after _ last
      have sees := sight.trans (.of_told telling)
      rcases Handling.write_check_ends_well checks with ⟨upload, found, may⟩
      rw [← telling.store, ← may.fileId] at found
      rcases carryOut_refused found may unchecked.versioned.length here with
          ⟨rfl, rfl, last, left, ends, leaves, overruns⟩
      rw [sees.ground.settings, sees.client, sees.news,
        Client.deliveries_lease] at overruns
      refine ⟨may.fileId, rfl, finish last, left, ?_, ?_, upload, checked, ?_,
        may, overruns⟩
      · rw [ends]
        rfl
      · rw [(finishes last).store]
        exact leaves
      · rw [← sees.store]
        exact found

end Protocol

end ResumableUpload
