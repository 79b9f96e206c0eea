import ResumableUpload.Proofs.Traffic.Trials
/-!
# What requests have read

The offset that a request is told, and the bytes from which it joins uploads,
are what the store had at a moment when the request acted:
`Traffic.run_accounts`. Between the joined uploads a request may have to wait
for the next of them, so each may have been read at a moment of its own.
-/

namespace ResumableUpload

/-- Uploads are joined from what has been read of them, one after another. -/
inductive Gathers (reads : String → Bytes → Prop) :
    List String → Bytes → Prop where
  | nil : Gathers reads [] []
  | cons {id : String} {bytes : Bytes} {ids : List String} {rest : Bytes}
      (here : reads id bytes) (later : Gathers reads ids rest) :
      Gathers reads (id :: ids) (bytes ++ rest)

namespace Gathers

variable {reads other : String → Bytes → Prop} {ids more : List String}
  {content rest : Bytes}

theorem mono (gathers : Gathers reads ids content)
    (weaker : ∀ id bytes, reads id bytes → other id bytes) :
    Gathers other ids content := by
  induction gathers with
  | nil => exact .nil
  | cons here _ hypothesis => exact .cons (weaker _ _ here) hypothesis

theorem append (first : Gathers reads ids content)
    (second : Gathers reads more rest) :
    Gathers reads (ids ++ more) (content ++ rest) := by
  induction first with
  | nil => exact second
  | cons here _ hypothesis =>
      rw [List.append_assoc]
      exact .cons here hypothesis

/-- What a store joins at once it has read at once. -/
theorem of_joined {store : Store} {ids : List String} {content : Bytes}
    (joined : store.joined? ids = .ok content)
    (now : ∀ id upload, store.find? id = some upload →
      reads id upload.content) : Gathers reads ids content := by
  induction ids generalizing content with
  | nil =>
      cases joined
      exact .nil
  | cons id rest hypothesis =>
      rw [Store.joined?] at joined
      cases found : store.find? id with
      | none =>
          rw [found] at joined
          cases joined
      | some upload =>
          rw [found] at joined
          cases others : store.joined? rest with
          | error missing =>
              simp only [others] at joined
              cases joined
          | ok more =>
              simp only [others] at joined
              cases joined
              exact .cons (now id upload found) (hypothesis others)

end Gathers

/-- Whether an upshot is that of a call. -/
def Upshot.isCall : Upshot → Bool
  | .called _ _ => true
  | _ => false

/-- The upload and the offset of which an upshot tells. -/
def Upshot.offset? : Upshot → Option (String × Nat)
  | .called (.offset id) (.ok offset) => some (id, offset)
  | _ => none

/-- The uploads that an upshot has joined, with metadata, and the new upload. -/
def Upshot.joined? : Upshot → Option (List String × Option String × String)
  | .called (.createJoined ids metadata) (.ok id) => some (ids, metadata, id)
  | _ => none

/--
What is waited for is there, and what has been joined so far is what has been
read.
-/
def Unfinished.AccountsFor (store : Store) (reads : String → Bytes → Prop) :
    Unfinished → Prop
  | .calling turn (.offset _) => store.has turn.id = true
  | .joining turn content rest ids _ => store.has turn.id = true ∧
      ∃ done, ids = done ++ turn.id :: rest ∧ Gathers reads done content
  | _ => True

/-- What came of an action tells what has been read. -/
def Performed.AccountsFor {reply : Type} (reads : String → Bytes → Prop)
    (upshot : reply → Upshot) : Performed reply → Prop
  | .answered answer _ after =>
      (∀ id offset, (upshot answer).offset? = some (id, offset) →
        ∃ bytes, reads id bytes ∧ bytes.length = offset) ∧
      ∀ ids metadata id,
        (upshot answer).joined? = some (ids, metadata, id) →
        ∃ content, Gathers reads ids content ∧
          (id, Upload.joining ids metadata content) ∈ after.store.uploads
  | .waiting instead _ _ after =>
      ∀ begun, instead = .goOn begun → begun.AccountsFor after.store reads
  | .collapsed _ _ => True

/-- An answer that tells neither of an offset nor of a joined upload. -/
theorem Performed.accountsFor_of_none {reply : Type}
    {reads : String → Bytes → Prop} {upshot : reply → Upshot} {answer : reply}
    {client : Client} {after : Server}
    (offset : (upshot answer).offset? = none)
    (joined : (upshot answer).joined? = none) :
    (Performed.answered answer client after).AccountsFor reads upshot := by
  constructor
  · intro id stored told
    rw [offset] at told
    cases told
  · intro ids metadata id told
    rw [joined] at told
    cases told

namespace Server

variable {server : Server} {client : Client} {reads : String → Bytes → Prop}

/-- What is no call reads nothing of this kind. -/
theorem accountsFor_of_uncalled {reply : Type} {performed : Performed reply}
    {upshot : reply → Upshot} (comes : performed.ComesTo upshot)
    (uncalled : ∀ answer, (upshot answer).isCall = false) :
    performed.AccountsFor reads upshot := by
  cases performed with
  | answered answer client after =>
      have nothing := uncalled answer
      refine Performed.accountsFor_of_none ?_ ?_ <;>
        generalize upshot answer = told at nothing <;>
        cases told <;> first | rfl | cases nothing
  | waiting instead same client after =>
      rintro begun rfl
      obtain ⟨reply⟩ := (Action.goOn begun).nonempty_reply
      have nothing := uncalled (same reply)
      rw [← comes.2 reply] at nothing
      cases begun with
      | calling | joining => cases nothing
      | beginning | appending | reading => trivial
  | collapsed client after => trivial

/--
The rest of some uploads is joined to those of which the content is known.
-/
theorem joinRest_accountsFor (server : Server) (client : Client)
    {ids done rest : List String} {content : Bytes} (all : ids = done ++ rest)
    (now : ∀ id upload, server.store.find? id = some upload →
      reads id upload.content)
    (gathers : Gathers reads done content) (metadata : Option String) :
    (server.joinRest client ids metadata content rest).AccountsFor reads
      (.called (.createJoined ids metadata)) := by
  have parts : (rest.takeWhile fun id => !server.isUsed id)
      ++ (rest.dropWhile fun id => !server.isUsed id) = rest :=
    List.takeWhile_append_dropWhile
  have stops := List.head?_dropWhile_not (fun id => !server.isUsed id) rest
  rw [joinRest]
  cases joined : server.store.joined?
      (rest.takeWhile fun id => !server.isUsed id) with
  | error id => exact Performed.accountsFor_of_none rfl rfl
  | ok more =>
      have further := gathers.append (.of_joined joined now)
      simp only
      cases later : rest.dropWhile fun id => !server.isUsed id with
      | nil =>
          rw [later, List.append_nil] at parts
          rw [parts, ← all] at further
          refine ⟨by rintro id offset ⟨⟩, ?_⟩
          rintro ids again id told
          cases told
          exact ⟨content ++ more, further, List.mem_append_right _
            (List.mem_singleton.2 rfl)⟩
      | cons id later' =>
          rw [later] at parts stops
          have used : server.isUsed id = true := by simpa using stops
          rintro begun ⟨⟩
          refine ⟨(Bool.and_eq_true_iff.1 used).1, _, ?_, further⟩
          change ids = (done ++ _) ++ id :: later'
          rw [List.append_assoc, parts]
          exact all

variable {asked : Call}

/-- What the store tells of an upload it has read. -/
theorem answer_accountsFor (server : Server) (client : Client) (asked : Call)
    (now : ∀ id upload, server.store.find? id = some upload →
      reads id upload.content) :
    (Performed.answered (server.answer asked).1 client
      (server.answer asked).2).AccountsFor reads (.called asked) := by
  cases asked with
  | offset id =>
      refine ⟨?_, by rintro ids metadata joined ⟨⟩⟩
      intro other offset told
      cases found : server.store.find? id with
      | none =>
          simp only [answer, Store.answer, Store.ask, found] at told
          cases told
      | some upload =>
          simp only [answer, Store.answer, Store.ask, found] at told
          cases told
          exact ⟨upload.content, now id upload found, rfl⟩
  | createJoined ids metadata =>
      refine ⟨by rintro id offset ⟨⟩, ?_⟩
      intro again same id told
      cases joined : server.store.joined? ids with
      | error missing =>
          simp only [answer, Store.answer, Store.createJoined, joined] at told
          cases told
      | ok content =>
          simp only [answer, Store.answer, Store.createJoined, joined,
            Store.create] at told
          cases told
          refine ⟨content, .of_joined joined now, ?_⟩
          simp only [answer, withStore, Store.answer, Store.createJoined,
            joined, Store.create]
          exact List.mem_append_right _ (List.mem_singleton.2 rfl)
  | _ => exact Performed.accountsFor_of_none rfl rfl

theorem attend_accountsFor (server : Server) (client : Client) (asked : Call)
    (now : ∀ id upload, server.store.find? id = some upload →
      reads id upload.content) :
    (server.attend client asked).AccountsFor reads (.called asked) := by
  rw [attend.eq_def]
  split
  · trivial
  · split
    · exact answer_accountsFor server client asked now
    · rename_i id found
      split
      · exact joinRest_accountsFor server client rfl now .nil _
      · rintro begun ⟨⟩
        have used := List.find?_some found
        cases asked with
        | offset other => exact (Bool.and_eq_true_iff.1 used).1
        | _ => trivial

theorem goOn_accountsFor (server : Server) (client : Client)
    {begun : Unfinished} (sound : (Action.goOn begun).IsSound)
    (now : ∀ id upload, server.store.find? id = some upload →
      reads id upload.content)
    (accounts : begun.AccountsFor server.store reads) :
    (server.goOn client begun).AccountsFor reads
      (Action.goOn begun).upshot := by
  have comes := server.goOn_comesTo client sound
  cases begun with
  | calling turn asked =>
      rw [goOn]
      split
      · rintro begun ⟨⟩
        exact accounts
      · cases own : asked.record? with
        | none => exact attend_accountsFor (server.leave turn) client asked now
        | some id =>
            simp only
            cases asked with
            | offset other =>
                have there : server.store.has turn.id = true := accounts
                rw [answerInTurn, if_pos there]
                exact answer_accountsFor server client (.offset other) now
            | createJoined => cases own
            | _ => exact Performed.accountsFor_of_none rfl rfl
  | joining turn content rest ids metadata =>
      rw [goOn]
      split
      · rintro begun ⟨⟩
        exact accounts
      · obtain ⟨there, done, all, gathers⟩ := accounts
        rcases Store.exists_find?_of_has there with ⟨upload, found⟩
        have known : ((server.record? turn.id).map Upload.content).getD []
            = upload.content := by
          rw [record?, found]
          rfl
        simp only [known]
        have one : Gathers reads [turn.id] (upload.content ++ []) :=
          .cons (now turn.id upload found) .nil
        rw [List.append_nil] at one
        refine joinRest_accountsFor (server.leave turn) client ?_ now
          (gathers.append one) metadata
        rw [all, List.append_assoc]
        rfl
  | beginning turn route | appending turn appending | reading turn =>
      exact accountsFor_of_uncalled comes fun _ => rfl

/-- What comes of an action tells what the store had before it. -/
theorem perform_accountsFor (faultless : server.IsFaultless) (client : Client)
    {action : Action} (sound : action.IsSound)
    (now : ∀ id upload, server.store.find? id = some upload →
      reads id upload.content)
    (accounts : ∀ begun, action = .goOn begun →
      begun.AccountsFor server.store reads) :
    (server.perform client action).AccountsFor reads action.upshot := by
  cases action with
  | call asked =>
      rw [perform, callStore, (faultless.note _).nextFault]
      exact attend_accountsFor (server.note _) client asked now
  | goOn begun =>
      exact goOn_accountsFor server client sound now (accounts begun rfl)
  | acquire | release | append | trailers | clock | tell =>
      exact accountsFor_of_uncalled (server.perform_comesTo client sound)
        fun _ => rfl

end Server

/-! ## Requests -/

theorem Unfinished.AccountsFor.mono {begun : Unfinished} {store later : Store}
    {reads other : String → Bytes → Prop}
    (accounts : begun.AccountsFor store reads)
    (kept : ∀ id, store.has id = true → later.has id = true)
    (weaker : ∀ id bytes, reads id bytes → other id bytes) :
    begun.AccountsFor later other := by
  cases begun with
  | calling turn asked =>
      cases asked with
      | offset id => exact kept turn.id accounts
      | _ => trivial
  | joining turn content rest ids metadata =>
      obtain ⟨there, done, all, gathers⟩ := accounts
      exact ⟨kept turn.id there, done, all, gathers.mono weaker⟩
  | beginning | appending | reading => trivial

/-- What a request has been told and what it has joined is accounted for. -/
structure Passage.Accounts (store : Store) (reads : String → Bytes → Prop)
    (joins : List String → Option String → String → Prop) (passage : Passage) :
    Prop where
  offsets : ∀ upshot ∈ passage.past, ∀ id offset,
    upshot.offset? = some (id, offset) →
    ∃ bytes, reads id bytes ∧ bytes.length = offset
  joined : ∀ upshot ∈ passage.past, ∀ ids metadata id,
    upshot.joined? = some (ids, metadata, id) → joins ids metadata id
  waits : ∀ begun, passage.next? = some (.goOn begun) →
    begun.AccountsFor store reads

namespace Passage

variable {store later : Store} {reads other : String → Bytes → Prop}
  {joins others : List String → Option String → String → Prop}
  {passage after : Passage}

theorem Accounts.mono (accounts : passage.Accounts store reads joins)
    (kept : ∀ id, store.has id = true → later.has id = true)
    (weaker : ∀ id bytes, reads id bytes → other id bytes)
    (likelier : ∀ ids metadata id,
      joins ids metadata id → others ids metadata id) :
    passage.Accounts later other others where
  offsets upshot present id offset told := by
    rcases accounts.offsets upshot present id offset told with
      ⟨bytes, here, long⟩
    exact ⟨bytes, weaker id bytes here, long⟩
  joined upshot present ids metadata id told :=
    likelier ids metadata id
      (accounts.joined upshot present ids metadata id told)
  waits begun here := (accounts.waits begun here).mono kept weaker

/-- Where nothing is gone on with, there is no more to account for. -/
theorem Accounts.of_past (accounts : passage.Accounts store reads joins)
    (same : after.past = passage.past)
    (ready : ∀ begun, after.next? ≠ some (.goOn begun)) :
    after.Accounts later reads joins where
  offsets upshot present := accounts.offsets upshot (same ▸ present)
  joined upshot present := accounts.joined upshot (same ▸ present)
  waits begun here := absurd here (ready begun)

theorem next?_of_obeys {σ : Type} {rules : Rules σ}
    {ends : σ → Except Failure Answer → Prop} {state : σ}
    {program : Program (Except Failure Answer)}
    (obeys : program.Obeys rules ends state)
    (halt : passage.halt = .waiting program) (begun : Unfinished) :
    passage.next? ≠ some (.goOn begun) := by
  intro contrary
  rw [next?, halt] at contrary
  cases obeys with
  | done here => cases contrary
  | act fresh _ _ _ =>
      cases contrary
      cases fresh

/-- What a request reads when it acts is what the store has then. -/
theorem Stands.act_accounts {server : Server} {standing : Standing}
    (stands : passage.Stands server standing)
    (faultless : server.IsFaultless)
    (accounts : passage.Accounts server.store reads joins)
    (kept : ∀ id, server.store.has id = true →
      (passage.act server).2.store.has id = true)
    (now : ∀ id upload, server.store.find? id = some upload →
      reads id upload.content)
    (creates : ∀ ids metadata id content, Gathers reads ids content →
      (id, Upload.joining ids metadata content)
        ∈ (passage.act server).2.store.uploads →
      joins ids metadata id) :
    (passage.act server).1.Accounts (passage.act server).2.store reads
      joins := by
  have acts := passage.acts server
  generalize (passage.act server).1 = after, (passage.act server).2 = left
    at acts kept creates ⊢
  have tells {action : Action}
      {next : action.Reply → Program (Except Failure Answer)}
      (halt : passage.halt = .waiting (.act action next)) :
      (server.perform passage.client action).AccountsFor reads
        action.upshot := by
    have goesOn := stands.follows.goesOn
    rw [halt] at goesOn
    refine server.perform_accountsFor faultless passage.client goesOn.1 now ?_
    intro begun going
    refine accounts.waits begun ?_
    rw [next?, halt]
    exact congrArg some going
  cases acts with
  | still ended => exact accounts.mono kept (fun _ _ => id) fun _ _ _ => id
  | finished halt => exact accounts.of_past rfl (by rintro begun ⟨⟩)
  | @answered action next reply client after halt performed =>
      have told := tells halt
      rw [performed] at told
      rcases stands.answered faultless halt performed with
        ⟨further, -, obeys, -, -⟩
      constructor
      · intro upshot present id offset tells
        rcases List.mem_append.1 present with present | last
        · exact accounts.offsets upshot present id offset tells
        · rw [List.mem_singleton.1 last] at tells
          exact told.1 id offset tells
      · intro upshot present ids metadata id tells
        rcases List.mem_append.1 present with present | last
        · exact accounts.joined upshot present ids metadata id tells
        · rw [List.mem_singleton.1 last] at tells
          rcases told.2 ids metadata id tells with ⟨content, gathers, there⟩
          exact creates ids metadata id content gathers there
      · intro begun going
        exact absurd going (next?_of_obeys obeys rfl begun)
  | @waiting action instead next same client after halt performed =>
      have told := tells halt
      rw [performed] at told
      refine ⟨accounts.offsets, accounts.joined, fun begun going => ?_⟩
      exact told begun (Option.some.inj going)
  | collapsed halt performed =>
      exact accounts.of_past rfl (by rintro begun ⟨⟩)

/-- Who goes away has read nothing more. -/
theorem Accounts.leave (accounts : passage.Accounts store reads joins)
    (server : Server) :
    (passage.leave server).1.Accounts store reads joins := by
  rw [Passage.leave]
  split
  · exact accounts.of_past rfl (by rintro begun ⟨⟩)
  · exact accounts
  · exact accounts

end Passage

namespace Traffic

/-- A request that is there finds these bytes in an upload. -/
def Finds (traffic : Traffic) (key : Nat) (id : String) (bytes : Bytes) :
    Prop :=
  key < traffic.passages.length ∧
    ∃ upload, traffic.server.store.find? id = some upload ∧
      upload.content = bytes

/-- At a moment when a request acted it found these bytes in an upload. -/
def Reads (start : Traffic) (moves : List Move) (key : Nat) (id : String)
    (bytes : Bytes) : Prop :=
  ∃ earlier later, moves = earlier ++ .act key :: later ∧
    (start.run earlier).Finds key id bytes

/--
At a moment when a request acted it joined uploads to a new one, whose content
is gathered from what the request had read of them.
-/
def Joins (start : Traffic) (moves : List Move) (key : Nat) (ids : List String)
    (metadata : Option String) (id : String) : Prop :=
  ∃ earlier later content, moves = earlier ++ .act key :: later ∧
    Gathers (start.Reads (earlier ++ [.act key]) key) ids content ∧
    (id, Upload.joining ids metadata content)
      ∈ (start.run (earlier ++ [.act key])).server.store.uploads

variable {traffic start : Traffic} {moves : List Move} {key : Nat}

theorem Reads.append {id : String} {bytes : Bytes}
    (reads : start.Reads moves key id bytes) (more : List Move) :
    start.Reads (moves ++ more) key id bytes := by
  rcases reads with ⟨earlier, later, rfl, finds⟩
  exact ⟨earlier, later ++ more, by simp, finds⟩

theorem Joins.append {ids : List String} {metadata : Option String}
    {id : String} (joins : start.Joins moves key ids metadata id)
    (more : List Move) : start.Joins (moves ++ more) key ids metadata id := by
  rcases joins with ⟨earlier, later, content, rfl, gathers, there⟩
  exact ⟨earlier, later ++ more, content, by simp, gathers, there⟩

/-- An upload that is there stays there. -/
theorem IsOrderly.has_move (orderly : traffic.IsOrderly)
    (lasting : traffic.IsLasting) {id : String}
    (there : traffic.server.store.has id = true) (move : Move) :
    (traffic.move move).server.store.has id = true := by
  rcases Store.exists_find?_of_has there with ⟨upload, found⟩
  have secures : traffic.Secures id [] :=
    ⟨⟨upload, found, List.nil_prefix⟩, fun ⟨_, _, _, _, _, _, beyond⟩ =>
      Nat.not_lt_zero _ beyond⟩
  rcases (secures.move orderly lasting move).begins with ⟨after, found, -⟩
  exact Store.has_of_find? found

/-- All requests account for what they have read. -/
def Accounts (start : Traffic) (moves : List Move) : Prop :=
  ∀ (key : Nat) (passage : Passage),
    (start.run moves).passages[key]? = some passage →
    passage.Accounts (start.run moves).server.store (start.Reads moves key)
      (start.Joins moves key)

/-- What a request reads when it acts it has read at this moment. -/
theorem Accounts.act (accounts : start.Accounts moves)
    (orderly : (start.run moves).IsOrderly)
    (lasting : (start.run moves).IsLasting) {passage : Passage}
    (present : (start.run moves).passages[key]? = some passage) :
    (passage.act (start.run moves).server).1.Accounts
      (passage.act (start.run moves).server).2.store
      (start.Reads (moves ++ [.act key]) key)
      (start.Joins (moves ++ [.act key]) key) := by
  have made : (start.run (moves ++ [.act key])).server
      = (passage.act (start.run moves).server).2 := by
    rw [run_concat, move_of_key rfl, update_of_some present]
    rfl
  rcases orderly.stands key passage present with ⟨standing, stands⟩
  refine stands.act_accounts orderly.faultless ?_ ?_ ?_ ?_
  · exact (accounts key passage present).mono (fun _ there => there)
      (fun _ _ reads => reads.append _) fun _ _ _ joins => joins.append _
  · intro id there
    rw [← made, run_concat]
    exact orderly.has_move lasting there (.act key)
  · intro id upload found
    exact ⟨moves, [], rfl, (List.getElem?_eq_some_iff.1 present).1, upload,
      found, rfl⟩
  · intro ids metadata id content gathers there
    exact ⟨moves, [], content, rfl, gathers, made ▸ there⟩

theorem Accounts.move (accounts : start.Accounts moves)
    (orderly : (start.run moves).IsOrderly)
    (lasting : (start.run moves).IsLasting) (move : Move) :
    start.Accounts (moves ++ [move]) := by
  have kept (id : String)
      (there : (start.run moves).server.store.has id = true) :
      ((start.run moves).move move).server.store.has id = true :=
    orderly.has_move lasting there move
  intro key passage
  rw [run_concat]
  -- Who does not act has read nothing more.
  have as_before {passage : Passage}
      (accounts : passage.Accounts (start.run moves).server.store
        (start.Reads moves key) (start.Joins moves key)) :
      passage.Accounts ((start.run moves).move move).server.store
        (start.Reads (moves ++ [move]) key)
        (start.Joins (moves ++ [move]) key) :=
    accounts.mono kept (fun _ _ reads => reads.append [move])
      fun _ _ _ joins => joins.append [move]
  intro present
  cases own : move.key? with
  | some other =>
      rcases orderly.advances own with still | ⟨rival, advances⟩
      · rw [still] at present
        exact as_before (accounts key passage present)
      · by_cases same : other = key
        · subst same
          have here := as_before (accounts other rival advances.present)
          rw [advances.getElem?_self] at present
          cases present
          rw [advances.next] at here ⊢
          cases move with
          | act third =>
              cases own
              exact accounts.act orderly lasting advances.present
          | hear third news =>
              exact ⟨here.offsets, here.joined, here.waits⟩
          | leave third => exact here.leave (start.run moves).server
          | arrive | elapse => cases own
        · rw [advances.getElem?_of_ne same] at present
          exact as_before (accounts key passage present)
  | none =>
      cases move with
      | arrive request client =>
          rcases getElem?_arrive present with present | ⟨-, rfl⟩
          · exact as_before (accounts key passage present)
          · exact
              { offsets := fun _ present => (List.not_mem_nil present).elim
                joined := fun _ present => (List.not_mem_nil present).elim
                waits := fun begun going => absurd going
                  (Passage.next?_of_obeys (Protocol.program_obeys _ request) rfl
                    begun) }
      | elapse milliseconds => exact as_before (accounts key passage present)
      | act | hear | leave => cases own

/-- Whatever a request has been told the store had at a moment when it acted. -/
theorem run_accounts {server : Server} (faultless : server.IsFaultless)
    {moves : List Move}
    (spares : ∀ move ∈ moves, move.isLasting server.service = true) :
    (begin server).Accounts moves := by
  -- The moves are split where the account has come to.
  have further (earlier later : List Move) (all : moves = earlier ++ later)
      (accounts : (begin server).Accounts earlier) :
      (begin server).Accounts moves := by
    induction later generalizing earlier with
    | nil =>
        rw [all, List.append_nil]
        exact accounts
    | cons first later hypothesis =>
        have lasting : ((begin server).run earlier).IsLasting := by
          refine run_isLasting faultless fun move present => spares move ?_
          rw [all]
          exact List.mem_append_left _ present
        refine hypothesis (earlier ++ [first]) ?_
          (accounts.move (run_isOrderly faultless earlier) lasting first)
        rw [all, List.append_assoc]
        rfl
  have nobody (key : Nat) (passage : Passage) :
      ((begin server).run []).passages[key]? ≠ some passage := by
    simp [run, begin]
  exact further [] moves rfl fun key passage present =>
    absurd present (nobody key passage)

end Traffic

end ResumableUpload
