import ResumableUpload.Proofs.Traffic.Basic
import ResumableUpload.Proofs.Traffic.Holding
import ResumableUpload.Proofs.Traffic.Obedience
/-!
# How a request proceeds

Every request goes on as its law says, a lease in the hands of a client is in
force, and what the stage of its holder says of the upload is true:
`Passage.Stands`.  A move of a request keeps all this true of the request
itself, because it is within the law, and of the others, because it yields to
their leases: `Passage.Proceeds`.
-/

namespace ResumableUpload

/-! ## Disciplines of requests -/

/-- Where a program stands, it goes on as the rules say. -/
def Halt.Pursues {σ α : Type} (rules : Rules σ) (ends : σ → α → Prop)
    (state : σ) : Halt α → Prop
  | .finished value => ends state value
  | .waiting program => program.Pursues rules ends state
  | .collapsed => True

namespace Passage

/--
Things stand somewhere after what a request has done, and it goes on there.
-/
structure Follows {σ : Type} (rules : Rules σ)
    (ends : σ → Except Failure Answer → Prop) (start : σ) (passage : Passage)
    (state : σ) : Prop where
  past : rules.after start passage.past = some state
  goesOn : passage.halt.Pursues rules ends state

namespace Follows

variable {σ : Type} {rules : Rules σ}
  {ends : σ → Except Failure Answer → Prop} {start state : σ}
  {passage : Passage}

theorem begin {service : Service} {request : Request}
    (obeys : (Protocol.program service request).Obeys rules ends start)
    (client : Client) :
    (Passage.begin service request client).Follows rules ends start start :=
  ⟨rfl, obeys.pursues⟩

/-- An action that is answered leads on. -/
theorem answered {action : Action}
    {next : action.Reply → Program (Except Failure Answer)}
    (follows : passage.Follows rules ends start state)
    (halt : passage.halt = .waiting (.act action next)) (reply : action.Reply)
    (client : Client) :
    ∃ after, rules state (action.upshot reply) = some after ∧
      (next reply).Obeys rules ends after ∧
      Follows rules ends start
        { passage with
          client := client
          halt := .waiting (next reply)
          past := passage.past ++ [action.upshot reply] } after := by
  have goesOn := follows.goesOn
  rw [halt] at goesOn
  rcases goesOn.2 reply with ⟨after, permitted, obeys⟩
  refine ⟨after, permitted, obeys, ?_, obeys.pursues⟩
  rw [Rules.after_concat, follows.past]
  exact permitted

/-- An action that waits does not lead anywhere. -/
theorem waiting {action instead : Action}
    {next : action.Reply → Program (Except Failure Answer)}
    {same : instead.Reply → action.Reply}
    (follows : passage.Follows rules ends start state)
    (halt : passage.halt = .waiting (.act action next))
    (sound : instead.IsSound)
    (comes : ∀ reply, instead.upshot reply = action.upshot (same reply))
    (client : Client) :
    Follows rules ends start
      { passage with
        client := client
        halt := .waiting (.act instead fun reply => next (same reply)) }
      state := by
  have goesOn := follows.goesOn
  rw [halt] at goesOn
  refine ⟨follows.past, sound, fun reply => ?_⟩
  rw [comes reply]
  exact goesOn.2 (same reply)

theorem finished {value : Except Failure Answer}
    (follows : passage.Follows rules ends start state)
    (halt : passage.halt = .waiting (.done value)) :
    Follows rules ends start { passage with halt := .finished value }
      state := by
  have goesOn := follows.goesOn
  rw [halt] at goesOn
  exact ⟨follows.past, goesOn⟩

theorem lost (follows : passage.Follows rules ends start state) :
    passage.lost.Follows rules ends start state :=
  ⟨follows.past, trivial⟩

end Follows

end Passage

/-! ## Standing -/

/--
What the standing of a request says about its client and the server: who holds a
lease has it in hand, it is in force, and the stage fits the upload.
-/
def Standing.Fits (law : Law) (underWay? : Option Appending) (client : Client)
    (server : Server) : Standing → Prop
  | .holding id lease stage =>
      client.lease = some lease ∧ lease.id = id ∧ lease ∈ server.locks.held ∧
        stage.Fits law id server.store underWay?
  | .before _ | .refused | .parted => client.lease = none

/-- What came of an action agrees with the standing to which it leads. -/
def Performed.Places {reply : Type} (law : Law) (standing : Standing)
    (upshot : reply → Upshot) : Performed reply → Prop
  | .answered answer client after =>
      ∀ next, law.rules standing (upshot answer) = some next →
        next.Fits law none client after
  | .waiting instead _ client after =>
      standing.Fits law instead.underWay? client after
  | .collapsed _ _ => True

/-- A lease that is granted is one on the upload, which had none. -/
theorem LockTable.acquire_eq_some {table : LockTable} {id : String}
    {lease : Lease} (granted : (table.acquire id).1 = some lease) :
    lease.id = id ∧ table.isLocked id = false ∧
      (table.acquire id).2.held = lease :: table.held := by
  rw [acquire] at granted ⊢
  split at granted
  · cases granted
  · rename_i free
    cases granted
    rw [if_neg free]
    exact ⟨rfl, Bool.eq_false_iff.2 free, rfl⟩

theorem Action.underWay?_of_isFresh {action : Action}
    (fresh : action.isFresh = true) : action.underWay? = none := by
  cases action with
  | goOn begun => cases fresh
  | _ => rfl

theorem Action.nonempty_reply (action : Action) : Nonempty action.Reply := by
  cases action with
  | acquire | call | append => exact ⟨.error (.missing "")⟩
  | release => exact ⟨()⟩
  | trailers => exact ⟨none⟩
  | clock => exact ⟨{ seconds := 0 }⟩
  | tell => exact ⟨.proceed⟩
  | goOn begun =>
      cases begun with
      | reading => exact ⟨.proceed⟩
      | _ => exact ⟨.error (.missing "")⟩

section Performing

variable {law : Law} {standing : Standing} {server : Server} {client : Client}
  {action : Action}

/-- Who asks for a lease gets one that is in force, or none. -/
theorem Server.acquire_places (faultless : server.IsFaultless) (client : Client)
    (id : String) :
    (server.perform client (.acquire id)).Places law (.before true)
      (.acquired id) := by
  rw [perform, askLease, faultless.nextFault]
  simp only
  rcases asked : server.locks.acquire id with ⟨_ | lease, table⟩
  · intro next leads
    cases leads
    rfl
  · have granted : (server.locks.acquire id).1 = some lease := by rw [asked]
    rcases LockTable.acquire_eq_some granted with ⟨same, -, held⟩
    rw [asked] at held
    intro next leads
    cases leads
    refine ⟨rfl, same, ?_, trivial⟩
    change lease ∈ table.held
    rw [held]
    exact List.mem_cons_self

/-- Who has not asked for a lease has none, unless he asks for one. -/
theorem Server.perform_places_before (faultless : server.IsFaultless)
    (other : action.isLeasing = false) (empty : client.lease = none)
    (authorized : Bool) :
    (server.perform client action).Places law (.before authorized)
      action.upshot := by
  have lease := (perform_spares faultless client other).lease
  rw [empty] at lease
  generalize server.perform client action = performed at lease ⊢
  cases performed with
  | answered reply client after =>
      intro next follows
      rcases law.isBefore_of_rules other follows with ⟨again, rfl⟩
      exact lease
  | waiting instead same client after => exact lease
  | collapsed client after => trivial

/-- Who holds a lease keeps it, unless he gives it back. -/
theorem Server.perform_places_holding (faultless : server.IsFaultless)
    (sound : action.IsSound) (other : action.isLeasing = false)
    {id : String} {lease : Lease} {stage : Stage}
    (fits : (Standing.holding id lease stage).Fits law action.underWay? client
      server)
    (permitted : ∀ reply, ∃ next,
      law.stage? id stage (action.upshot reply) = some next) :
    (server.perform client action).Places law (.holding id lease stage)
      action.upshot := by
  obtain ⟨hand, same, force, fits⟩ := fits
  have spares := perform_spares faultless client other
  have going := perform_fitsIn faultless client sound fits permitted
  have held := spares.server.locks
  have kept := spares.lease
  generalize server.perform client action = performed at going held kept ⊢
  cases performed with
  | answered reply client after =>
      intro next follows
      rw [Law.rules_holding other] at follows
      rcases Option.map_eq_some_iff.1 follows with ⟨further, leads, rfl⟩
      exact ⟨kept.trans hand, same, held ▸ force, going further leads⟩
  | waiting instead again client after =>
      exact ⟨kept.trans hand, same, held ▸ force, going⟩
  | collapsed client after => trivial

/-- What a request does within its law agrees with the standing it leads to. -/
theorem Server.perform_places (faultless : server.IsFaultless)
    (sound : action.IsSound)
    (fits : standing.Fits law action.underWay? client server)
    (permitted : ∀ reply, ∃ after,
      law.rules standing (action.upshot reply) = some after) :
    (server.perform client action).Places law standing action.upshot := by
  obtain ⟨some_reply⟩ := action.nonempty_reply
  rcases permitted some_reply with ⟨somewhere, leads⟩
  cases standing with
  | refused | parted => cases leads
  | before authorized =>
      cases other : action.isLeasing with
      | false => exact perform_places_before faultless other fits authorized
      | true =>
          cases action with
          | acquire id =>
              cases authorized with
              | true => exact acquire_places faultless client id
              | false =>
                  rcases permitted (.ok none) with ⟨after, contrary⟩
                  cases contrary
          | release lease => cases authorized <;> cases leads
          | _ => cases other
  | holding id lease stage =>
      cases other : action.isLeasing with
      | false =>
          refine perform_places_holding faultless sound other fits ?_
          intro reply
          rcases permitted reply with ⟨after, follows⟩
          rw [Law.rules_holding other] at follows
          rcases Option.map_eq_some_iff.1 follows with ⟨next, follows, -⟩
          exact ⟨next, follows⟩
      | true =>
          cases action with
          | acquire id => cases leads
          | release returned =>
              intro next follows
              simp only [Law.rules, Action.upshot] at follows
              split at follows
              · cases follows
                rfl
              · cases follows
          | _ => cases other

end Performing

/-! ## Yielding -/

/--
What is done with a lease at hand, or with none, yields to all other leases:
they stay in force, and the records of other uploads are kept.
-/
structure Server.Yields (own? : Option Lease) (before after : Server) :
    Prop where
  service : after.service = before.service
  faults : after.faults = before.faults
  locks : ∀ lease ∈ before.locks.held, (∀ own ∈ own?, own.id ≠ lease.id) →
    lease ∈ after.locks.held
  records : ∀ id, (∀ own ∈ own?, own.id ≠ id) →
    before.store.Keeps id after.store

namespace Server

variable {law : Law} {standing : Standing} {server : Server} {client : Client}
  {action : Action} {own? : Option Lease}

theorem Yields.trans {before middle after : Server}
    (first : before.Yields own? middle) (second : middle.Yields own? after) :
    before.Yields own? after where
  service := second.service.trans first.service
  faults := second.faults.trans first.faults
  locks lease force apart :=
    second.locks lease (first.locks lease force apart) apart
  records id apart :=
    (first.records id apart).trans (second.records id apart)

theorem Yields.isFaultless {before after : Server}
    (yields : before.Yields own? after) (faultless : before.IsFaultless) :
    after.IsFaultless := by
  intro operation
  rw [yields.faults]
  exact faultless operation

/-- To give up what one has is to yield. -/
theorem Yields.of_release {lease : Lease} (own : own? = some lease) :
    server.Yields own?
      { server with locks := server.locks.release lease } where
  service := rfl
  faults := rfl
  locks other force apart := by
    refine List.mem_filter.2 ⟨force, ?_⟩
    simp only [bne_iff_ne, ne_eq]
    rintro rfl
    exact apart other own rfl
  records id _ := .refl id server.store

theorem giveBack_of_faultless (faultless : server.IsFaultless)
    (lease : Lease) :
    server.giveBack lease
      = { server with locks := server.locks.release lease } := by
  rw [giveBack, faultless.nextFault]

/-- A lease that is dropped where nothing fails is given back. -/
theorem dropLease_of_faultless (faultless : server.IsFaultless)
    (lease : Lease) :
    server.dropLease (some lease)
      = { server with locks := server.locks.release lease } := by
  rw [dropLease]
  split
  · rfl
  · exact giveBack_of_faultless faultless lease

theorem store_dropLease (faultless : server.IsFaultless)
    (lease? : Option Lease) :
    (server.dropLease lease?).store = server.store := by
  cases lease? with
  | none => rfl
  | some lease => rw [dropLease_of_faultless faultless]

theorem dropLease_yields (faultless : server.IsFaultless) :
    server.Yields own? (server.dropLease own?) := by
  cases own? with
  | none => exact ⟨rfl, rfl, fun _ force _ => force, fun id _ => .refl id _⟩
  | some lease =>
      rw [dropLease_of_faultless faultless]
      exact .of_release rfl

/-- What is appended is appended by the holder of a lease. -/
theorem holds_of_appended {id : String} {reply : Except Failure Nat}
    {after : Standing}
    (follows : law.rules standing (.appended id reply) = some after) :
    ∃ lease, standing.Holds id lease := by
  cases standing with
  | before authorized => cases authorized <;> cases follows
  | refused | parted => cases follows
  | holding other lease stage =>
      rcases Option.map_eq_some_iff.1 follows with ⟨next, leads, -⟩
      rcases Law.stage?_appended leads with ⟨rfl, -⟩
      exact ⟨lease, stage, rfl⟩

theorem holds_of_called {id : String} {asked : Call}
    (alters : asked.alters id = true) {reply : Except Failure asked.Reply}
    {after : Standing}
    (follows : law.rules standing (.called asked reply) = some after) :
    ∃ lease, standing.Holds id lease := by
  cases standing with
  | before authorized =>
      cases asked <;> first | cases alters | skip
      all_goals cases authorized <;> cases follows
  | refused | parted => cases follows
  | holding other lease stage =>
      rcases Option.map_eq_some_iff.1 follows with ⟨next, leads, -⟩
      refine ⟨lease, stage, ?_⟩
      cases asked with
      | setLength given length =>
          rw [← (Law.stage?_setLength leads).1, beq_iff_eq.1 alters]
      | verify given algorithm hash =>
          rw [← (Law.stage?_verify leads).1, beq_iff_eq.1 alters]
      | delete given =>
          rw [← (Law.stage?_delete leads).1, beq_iff_eq.1 alters]
      | removeExpired => cases leads
      | _ => cases alters

/-- Only the holder of a lease alters content, length or presence. -/
theorem holds_of_alters {id : String} (alters : action.alters id = true)
    {reply : action.Reply} {after : Standing}
    (follows : law.rules standing (action.upshot reply) = some after) :
    ∃ lease, standing.Holds id lease := by
  cases action with
  | append other route =>
      rw [← beq_iff_eq.1 alters]
      exact holds_of_appended follows
  | call asked => exact holds_of_called alters follows
  | goOn begun =>
      cases begun with
      | calling turn asked => exact holds_of_called alters follows
      | beginning turn route | appending turn appending =>
          rw [← beq_iff_eq.1 alters]
          exact holds_of_appended follows
      | _ => cases alters
  | _ => cases alters

/-- What a request does within its law yields to all leases but its own. -/
theorem perform_yields (faultless : server.IsFaultless)
    {underWay? : Option Appending}
    (fits : standing.Fits law underWay? client server)
    (permitted : ∀ reply, ∃ after,
      law.rules standing (action.upshot reply) = some after) :
    server.Yields client.lease (server.perform client action).server := by
  obtain ⟨some_reply⟩ := action.nonempty_reply
  rcases permitted some_reply with ⟨somewhere, leads⟩
  cases other : action.isLeasing with
  | true =>
      cases action with
      | acquire id =>
          rw [perform, askLease, faultless.nextFault]
          refine ⟨rfl, rfl, fun lease force _ => ?_, fun id _ => .refl id _⟩
          change lease ∈ (server.locks.acquire id).2.held
          rw [LockTable.acquire]
          split
          · exact force
          · exact List.mem_cons_of_mem _ force
      | release returned =>
          cases standing with
          | before authorized => cases authorized <;> cases leads
          | refused | parted => cases leads
          | holding id lease stage =>
              simp only [Law.rules, Action.upshot] at leads
              split at leads
              · rename_i own
                subst own
                change server.Yields client.lease (server.giveBack returned)
                rw [giveBack_of_faultless faultless]
                exact .of_release fits.1
              · cases leads
      | _ => cases other
  | false =>
      have spares := (perform_spares faultless client other).server
      refine ⟨spares.service, spares.faults, ?_, ?_⟩
      · intro lease force _
        rw [spares.locks]
        exact force
      · intro id apart
        refine spares.records id (Bool.eq_false_iff.2 fun alters => ?_)
        rcases holds_of_alters alters leads with ⟨lease, stage, rfl⟩
        exact apart lease fits.1 fits.2.1

/--
A lease that is new in the hands of a client is on an upload that had none.
-/
theorem perform_asks (faultless : server.IsFaultless) (client : Client)
    (action : Action) :
    ∀ lease ∈ (server.perform client action).client.lease,
      lease ∈ client.lease ∨ server.locks.isLocked lease.id = false := by
  intro lease hand
  cases other : action.isLeasing with
  | true =>
      cases action with
      | acquire id =>
          rw [perform, askLease, faultless.nextFault] at hand
          rcases LockTable.acquire_eq_some hand with ⟨rfl, free, -⟩
          exact .inr free
      | release returned => cases hand
      | _ => cases other
  | false =>
      rw [(perform_spares faultless client other).lease] at hand
      exact .inl hand

theorem lease_of_collapsed (faultless : server.IsFaultless)
    {client after : Client} {later : Server}
    (performed : server.perform client action = .collapsed after later) :
    after.lease = client.lease := by
  cases other : action.isLeasing with
  | true =>
      cases action with
      | acquire id =>
          rw [perform, askLease, faultless.nextFault] at performed
          cases performed
      | release returned => cases performed
      | _ => cases other
  | false =>
      have lease := (perform_spares faultless client other).lease
      rw [performed] at lease
      exact lease

end Server

/-- What stands fast for a client stands fast if everybody yields to him. -/
theorem Standing.Fits.of_yields {law : Law} {standing : Standing}
    {underWay? : Option Appending} {client : Client} {server later : Server}
    {own? : Option Lease} (fits : standing.Fits law underWay? client server)
    (yields : server.Yields own? later)
    (apart : ∀ own ∈ own?, ∀ lease ∈ client.lease, own.id ≠ lease.id) :
    standing.Fits law underWay? client later := by
  cases standing with
  | before authorized => exact fits
  | refused | parted => exact fits
  | holding id lease stage =>
      obtain ⟨hand, rfl, force, fits⟩ := fits
      have away (own : Lease) (present : own ∈ own?) : own.id ≠ lease.id :=
        apart own present lease hand
      exact ⟨hand, rfl, yields.locks lease force away,
        fits.of_keeps (yields.records lease.id away)⟩

/-! ## Passages -/

namespace Passage

/-- What a request may do follows from the request. -/
def law (passage : Passage) (service : Service) : Law :=
  .ofRequest service passage.request

/-- What the standing of a request says of it and of the server is true. -/
def Fits (law : Law) (server : Server) (passage : Passage)
    (standing : Standing) : Prop :=
  match passage.halt with
  | .waiting (.act action _) =>
      standing.Fits law action.underWay? passage.client server
  | .waiting (.done _) | .finished _ =>
      standing.Fits law none passage.client server
  | .collapsed => passage.client.lease = none

/-- A request goes on as its law says, and stands where it seems to stand. -/
structure Stands (server : Server) (passage : Passage) (standing : Standing) :
    Prop where
  follows : passage.Follows (passage.law server.service).rules
    (passage.law server.service).ends (.before false) standing
  fits : passage.Fits (passage.law server.service) server standing

variable {server later : Server} {passage after : Passage}
  {standing : Standing} {own? : Option Lease}

/-- No append is under way where a program begins that obeys. -/
theorem Fits.of_obeys {law : Law} {program : Program (Except Failure Answer)}
    (obeys : program.Obeys law.rules law.ends standing)
    (halt : passage.halt = .waiting program)
    (fits : standing.Fits law none passage.client server) :
    passage.Fits law server standing := by
  rw [Fits.eq_def, halt]
  cases obeys with
  | done here => exact fits
  | act fresh _ _ _ =>
      simp only [Action.underWay?_of_isFresh fresh]
      exact fits

/-- The holder of a lease has one that is in force, and stands there. -/
theorem Stands.holds (stands : passage.Stands server standing) {lease : Lease}
    (hand : passage.client.lease = some lease) :
    lease ∈ server.locks.held ∧ standing.Holds lease.id lease := by
  have holder {underWay? : Option Appending}
      (fits : standing.Fits (passage.law server.service) underWay?
        passage.client server) :
      lease ∈ server.locks.held ∧ standing.Holds lease.id lease := by
    cases standing with
    | before authorized => cases hand.symm.trans fits
    | refused | parted => cases hand.symm.trans fits
    | holding id held stage =>
        obtain ⟨same, rfl, force, -⟩ := fits
        cases hand.symm.trans same
        exact ⟨force, stage, rfl⟩
  have fits := stands.fits
  rw [Fits.eq_def] at fits
  split at fits
  · exact holder fits
  · exact holder fits
  · exact holder fits
  · cases hand.symm.trans fits

/-- A request to whose lease everybody yields stands where it stood. -/
theorem Stands.of_yields (stands : passage.Stands server standing)
    (yields : server.Yields own? later)
    (apart : ∀ own ∈ own?, ∀ lease ∈ passage.client.lease, own.id ≠ lease.id) :
    passage.Stands later standing := by
  obtain ⟨follows, fits⟩ := stands
  refine ⟨yields.service.symm ▸ follows, ?_⟩
  rw [yields.service]
  rw [Fits.eq_def] at fits ⊢
  split at fits
  · exact Standing.Fits.of_yields fits yields apart
  · exact Standing.Fits.of_yields fits yields apart
  · exact Standing.Fits.of_yields fits yields apart
  · exact fits

/--
What a move of a request does: it stands somewhere after it, the server yields
to all other leases, and a lease that is new in its hands is on an upload that
had none.
-/
structure Proceeds (server : Server) (passage : Passage) (later : Server)
    (after : Passage) : Prop where
  stands : ∃ standing, after.Stands later standing
  yields : server.Yields passage.client.lease later
  asks : ∀ lease ∈ after.client.lease, lease ∈ passage.client.lease ∨
    server.locks.isLocked lease.id = false
  request : after.request = passage.request

/-- A request that goes on as it is. -/
theorem Stands.proceeds (stands : passage.Stands server standing) :
    passage.Proceeds server server passage where
  stands := ⟨standing, stands⟩
  yields := ⟨rfl, rfl, fun _ force _ => force, fun id _ => .refl id _⟩
  asks _ hand := .inl hand
  request := rfl

/-- What a request performs is within its law, and yields to the others. -/
theorem Stands.performs (stands : passage.Stands server standing)
    (faultless : server.IsFaultless) {action : Action}
    {next : action.Reply → Program (Except Failure Answer)}
    (halt : passage.halt = .waiting (.act action next)) :
    (server.perform passage.client action).Places (passage.law server.service)
        standing action.upshot ∧
      server.Yields passage.client.lease
        (server.perform passage.client action).server ∧
      (server.perform passage.client action).ComesTo action.upshot := by
  have fits := stands.fits
  have goesOn := stands.follows.goesOn
  rw [Fits.eq_def, halt] at fits
  rw [halt] at goesOn
  have permitted (reply : action.Reply) :=
    (goesOn.2 reply).imp fun _ here => here.1
  exact ⟨server.perform_places faultless goesOn.1 fits permitted,
    server.perform_yields faultless fits permitted,
    server.perform_comesTo passage.client goesOn.1⟩

/-- A request that is answered stands where the answer leads. -/
theorem Stands.answered (stands : passage.Stands server standing)
    (faultless : server.IsFaultless) {action : Action}
    {next : action.Reply → Program (Except Failure Answer)}
    (halt : passage.halt = .waiting (.act action next)) {reply : action.Reply}
    {client : Client}
    (performed : server.perform passage.client action
      = .answered reply client later) :
    ∃ further, (passage.law server.service).rules standing
          (action.upshot reply) = some further ∧
        (next reply).Obeys (passage.law server.service).rules
          (passage.law server.service).ends further ∧
        Stands later
          { passage with
            client := client
            halt := .waiting (next reply)
            past := passage.past ++ [action.upshot reply] } further ∧
        later.service = server.service := by
  rcases stands.performs faultless halt with ⟨places, yields, -⟩
  rw [performed] at places yields
  have same : later.service = server.service := yields.service
  rcases stands.follows.answered halt reply client with
    ⟨further, leads, obeys, follows⟩
  refine ⟨further, leads, obeys, ⟨same.symm ▸ follows, ?_⟩, same⟩
  rw [same]
  exact .of_obeys obeys rfl (places further leads)

/-- A request that has to wait stands where it stood. -/
theorem Stands.waited (stands : passage.Stands server standing)
    (faultless : server.IsFaultless) {action instead : Action}
    {next : action.Reply → Program (Except Failure Answer)}
    (halt : passage.halt = .waiting (.act action next))
    {same : instead.Reply → action.Reply} {client : Client}
    (performed : server.perform passage.client action
      = .waiting instead same client later) :
    Stands later
        { passage with
          client := client
          halt := .waiting (.act instead fun reply => next (same reply)) }
        standing ∧
      later.service = server.service := by
  rcases stands.performs faultless halt with ⟨places, yields, comes⟩
  rw [performed] at places yields comes
  have service : later.service = server.service := yields.service
  have follows := stands.follows.waiting halt comes.1 comes.2 client
  refine ⟨⟨service.symm ▸ follows, ?_⟩, service⟩
  rw [service]
  exact places

/-- A request within its law proceeds when it acts. -/
theorem Stands.act_proceeds (stands : passage.Stands server standing)
    (faultless : server.IsFaultless) :
    passage.Proceeds server (passage.act server).2 (passage.act server).1 := by
  have acts := passage.acts server
  generalize (passage.act server).1 = after, (passage.act server).2 = later
    at acts ⊢
  cases acts with
  | still ended => exact stands.proceeds
  | finished halt =>
      have fits := stands.fits
      rw [Fits.eq_def, halt] at fits
      exact
        { stands := ⟨standing, stands.follows.finished halt, fits⟩
          yields := stands.proceeds.yields
          asks := stands.proceeds.asks
          request := rfl }
  | @answered action next reply client later halt performed =>
      have asks := server.perform_asks faultless passage.client action
      rcases stands.performs faultless halt with ⟨-, yields, -⟩
      rcases stands.answered faultless halt performed with
        ⟨further, -, -, stands, -⟩
      rw [performed] at yields asks
      exact ⟨⟨further, stands⟩, yields, asks, rfl⟩
  | @waiting action instead next same client later halt performed =>
      have asks := server.perform_asks faultless passage.client action
      rcases stands.performs faultless halt with ⟨-, yields, -⟩
      rw [performed] at yields asks
      exact ⟨⟨standing, (stands.waited faultless halt performed).1⟩, yields,
        asks, rfl⟩
  | @collapsed action next client later halt performed =>
      have lease := server.lease_of_collapsed faultless performed
      rcases stands.performs faultless halt with ⟨-, yields, -⟩
      rw [performed] at yields
      have still : later.IsFaultless := yields.isFaultless faultless
      have drops : later.Yields passage.client.lease
          (later.dropLease client.lease) :=
        lease ▸ Server.dropLease_yields still
      have dropped := yields.trans drops
      refine ⟨⟨standing, ⟨?_, trivial⟩, rfl⟩, dropped, nofun, rfl⟩
      rw [dropped.service]
      exact stands.follows.past

/-- A client that goes away gives up the lease and no more. -/
theorem Stands.leave_proceeds (stands : passage.Stands server standing)
    (faultless : server.IsFaultless) :
    passage.Proceeds server (passage.leave server).2
      (passage.leave server).1 := by
  rw [leave]
  split
  · rename_i program halt
    have left : server.Yields passage.client.lease
        (server.leave program.turn?) := by
      cases program.turn? <;>
        exact ⟨rfl, rfl, fun _ force _ => force, fun id _ => .refl id _⟩
    have still : (server.leave program.turn?).IsFaultless :=
      left.isFaultless faultless
    have drops : (server.leave program.turn?).Yields passage.client.lease
        ((server.leave program.turn?).dropLease passage.client.lease) :=
      Server.dropLease_yields still
    have dropped := left.trans drops
    refine ⟨⟨standing, ⟨?_, trivial⟩, rfl⟩, dropped, nofun, rfl⟩
    exact dropped.service.symm ▸ stands.follows.past
  · exact stands.proceeds
  · exact stands.proceeds

/-- Of a client no more than the lease matters. -/
theorem Fits.of_lease {law : Law} {client : Client}
    (fits : passage.Fits law server standing)
    (lease : client.lease = passage.client.lease) :
    Fits law server { passage with client := client } standing := by
  have same {underWay? : Option Appending}
      (fits : standing.Fits law underWay? passage.client server) :
      standing.Fits law underWay? client server := by
    cases standing with
    | holding id held stage => exact ⟨lease.trans fits.1, fits.2⟩
    | before _ | refused | parted => exact lease.trans fits
  unfold Fits at fits ⊢
  cases halt : passage.halt with
  | finished value =>
      simp only [halt] at fits ⊢
      exact same fits
  | waiting program =>
      cases program <;> simp only [halt] at fits ⊢ <;> exact same fits
  | collapsed =>
      simp only [halt] at fits ⊢
      exact lease.trans fits

/-- News change nothing but what a client has sent. -/
theorem Stands.hear_proceeds (stands : passage.Stands server standing)
    (news : News) :
    passage.Proceeds server (passage.hear news server).2
      (passage.hear news server).1 := by
  have lease := news.reach_lease passage.client
  exact
    { stands := ⟨standing, ⟨stands.follows.past, stands.follows.goesOn⟩,
        stands.fits.of_lease lease⟩
      yields := stands.proceeds.yields
      asks := fun held hand => .inl (lease ▸ hand)
      request := rfl }

/-- Whatever moves a request, it proceeds. -/
theorem Stands.change_proceeds (stands : passage.Stands server standing)
    (faultless : server.IsFaultless) (move : Move) :
    passage.Proceeds server (move.change passage server).2
      (move.change passage server).1 := by
  cases move with
  | act key => exact stands.act_proceeds faultless
  | hear key news => exact stands.hear_proceeds news
  | leave key => exact stands.leave_proceeds faultless
  | arrive request client | elapse milliseconds => exact stands.proceeds

/-- What a request may do stays the same. -/
theorem Proceeds.law (proceeds : passage.Proceeds server later after) :
    after.law later.service = passage.law server.service := by
  rw [Passage.law, Passage.law, proceeds.yields.service, proceeds.request]

end Passage

end ResumableUpload
