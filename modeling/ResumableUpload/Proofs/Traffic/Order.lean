import ResumableUpload.Proofs.Traffic.Proceeding
/-!
# Order in the traffic

In an orderly traffic every request stands where its law allows, and no two
clients hold leases on one upload: `Traffic.IsOrderly`.  Every move keeps the
traffic orderly, so every traffic that begins with nobody is:
`Traffic.run_isOrderly`.
-/

namespace ResumableUpload

/-- The lease that goes with a position. -/
def Standing.lease? : Standing → Option Lease
  | .holding _ lease _ => some lease
  | .before _ | .refused | .parted => none

/-- The upshots of a request tell what lease it has. -/
theorem Law.lease?_of_rules {law : Law} {standing after : Standing}
    {upshot : Upshot} (follows : law.rules standing upshot = some after) :
    upshot.lease? standing.lease? = after.lease? := by
  cases standing with
  | refused | parted => cases follows
  | before authorized =>
      cases upshot with
      | acquired id reply =>
          rcases reply with failure | (_ | lease) <;> cases authorized <;>
            cases follows <;> rfl
      | called asked reply =>
          cases authorized <;> simp only [rules] at follows <;>
            split at follows <;> cases follows <;> rfl
      | told event verdict =>
          cases event <;> cases authorized <;> cases follows <;> rfl
      | heard trailers? | looked now =>
          cases authorized <;> cases follows <;> rfl
      | released lease | appended id reply =>
          cases authorized <;> cases follows
  | holding id lease stage =>
      have still (leads : (law.stage? id stage upshot).map (.holding id lease)
          = some after) : after.lease? = some lease := by
        rcases Option.map_eq_some_iff.1 leads with ⟨next, -, rfl⟩
        rfl
      cases upshot with
      | released other =>
          simp only [rules] at follows
          split at follows
          · rename_i same
            cases follows
            simp [Upshot.lease?, Standing.lease?, same]
          · cases follows
      | acquired other reply => cases follows
      | _ => exact (still follows).symm

/-- Who stands somewhere has the lease that is in his hands, and no other. -/
theorem Passage.Stands.lease? {server : Server} {passage : Passage}
    {standing : Standing} (stands : passage.Stands server standing) :
    passage.lease? = passage.client.lease := by
  have told : passage.past.foldl Upshot.lease? none = standing.lease? :=
    Rules.foldl_of_after Law.lease?_of_rules stands.follows.past
  have inHand {underWay? : Option Appending}
      (fits : standing.Fits (passage.law server.service) underWay?
        passage.client server) :
      standing.lease? = passage.client.lease := by
    cases standing with
    | holding id lease stage => exact fits.1.symm
    | before _ | refused | parted => exact Eq.symm fits
  have fits := stands.fits
  unfold Fits at fits
  unfold Passage.lease?
  cases halt : passage.halt with
  | collapsed =>
      simp only [halt] at fits
      exact fits.symm
  | finished value =>
      simp only [halt] at fits
      exact told.trans (inHand fits)
  | waiting program =>
      cases program <;> simp only [halt] at fits <;>
        exact told.trans (inHand fits)

namespace Traffic

/--
Nothing fails, every request stands where its law allows, and no two clients
hold leases on one upload.
-/
structure IsOrderly (traffic : Traffic) : Prop where
  faultless : traffic.server.IsFaultless
  stands : ∀ (key : Nat) (passage : Passage),
    traffic.passages[key]? = some passage →
    ∃ standing, passage.Stands traffic.server standing
  apart : ∀ (one other : Nat) (passage rival : Passage), one ≠ other →
    traffic.passages[one]? = some passage →
    traffic.passages[other]? = some rival →
    ∀ lease ∈ passage.client.lease, ∀ held ∈ rival.client.lease,
      lease.id ≠ held.id

/-- What is moved proceeds, and what else there is stays. -/
structure Advances (traffic : Traffic) (key : Nat) (passage after : Passage)
    (later : Server) (next : Traffic) : Prop where
  present : traffic.passages[key]? = some passage
  proceeds : passage.Proceeds traffic.server later after
  next : next = { server := later, passages := traffic.passages.set key after }

variable {traffic next : Traffic} {key other : Nat}
  {passage after rival : Passage} {later : Server}

theorem begin_isOrderly {server : Server} (faultless : server.IsFaultless) :
    (begin server).IsOrderly where
  faultless := faultless
  stands _ _ present := nomatch present
  apart _ _ _ _ _ present := nomatch present

theorem Advances.getElem?_self
    (advances : traffic.Advances key passage after later next) :
    next.passages[key]? = some after := by
  rw [advances.next]
  exact List.getElem?_set_self (List.getElem?_eq_some_iff.1 advances.present).1

theorem Advances.getElem?_of_ne
    (advances : traffic.Advances key passage after later next)
    (distinct : key ≠ other) :
    next.passages[other]? = traffic.passages[other]? := by
  rw [advances.next]
  exact List.getElem?_set_ne distinct

/-- Who is not moved stands where he stood. -/
theorem Advances.stands_of_ne (orderly : traffic.IsOrderly)
    (advances : traffic.Advances key passage after later next)
    (distinct : key ≠ other) (present : traffic.passages[other]? = some rival)
    {standing : Standing} (stands : rival.Stands traffic.server standing) :
    rival.Stands next.server standing := by
  rw [advances.next]
  exact stands.of_yields advances.proceeds.yields fun own hand lease held =>
    orderly.apart key other passage rival distinct advances.present present
      own hand lease held

/-- A lease that is new is on an upload on which nobody has one. -/
theorem Advances.apart_of_ne (orderly : traffic.IsOrderly)
    (advances : traffic.Advances key passage after later next)
    (distinct : key ≠ other) (present : traffic.passages[other]? = some rival) :
    ∀ lease ∈ after.client.lease, ∀ held ∈ rival.client.lease,
      lease.id ≠ held.id := by
  intro lease hand held theirs
  rcases advances.proceeds.asks lease hand with before | free
  · exact orderly.apart key other passage rival distinct advances.present
      present lease before held theirs
  · rcases orderly.stands other rival present with ⟨standing, stands⟩
    have force := (stands.holds theirs).1
    intro same
    rw [same, LockTable.isLocked, LockTable.holder?,
      List.find?_isSome.2] at free
    · cases free
    · exact ⟨held, force, beq_self_eq_true held.id⟩

theorem Advances.isOrderly (orderly : traffic.IsOrderly)
    (advances : traffic.Advances key passage after later next) :
    next.IsOrderly where
  faultless := by
    rw [advances.next]
    exact advances.proceeds.yields.isFaultless orderly.faultless
  stands one someone present := by
    by_cases own : key = one
    · subst own
      rw [advances.getElem?_self] at present
      cases present
      rw [advances.next]
      exact advances.proceeds.stands
    · rw [advances.getElem?_of_ne own] at present
      rcases orderly.stands one someone present with ⟨standing, stands⟩
      exact ⟨standing, advances.stands_of_ne orderly own present stands⟩
  apart one another someone rival distinct present theirs lease hand held := by
    by_cases own : key = one
    · subst own
      rw [advances.getElem?_self] at present
      cases present
      rw [advances.getElem?_of_ne distinct] at theirs
      exact advances.apart_of_ne orderly distinct theirs lease hand held
    · rw [advances.getElem?_of_ne own] at present
      by_cases his : key = another
      · subst his
        rw [advances.getElem?_self] at theirs
        cases theirs
        exact fun taken same => advances.apart_of_ne orderly own present held
          taken lease hand same.symm
      · rw [advances.getElem?_of_ne his] at theirs
        exact orderly.apart one another someone rival distinct present theirs
          lease hand held

/-- A request that is moved, if it is there, proceeds. -/
theorem IsOrderly.advances (orderly : traffic.IsOrderly) {move : Move}
    (own : move.key? = some key) :
    traffic.move move = traffic ∨ ∃ passage,
      traffic.Advances key passage (move.change passage traffic.server).1
        (move.change passage traffic.server).2 (traffic.move move) := by
  rw [move_of_key own]
  cases present : traffic.passages[key]? with
  | none => exact .inl (update_of_none present move.change)
  | some passage =>
      rcases orderly.stands key passage present with ⟨standing, stands⟩
      exact .inr ⟨passage, present,
        stands.change_proceeds orderly.faultless move,
        update_of_some present move.change⟩

/-- A newcomer stands where nobody has asked for a lease. -/
theorem stands_begin (server : Server) (request : Request) (client : Client) :
    (Passage.begin server.service request client).Stands server
      (.before false) :=
  ⟨.begin (Protocol.program_obeys server.service request) client,
    .of_obeys (Protocol.program_obeys server.service request) rfl rfl⟩

/-- Who arrives finds the traffic orderly, and leaves it so. -/
theorem IsOrderly.arrive (orderly : traffic.IsOrderly) (request : Request)
    (client : Client) : (traffic.move (.arrive request client)).IsOrderly := by
  refine ⟨orderly.faultless, ?_, ?_⟩
  · intro key passage present
    rcases getElem?_arrive present with present | ⟨-, rfl⟩
    · exact orderly.stands key passage present
    · exact ⟨.before false, stands_begin traffic.server request client⟩
  · intro one other passage rival distinct present theirs lease hand held taken
    rcases getElem?_arrive present with present | ⟨here, rfl⟩
    · rcases getElem?_arrive theirs with theirs | ⟨-, rfl⟩
      · exact orderly.apart one other passage rival distinct present theirs
          lease hand held taken
      · cases taken
    · cases hand

theorem IsOrderly.elapse (orderly : traffic.IsOrderly) (milliseconds : Int) :
    (traffic.move (.elapse milliseconds)).IsOrderly where
  faultless := orderly.faultless
  stands key passage present := by
    rcases orderly.stands key passage present with ⟨standing, stands⟩
    have yields : traffic.server.Yields none
        (traffic.move (.elapse milliseconds)).server :=
      ⟨rfl, rfl, fun _ force _ => force, fun id _ => .refl id _⟩
    exact ⟨standing, stands.of_yields yields nofun⟩
  apart := orderly.apart

/-- Every move keeps the traffic orderly. -/
theorem IsOrderly.move (orderly : traffic.IsOrderly) (move : Move) :
    (traffic.move move).IsOrderly := by
  cases own : move.key? with
  | some key =>
      rcases orderly.advances own with still | ⟨_, advances⟩
      · exact still.symm ▸ orderly
      · exact advances.isOrderly orderly
  | none =>
      cases move with
      | arrive request client => exact orderly.arrive request client
      | elapse milliseconds => exact orderly.elapse milliseconds
      | act key | hear key news | leave key => cases own

theorem IsOrderly.run (orderly : traffic.IsOrderly) (moves : List Move) :
    (traffic.run moves).IsOrderly := by
  induction moves generalizing traffic with
  | nil => exact orderly
  | cons first later hypothesis => exact hypothesis (orderly.move first)

/-- Every traffic that begins with nobody is orderly. -/
theorem run_isOrderly {server : Server} (faultless : server.IsFaultless)
    (moves : List Move) : ((begin server).run moves).IsOrderly :=
  (begin_isOrderly faultless).run moves

end Traffic

end ResumableUpload
