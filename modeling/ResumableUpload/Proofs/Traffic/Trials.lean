import ResumableUpload.Proofs.Traffic.Order
/-!
# Bytes on trial

Where a checksum was promised, what a request appends is on trial from the
beginning of the append until it has been verified.  Only bytes on trial are
ever discarded: bytes that an upload begins with, and of which none is on trial,
are what it begins with after every move, as long as nobody deletes uploads.
This is `Traffic.Secures.run`.
-/

namespace ResumableUpload

/-- The bytes of an upload begin with these. -/
def Store.Begins (id : String) (bytes : Bytes) (store : Store) : Prop :=
  ∃ upload, store.find? id = some upload ∧ bytes <+: upload.content

/-- None of these bytes lies beyond the place where a request appends. -/
def Law.AppendsAfter (law : Law) (bytes : Bytes) : Prop :=
  ∀ start ∈ law.offset, bytes.length ≤ start

theorem Store.Begins.of_keeps {id : String} {bytes : Bytes}
    {before after : Store} (begins : before.Begins id bytes)
    (keeps : before.Keeps id after) : after.Begins id bytes := by
  rcases begins with ⟨upload, found, begins⟩
  rcases keeps upload found with ⟨expiry, found⟩
  exact ⟨_, found, begins⟩

/-! ## Positions -/

/--
Whether bytes are on trial, given the append with which a request goes on.
-/
def Stage.isTrial (underWay? : Option Appending) : Stage → Bool
  | .begun => true
  | .matched => underWay?.isSome
  | .unsure | .found | .settled => false

/-- Bytes of an upload are on trial for who is in this position. -/
def Standing.Tries (law : Law) (underWay? : Option Appending) (id : String) :
    Standing → Prop
  | .holding other _ stage =>
      other = id ∧ law.pledged = true ∧ stage.isTrial underWay? = true
  | .before _ | .refused | .parted => False

/-- What is appended alters the upload. -/
theorem Action.alters_of_appended {action : Action} {id : String}
    {reply : action.Reply} {count : Except Failure Nat}
    (comes : action.upshot reply = .appended id count) :
    action.alters id = true := by
  cases action with
  | append other route =>
      cases comes
      exact beq_self_eq_true id
  | goOn begun =>
      cases begun with
      | beginning turn route | appending turn appending =>
          cases comes
          exact beq_self_eq_true turn.id
      | _ => cases comes
  | _ => cases comes

theorem Action.exists_appended_of_underWay {action : Action}
    {appending : Appending} (underWay : action.underWay? = some appending) :
    ∃ id, ∀ reply, ∃ count, action.upshot reply = .appended id count := by
  cases action with
  | goOn begun =>
      cases begun with
      | appending turn other => exact ⟨turn.id, fun reply => ⟨reply, rfl⟩⟩
      | _ => cases underWay
  | _ => cases underWay

/-- Whether a call ends what a request has to do with what it has appended. -/
def Call.settles : Call → Bool
  | .verify _ _ _ | .delete _ => true
  | _ => false

namespace Law

variable {law : Law} {standing after : Standing} {id : String}
  {underWay? : Option Appending}

theorem settled_of_stage? {asked : Call} {reply : Except Failure asked.Reply}
    {stage next : Stage}
    (leads : law.stage? id stage (.called asked reply) = some next)
    (settles : asked.settles = true) : next = .settled := by
  cases asked with
  | verify other algorithm hash => exact (stage?_verify leads).2.2.2
  | delete other => exact (stage?_delete leads).2.2
  | _ => cases settles

/-- Other calls change nothing about what waits to be verified. -/
theorem begun_iff_of_stage? {asked : Call}
    {reply : Except Failure asked.Reply} {stage next : Stage}
    (leads : law.stage? id stage (.called asked reply) = some next)
    (pending : asked.settles = false) : next = .begun ↔ stage = .begun := by
  cases asked with
  | verify | delete => cases pending
  | removeExpired => cases leads
  | setLength other length =>
      rcases stage?_setLength leads with ⟨-, rfl, rfl⟩
      rfl
  | has other =>
      rcases reply with failure | (_ | _) <;> cases leads
      · rfl
      · rfl
      · split
        · rename_i here
          rw [here.2]
          decide
        · rfl
  | offset other =>
      rcases reply with failure | offset <;> cases leads
      · rfl
      · split
        · rename_i here
          rw [here.2.1]
          decide
        · rfl
  | _ =>
      cases leads
      rfl

/-- Nobody gets bytes on trial who does not append. -/
theorem tries_of_rules {action : Action} {reply : action.Reply}
    (follows : law.rules standing (action.upshot reply) = some after)
    (spared : action.alters id = false) (tries : after.Tries law none id) :
    standing.Tries law underWay? id := by
  cases after with
  | before _ | refused | parted => cases tries
  | holding other lease stage =>
      obtain ⟨rfl, pledged, trial⟩ := tries
      have begun : stage = .begun := by
        cases stage <;> first | rfl | cases trial
      subst begun
      have unwritten (count : Except Failure Nat) :
          action.upshot reply ≠ .appended other count := fun comes => by
        rw [action.alters_of_appended comes] at spared
        cases spared
      generalize action.upshot reply = upshot at follows unwritten
      cases standing with
      | refused | parted => cases follows
      | before authorized =>
          cases upshot with
          | acquired id reply =>
              rcases reply with failure | (_ | granted) <;>
                cases authorized <;> cases follows
          | called asked reply =>
              cases authorized <;> simp only [rules] at follows <;>
                split at follows <;> cases follows
          | told event verdict =>
              cases event <;> cases authorized <;> cases follows
          | _ => cases authorized <;> cases follows
      | holding id held stage =>
          have before {next : Stage} (still : next = .begun ↔ stage = .begun)
              (same : Standing.holding id held next
                = .holding other lease .begun) :
              (Standing.holding id held stage).Tries law underWay? other := by
            cases same
            obtain rfl := still.1 rfl
            exact ⟨rfl, pledged, rfl⟩
          cases upshot with
          | released given =>
              simp only [rules] at follows
              split at follows <;> cases follows
          | acquired third reply => cases follows
          | heard | looked | told =>
              exact before Iff.rfl (Option.some.inj follows)
          | appended third count =>
              rcases Option.map_eq_some_iff.1 follows with ⟨next, leads, same⟩
              rcases stage?_appended leads with ⟨rfl, -, -⟩
              cases same
              exact absurd rfl (unwritten count)
          | called asked reply =>
              rcases Option.map_eq_some_iff.1 follows with ⟨next, leads, same⟩
              cases settles : asked.settles with
              | true =>
                  rw [settled_of_stage? leads settles] at same
                  cases same
              | false => exact before (begun_iff_of_stage? leads settles) same

end Law

/-! ## Actions -/

/--
What came of an action leaves an upload with the bytes that it began with, and
none of them is on trial.
-/
def Performed.Leaves {reply : Type} (law : Law) (standing : Standing)
    (id : String) (bytes : Bytes) (upshot : reply → Upshot) :
    Performed reply → Prop
  | .answered answer _ after => after.store.Begins id bytes ∧
      ∀ next, law.rules standing (upshot answer) = some next →
        next.Tries law none id → law.AppendsAfter bytes
  | .waiting instead _ _ after => after.store.Begins id bytes ∧
      (standing.Tries law instead.underWay? id → law.AppendsAfter bytes)
  | .collapsed _ after => after.store.Begins id bytes

section Performing

variable {law : Law} {standing : Standing} {server : Server} {client : Client}
  {id : String} {bytes : Bytes} {lease : Lease} {stage : Stage}

/-- An append leaves what was there before it began. -/
theorem Performed.Writes.leaves {performed : Performed (Except Failure Nat)}
    {start : Nat} {before : Bytes} (writes : performed.Writes id start before)
    (known : law.offset = some start) (begins : bytes <+: before)
    (within : law.pledged = true → bytes.length ≤ start) :
    performed.Leaves law (.holding id lease .matched) id bytes
      (.appended id) := by
  have spared (pledged : law.pledged = true) : law.AppendsAfter bytes := by
    rw [Law.AppendsAfter, known]
    rintro _ ⟨⟩
    exact within pledged
  cases performed with
  | answered answer client after =>
      rcases writes with ⟨upload, found, added, -⟩
      refine ⟨⟨upload, found, begins.trans added⟩, fun next follows tries => ?_⟩
      rcases Option.map_eq_some_iff.1 follows with ⟨further, -, rfl⟩
      exact spared tries.2.1
  | waiting instead same client after =>
      rcases writes with ⟨upload, found, added, -⟩
      exact ⟨⟨upload, found, begins.trans added⟩, fun tries => spared tries.2.1⟩
  | collapsed client after =>
      rcases writes with ⟨upload, found, added⟩
      exact ⟨upload, found, begins.trans added⟩

theorem Upload.prefix_endChunk {upload : Upload} {start : Nat}
    (begins : bytes <+: upload.content) (within : bytes.length ≤ start)
    (agrees : Bool) : bytes <+: (upload.endChunk start agrees).content := by
  rw [endChunk]
  split
  · exact begins
  · exact List.prefix_take_iff.2 ⟨begins, within⟩

/-- Bytes before the place where the last append began outlive it. -/
theorem Store.Begins.verify {store : Store} {start : Nat} {upload : Upload}
    (found : store.find? id = some upload) (underWay : upload.IsUnderWay start)
    (begins : bytes <+: upload.content) (within : bytes.length ≤ start)
    (algorithm : String) (hash : Bytes) :
    (store.verify id algorithm hash).2.Begins id bytes := by
  have kept (agrees : Bool) :
      (store.modify id (Upload.endChunk start agrees)).Begins id bytes := by
    refine ⟨upload.endChunk start agrees, ?_,
      Upload.prefix_endChunk begins within agrees⟩
    rw [Store.find?_modify_self, found]
    rfl
  rw [Store.verify, found]
  simp only [underWay.begun, Option.getD_some]
  exact kept _

/-- A length that is declared changes no content. -/
theorem Store.Begins.setLength {store : Store}
    (begins : store.Begins id bytes) (length : Nat) :
    (store.setLength id length).2.Begins id bytes := by
  rcases begins with ⟨upload, found, here⟩
  rcases Store.find?_setLength found length with ⟨known, found⟩
  exact ⟨_, found, here⟩

/-- What the store answers to the holder of a lease. -/
theorem Performed.Leaves.of_answersAs {asked : Call}
    {performed : Performed (Except Failure asked.Reply)}
    (comes : performed.ComesTo (.called asked))
    (answers : performed.AnswersAs asked server)
    (begins : server.store.Begins id bytes)
    (spared : standing.Tries law none id → law.AppendsAfter bytes)
    (answered : (server.store.answer server.clock asked).2.Begins id bytes)
    (settled : ∀ answer next,
      law.rules standing (.called asked answer) = some next →
      ¬next.Tries law none id) :
    performed.Leaves law standing id bytes (.called asked) := by
  cases performed with
  | answered answer client after =>
      have left : after.store = (server.store.answer server.clock asked).2 :=
        answers.2
      refine ⟨left.symm ▸ answered, fun next follows tries => ?_⟩
      exact absurd tries (settled answer next follows)
  | waiting instead same client after =>
      have none : instead.underWay? = none :=
        Action.underWay?_eq_none fun answer id count contrary => by
          rw [comes.2 answer] at contrary
          cases contrary
      have left : after.store = server.store := answers
      refine ⟨left.symm ▸ begins, ?_⟩
      rw [none]
      exact spared
  | collapsed client after =>
      have left : after.store = server.store := answers
      change after.store.Begins id bytes
      rw [left]
      exact begins

/-- A call that alters the upload leaves what is not on trial. -/
theorem Performed.leaves_of_call {asked : Call}
    {performed : Performed (Except Failure asked.Reply)}
    (comes : performed.ComesTo (.called asked))
    (answers : (∀ other, asked.record? = some other →
      server.store.has other = true) → performed.AnswersAs asked server)
    (alters : asked.alters id = true) (lasting : law.deletes = false)
    (fits : stage.Fits law id server.store none)
    (begins : server.store.Begins id bytes)
    (spared : (Standing.holding id lease stage).Tries law none id →
      law.AppendsAfter bytes)
    (permitted : ∀ answer, ∃ next,
      law.rules (.holding id lease stage) (.called asked answer)
        = some next) :
    performed.Leaves law (.holding id lease stage) id bytes
      (.called asked) := by
  rcases begins with ⟨upload, found, here⟩
  have present (other : String) (own : asked.record? = some other) :
      server.store.has other = true := by
    cases asked with
    | setLength given | verify given =>
        cases own
        rw [beq_iff_eq.1 alters]
        exact Store.has_of_find? found
    | delete | removeExpired => cases own
    | _ => cases alters
  have answers := answers present
  cases asked with
  | setLength other length =>
      refine .of_answersAs comes answers ⟨upload, found, here⟩ spared ?_ ?_
      · obtain rfl : other = id := beq_iff_eq.1 alters
        exact Store.Begins.setLength ⟨upload, found, here⟩ length
      · rintro answer next follows tries
        rcases Option.map_eq_some_iff.1 follows with ⟨further, leads, rfl⟩
        rcases Law.stage?_setLength leads with ⟨-, -, rfl⟩
        cases tries.2.2
  | verify other algorithm hash =>
      rcases permitted (.ok true) with ⟨next, follows⟩
      rcases Option.map_eq_some_iff.1 follows with ⟨further, leads, -⟩
      rcases Law.stage?_verify leads with ⟨rfl, rfl, pledged, -⟩
      rcases fits with ⟨again, start, found', known, underWay⟩
      cases found.symm.trans found'
      refine .of_answersAs comes answers ⟨upload, found, here⟩ spared ?_ ?_
      · exact Store.Begins.verify found underWay here
          (spared ⟨rfl, pledged, rfl⟩ start known) algorithm hash
      · rintro answer next follows tries
        rcases Option.map_eq_some_iff.1 follows with ⟨further, leads, rfl⟩
        rcases Law.stage?_verify leads with ⟨-, -, -, rfl⟩
        cases tries.2.2
  | delete other =>
      rcases permitted (.ok ()) with ⟨next, follows⟩
      rcases Option.map_eq_some_iff.1 follows with ⟨further, leads, -⟩
      have contrary := (Law.stage?_delete leads).2.1
      rw [lasting] at contrary
      cases contrary
  | removeExpired =>
      rcases permitted (.ok 0) with ⟨next, follows⟩
      cases follows
  | _ => cases alters

/-- What does not alter the upload puts nothing of it on trial. -/
theorem Performed.leaves_of_keeps {action : Action}
    {performed : Performed action.Reply}
    (keeps : server.store.Keeps id performed.server.store)
    (comes : performed.ComesTo action.upshot)
    (spared : action.alters id = false)
    (permitted : ∀ reply, ∃ after,
      law.rules standing (action.upshot reply) = some after)
    (begins : server.store.Begins id bytes)
    (free : standing.Tries law action.underWay? id →
      law.AppendsAfter bytes) :
    performed.Leaves law standing id bytes action.upshot := by
  have kept := begins.of_keeps keeps
  cases performed with
  | answered answer client after =>
      exact ⟨kept, fun next follows tries =>
        free (Law.tries_of_rules follows spared tries)⟩
  | waiting instead same client after =>
      refine ⟨kept, fun tries => free ?_⟩
      cases standing with
      | before _ | refused | parted => cases tries
      | holding other lease stage =>
          obtain ⟨rfl, pledged, trial⟩ := tries
          refine ⟨rfl, pledged, ?_⟩
          cases stage with
          | begun => rfl
          | unsure | found | settled => cases trial
          | matched =>
              -- Who goes on with an append to the upload has begun with one.
              rcases Option.isSome_iff_exists.1 trial with ⟨appending, going⟩
              rcases Action.exists_appended_of_underWay going with
                ⟨third, appends⟩
              obtain ⟨reply⟩ := instead.nonempty_reply
              rcases appends reply with ⟨count, appended⟩
              rw [comes.2 reply] at appended
              rcases permitted (same reply) with ⟨next, follows⟩
              rw [appended] at follows
              rcases Option.map_eq_some_iff.1 follows with ⟨further, leads, -⟩
              rcases Law.stage?_appended leads with ⟨rfl, -, -⟩
              rw [action.alters_of_appended appended] at spared
              cases spared
  | collapsed client after => exact kept

/-- An action that alters no upload keeps them all. -/
theorem Server.perform_keeps (faultless : server.IsFaultless) (client : Client)
    {action : Action} (spared : action.alters id = false) :
    server.store.Keeps id (server.perform client action).server.store := by
  cases other : action.isLeasing with
  | false =>
      exact (perform_spares faultless client other).server.records id spared
  | true =>
      cases action with
      | acquire other =>
          rw [perform, askLease, faultless.nextFault]
          exact .refl id server.store
      | release lease =>
          change server.store.Keeps id (server.giveBack lease).store
          rw [giveBack_of_faultless faultless]
          exact .refl id server.store
      | _ => cases other

/--
What a request does within its law leaves an upload with the bytes that it began
with, if none of them is on trial.
-/
theorem Server.perform_leaves (faultless : server.IsFaultless)
    {action : Action} (sound : action.IsSound)
    (fits : standing.Fits law action.underWay? client server)
    (lasting : law.deletes = false)
    (permitted : ∀ reply, ∃ after,
      law.rules standing (action.upshot reply) = some after)
    (begins : server.store.Begins id bytes)
    (free : standing.Tries law action.underWay? id →
      law.AppendsAfter bytes) :
    (server.perform client action).Leaves law standing id bytes
      action.upshot := by
  have comes := server.perform_comesTo client sound
  cases alters : action.alters id with
  | false =>
      exact Performed.leaves_of_keeps (perform_keeps faultless client alters)
        comes alters permitted begins free
  | true =>
      obtain ⟨some_reply⟩ := action.nonempty_reply
      rcases permitted some_reply with ⟨somewhere, follows⟩
      rcases holds_of_alters alters follows with ⟨lease, stage, rfl⟩
      obtain ⟨-, -, -, fits⟩ := fits
      -- To append is to be where the end of the upload has been found.
      have writes {other : String}
          (appends : ∀ reply, ∃ count, action.upshot reply
            = .appended other count) : other = id ∧ stage = .matched := by
        rcases appends some_reply with ⟨count, appended⟩
        rw [appended] at follows
        rcases Option.map_eq_some_iff.1 follows with ⟨further, leads, -⟩
        rcases Law.stage?_appended leads with ⟨same, here, -⟩
        exact ⟨same, here⟩
      cases action with
      | append other route =>
          rcases writes fun reply => ⟨reply, rfl⟩ with ⟨rfl, rfl⟩
          rcases fits with ⟨upload, found, known⟩
          rcases begins with ⟨_, again, begins⟩
          cases found.symm.trans again
          exact (append_writes faultless client found route).leaves known begins
            fun _ => begins.length_le
      | call asked =>
          refine Performed.leaves_of_call comes (fun _ => ?_) alters lasting
            fits begins free permitted
          refine callStore_answersAs faultless client ?_
          cases asked <;> first | rfl | cases alters
      | goOn begun =>
          cases begun with
          | calling turn asked =>
              refine Performed.leaves_of_call comes (fun present => ?_) alters
                lasting fits begins free permitted
              refine goOn_calling_answersAs server client ?_ fun other own => ?_
              · cases asked <;> first | rfl | cases alters
              · rw [sound other own]
                exact present other own
          | beginning turn route =>
              rcases writes fun reply => ⟨reply, rfl⟩ with ⟨rfl, rfl⟩
              rcases fits with ⟨upload, found, known⟩
              rcases begins with ⟨_, again, begins⟩
              cases found.symm.trans again
              exact (goOn_beginning_writes client found route).leaves known
                begins fun _ => begins.length_le
          | appending turn appending =>
              rcases writes fun reply => ⟨reply, rfl⟩ with ⟨rfl, rfl⟩
              rcases fits with ⟨upload, found, start, known, underWay, same⟩
              rcases begins with ⟨_, again, begins⟩
              cases found.symm.trans again
              exact (goOn_appending_writes client found underWay same).leaves
                known begins fun pledged => free ⟨rfl, pledged, rfl⟩ start known
          | joining | reading => cases alters
      | acquire | release | trailers | clock | tell => cases alters

end Performing

/-! ## Requests -/

/-- Whether what was appended waits to be verified after an upshot. -/
def Upshot.onTrial (before : Bool) : Upshot → Bool
  | .appended _ (.ok _) => true
  | .appended _ (.error _) | .called (.verify _ _ _) _ | .released _ => false
  | _ => before

/--
Whether bytes of an upload are on trial for a request: it has promised a
checksum where checksums are verified, it has a lease on the upload, it has
begun to append, and it has not verified yet.
-/
def Passage.tries (service : Service) (id : String) (passage : Passage) :
    Bool :=
  service.terms.supports .checksum &&
    passage.request.headers.promiseChecksum &&
    passage.lease?.any (·.id == id) &&
    (passage.past.foldl Upshot.onTrial false ||
      (passage.next?.bind Action.underWay?).isSome)

/-- The body is appended, and is not verified. -/
def Standing.isBegun : Standing → Bool
  | .holding _ _ .begun => true
  | _ => false

theorem Standing.isBegun_iff {id : String} {lease : Lease} {stage : Stage} :
    (holding id lease stage).isBegun = true ↔ stage = .begun := by
  cases stage <;> simp [isBegun]

/-- The upshots of a request tell whether it has begun to append. -/
theorem Law.onTrial_of_rules {law : Law} (lasting : law.deletes = false)
    {standing after : Standing} {upshot : Upshot}
    (follows : law.rules standing upshot = some after) :
    upshot.onTrial standing.isBegun = after.isBegun := by
  cases standing with
  | refused | parted => cases follows
  | before authorized =>
      cases upshot with
      | acquired id reply =>
          rcases reply with failure | (_ | lease) <;> cases authorized <;>
            cases follows <;> rfl
      | called asked reply =>
          cases authorized <;> simp only [rules] at follows <;>
            split at follows <;> cases follows <;> cases asked <;> rfl
      | told event verdict =>
          cases event <;> cases authorized <;> cases follows <;> rfl
      | heard trailers? | looked now =>
          cases authorized <;> cases follows <;> rfl
      | released lease | appended id reply =>
          cases authorized <;> cases follows
  | holding id lease stage =>
      cases upshot with
      | acquired other reply => cases follows
      | released other =>
          simp only [rules] at follows
          split at follows <;> cases follows
          rfl
      | heard trailers? | looked now | told event verdict =>
          cases follows
          rfl
      | appended other reply =>
          rcases Option.map_eq_some_iff.1 follows with ⟨next, leads, rfl⟩
          rcases stage?_appended leads with ⟨-, -, rfl⟩
          cases reply <;> rfl
      | called asked reply =>
          rcases Option.map_eq_some_iff.1 follows with ⟨next, leads, rfl⟩
          have still (pending : asked.settles = false) :
              (Standing.holding id lease stage).isBegun
                = (Standing.holding id lease next).isBegun := by
            have same := begun_iff_of_stage? leads pending
            rw [Bool.eq_iff_iff, Standing.isBegun_iff, Standing.isBegun_iff]
            exact same.symm
          cases asked with
          | verify other algorithm hash =>
              rcases stage?_verify leads with ⟨-, -, -, rfl⟩
              rfl
          | delete other =>
              have contrary := (stage?_delete leads).2.1
              rw [lasting] at contrary
              cases contrary
          | _ => exact still rfl

theorem Standing.Fits.tries_iff {law : Law} {standing : Standing}
    {underWay? : Option Appending} {client : Client} {server : Server}
    {id : String} (fits : standing.Fits law underWay? client server)
    (going : underWay?.isSome = true → ∀ other lease stage,
      standing = .holding other lease stage → stage = .matched) :
    (law.pledged && client.lease.any (·.id == id) &&
        (standing.isBegun || underWay?.isSome)) = true ↔
      standing.Tries law underWay? id := by
  cases standing with
  | before _ | refused | parted =>
      rw [show client.lease = none from fits]
      simp [Tries]
  | holding other lease stage =>
      obtain ⟨hand, rfl, -⟩ := fits
      rw [hand, Tries, Option.any_some, Bool.and_eq_true, Bool.and_eq_true,
        beq_iff_eq, and_assoc, and_left_comm]
      have same : ((holding lease.id lease stage).isBegun
          || underWay?.isSome) = stage.isTrial underWay? := by
        cases underWay? with
        | none => cases stage <;> rfl
        | some appending =>
            rw [going rfl lease.id lease stage rfl]
            rfl
      rw [same]

namespace Passage

variable {server : Server} {passage : Passage} {standing : Standing}
  {id : String}

/-- Bytes of an upload are on trial for a request in its position. -/
def Tries (law : Law) (id : String) (passage : Passage) (standing : Standing) :
    Prop :=
  match passage.halt with
  | .waiting (.act action _) => standing.Tries law action.underWay? id
  | .waiting (.done _) | .finished _ => standing.Tries law none id
  | .collapsed => False

/-- Whether bytes are on trial can be told from the upshots. -/
theorem Stands.tries_iff (stands : passage.Stands server standing)
    (lasting : (passage.law server.service).deletes = false) :
    passage.tries server.service id = true ↔
      passage.Tries (passage.law server.service) id standing := by
  have told : passage.past.foldl Upshot.onTrial false = standing.isBegun :=
    Rules.foldl_of_after (Law.onTrial_of_rules lasting) stands.follows.past
  have fits := stands.fits
  have goesOn := stands.follows.goesOn
  unfold Fits at fits
  unfold Passage.tries Tries
  rw [stands.lease?, told]
  cases halt : passage.halt with
  | collapsed =>
      simp only [halt] at fits
      simp [fits]
  | finished value =>
      simp only [halt, next?] at fits ⊢
      exact fits.tries_iff nofun
  | waiting program =>
      cases program with
      | done value =>
          simp only [halt, next?] at fits ⊢
          exact fits.tries_iff nofun
      | act action next =>
          simp only [halt, next?, Option.bind_some] at fits ⊢
          refine fits.tries_iff fun going other lease stage here => ?_
          subst here
          rw [halt] at goesOn
          rcases Option.isSome_iff_exists.1 going with ⟨appending, going⟩
          rcases Action.exists_appended_of_underWay going with ⟨third, appends⟩
          obtain ⟨reply⟩ := action.nonempty_reply
          rcases appends reply with ⟨count, appended⟩
          rcases goesOn.2 reply with ⟨after, follows, -⟩
          rw [appended] at follows
          rcases Option.map_eq_some_iff.1 follows with ⟨further, leads, -⟩
          exact (Law.stage?_appended leads).2.1

theorem Tries.of_obeys {law : Law}
    {program : Program (Except Failure Answer)}
    (obeys : program.Obeys law.rules law.ends standing)
    (halt : passage.halt = .waiting program)
    (tries : passage.Tries law id standing) : standing.Tries law none id := by
  rw [Tries.eq_def, halt] at tries
  cases obeys with
  | done here => exact tries
  | act fresh _ _ _ =>
      simp only [Action.underWay?_of_isFresh fresh] at tries
      exact tries

theorem tries_of_collapsed (service : Service)
    (collapsed : passage.halt = .collapsed) :
    passage.tries service id = false := by
  simp [tries, lease?, collapsed]

/--
What a request does leaves an upload with the bytes that it began with, if none
of them is on trial.
-/
theorem Stands.act_leaves (stands : passage.Stands server standing)
    (faultless : server.IsFaultless)
    (lasting : (passage.law server.service).deletes = false) {bytes : Bytes}
    (begins : server.store.Begins id bytes)
    (free : passage.tries server.service id = true →
      (passage.law server.service).AppendsAfter bytes) :
    (passage.act server).2.store.Begins id bytes ∧
      ((passage.act server).1.tries (passage.act server).2.service id = true →
        (passage.law server.service).AppendsAfter bytes) := by
  have acts := passage.acts server
  generalize (passage.act server).1 = after, (passage.act server).2 = later
    at acts ⊢
  -- What is performed leaves the bytes alone, and puts none of them on trial.
  have leaves {action : Action}
      {next : action.Reply → Program (Except Failure Answer)}
      (halt : passage.halt = .waiting (.act action next)) :
      (server.perform passage.client action).Leaves
        (passage.law server.service) standing id bytes action.upshot := by
    have fits := stands.fits
    have goesOn := stands.follows.goesOn
    rw [Fits.eq_def, halt] at fits
    rw [halt] at goesOn
    refine server.perform_leaves faultless goesOn.1 fits lasting
      (fun reply => (goesOn.2 reply).imp fun _ here => here.1) begins ?_
    intro tries
    refine free ((stands.tries_iff lasting).2 ?_)
    rw [Tries.eq_def, halt]
    exact tries
  cases acts with
  | still ended => exact ⟨begins, free⟩
  | finished halt =>
      refine ⟨begins, fun tries => free ?_⟩
      simp only [Passage.tries, Passage.lease?, next?, halt] at tries ⊢
      exact tries
  | @answered action next reply client later halt performed =>
      have left := leaves halt
      rw [performed] at left
      rcases stands.answered faultless halt performed with
        ⟨further, leads, obeys, stands, same⟩
      refine ⟨left.1, fun tries => left.2 further leads ?_⟩
      have tries := (stands.tries_iff (same.symm ▸ lasting)).1 tries
      rw [same] at tries
      exact tries.of_obeys obeys rfl
  | @waiting action instead next same client later halt performed =>
      have left := leaves halt
      rw [performed] at left
      rcases stands.waited faultless halt performed with ⟨stands, same⟩
      refine ⟨left.1, fun tries => left.2 ?_⟩
      have tries := (stands.tries_iff (same.symm ▸ lasting)).1 tries
      rw [same] at tries
      exact tries
  | @collapsed action next client later halt performed =>
      have left := leaves halt
      rw [performed] at left
      refine ⟨?_, fun tries => ?_⟩
      · rcases stands.performs faultless halt with ⟨-, yields, -⟩
        rw [performed] at yields
        have still : later.IsFaultless := yields.isFaultless faultless
        rw [Server.store_dropLease still]
        exact left
      · rw [tries_of_collapsed _ rfl] at tries
        cases tries

theorem store_leave (faultless : server.IsFaultless) (passage : Passage) :
    (passage.leave server).2.store = server.store := by
  rw [leave]
  split
  · rename_i program halt
    have still : (server.leave program.turn?).IsFaultless := by
      cases program.turn? <;> exact faultless
    exact (Server.store_dropLease still _).trans (Server.store_leave server _)
  · rfl
  · rfl

/-- Whatever moves a request leaves what is not on trial. -/
theorem Stands.change_leaves (stands : passage.Stands server standing)
    (faultless : server.IsFaultless)
    (lasting : (passage.law server.service).deletes = false) {bytes : Bytes}
    (begins : server.store.Begins id bytes)
    (free : passage.tries server.service id = true →
      (passage.law server.service).AppendsAfter bytes) (move : Move) :
    (move.change passage server).2.store.Begins id bytes ∧
      ((move.change passage server).1.tries
          (move.change passage server).2.service id = true →
        (passage.law server.service).AppendsAfter bytes) := by
  cases move with
  | act key => exact stands.act_leaves faultless lasting begins free
  | hear key news => exact ⟨begins, free⟩
  | leave key =>
      refine ⟨?_, fun tries => ?_⟩
      · change (passage.leave server).2.store.Begins id bytes
        rw [store_leave faultless]
        exact begins
      · change (passage.leave server).1.tries
          (passage.leave server).2.service id = true at tries
        rw [leave] at tries
        split at tries
        · rw [tries_of_collapsed _ rfl] at tries
          cases tries
        · exact free tries
        · exact free tries
  | arrive request client | elapse milliseconds => exact ⟨begins, free⟩

end Passage

/-- Whether a move brings nobody who is to delete uploads. -/
def Move.isLasting (service : Service) : Move → Bool
  | .arrive request _ => !(Law.ofRequest service request).deletes
  | .act _ | .hear _ _ | .leave _ | .elapse _ => true

namespace Traffic

/-- Some of these bytes of an upload are on trial. -/
def IsOnTrial (traffic : Traffic) (id : String) (bytes : Bytes) : Prop :=
  ∃ (key : Nat) (passage : Passage) (start : Nat),
    traffic.passages[key]? = some passage ∧
    passage.tries traffic.server.service id = true ∧
    (passage.law traffic.server.service).offset = some start ∧
    start < bytes.length

/-- An upload begins with these bytes, and none of them is on trial. -/
structure Secures (traffic : Traffic) (id : String) (bytes : Bytes) : Prop where
  begins : traffic.server.store.Begins id bytes
  free : ¬traffic.IsOnTrial id bytes

/-- Nobody is there to delete uploads. -/
def IsLasting (traffic : Traffic) : Prop :=
  ∀ (key : Nat) (passage : Passage), traffic.passages[key]? = some passage →
    (passage.law traffic.server.service).deletes = false

variable {traffic : Traffic} {id : String} {bytes : Bytes}

theorem not_isOnTrial_iff :
    ¬traffic.IsOnTrial id bytes ↔
      ∀ (key : Nat) (passage : Passage), traffic.passages[key]? = some passage →
        passage.tries traffic.server.service id = true →
        (passage.law traffic.server.service).AppendsAfter bytes := by
  constructor
  · intro free key passage present tries start known
    apply Classical.byContradiction
    intro beyond
    exact free ⟨key, passage, start, present, tries, known, by omega⟩
  · rintro free ⟨key, passage, start, present, tries, known, beyond⟩
    have within := free key passage present tries start known
    omega

/-- The configuration stays what it was. -/
theorem IsOrderly.service_move (orderly : traffic.IsOrderly) (move : Move) :
    (traffic.move move).server.service = traffic.server.service := by
  cases own : move.key? with
  | some key =>
      rcases orderly.advances own with still | ⟨_, advances⟩
      · rw [still]
      · rw [advances.next]
        exact advances.proceeds.yields.service
  | none => cases move <;> first | rfl | cases own

theorem service_run {server : Server} (faultless : server.IsFaultless)
    (moves : List Move) : ((begin server).run moves).server.service
      = server.service := by
  have further {traffic : Traffic} (orderly : traffic.IsOrderly)
      (moves : List Move) :
      (traffic.run moves).server.service = traffic.server.service := by
    induction moves generalizing traffic with
    | nil => rfl
    | cons first later hypothesis =>
        exact (hypothesis (orderly.move first)).trans
          (orderly.service_move first)
  exact further (begin_isOrderly faultless) moves

theorem IsLasting.move (orderly : traffic.IsOrderly)
    (lasting : traffic.IsLasting) {move : Move}
    (spares : move.isLasting traffic.server.service = true) :
    (traffic.move move).IsLasting := by
  intro key passage present
  rw [orderly.service_move]
  cases own : move.key? with
  | some other =>
      rcases orderly.advances own with still | ⟨rival, advances⟩
      · rw [still] at present
        exact lasting key passage present
      · by_cases same : other = key
        · subst same
          rw [advances.getElem?_self] at present
          cases present
          rw [← advances.proceeds.yields.service, advances.proceeds.law]
          exact lasting other rival advances.present
        · rw [advances.getElem?_of_ne same] at present
          exact lasting key passage present
  | none =>
      cases move with
      | arrive request client =>
          rcases getElem?_arrive present with present | ⟨-, rfl⟩
          · exact lasting key passage present
          · exact Bool.not_eq_true' _ ▸ spares
      | elapse milliseconds => exact lasting key passage present
      | act | hear | leave => cases own

theorem IsLasting.run (orderly : traffic.IsOrderly)
    (lasting : traffic.IsLasting) {moves : List Move}
    (spares : ∀ move ∈ moves, move.isLasting traffic.server.service = true) :
    (traffic.run moves).IsLasting := by
  induction moves generalizing traffic with
  | nil => exact lasting
  | cons first later hypothesis =>
      refine hypothesis (orderly.move first)
        (lasting.move orderly (spares first List.mem_cons_self)) ?_
      intro move present
      rw [orderly.service_move]
      exact spares move (List.mem_cons_of_mem first present)

theorem run_isLasting {server : Server} (faultless : server.IsFaultless)
    {moves : List Move}
    (spares : ∀ move ∈ moves, move.isLasting server.service = true) :
    ((begin server).run moves).IsLasting := by
  have nobody : (begin server).IsLasting := fun key passage present => by
    simp [begin] at present
  exact nobody.run (begin_isOrderly faultless) spares

/-- Whatever happens next, an upload keeps the bytes that are not on trial. -/
theorem Secures.move (orderly : traffic.IsOrderly) (lasting : traffic.IsLasting)
    (secures : traffic.Secures id bytes) (move : Move) :
    (traffic.move move).Secures id bytes := by
  have free := not_isOnTrial_iff.1 secures.free
  cases own : move.key? with
  | some other =>
      rcases orderly.advances own with still | ⟨rival, advances⟩
      · rw [still]
        exact secures
      · rcases orderly.stands other rival advances.present with
          ⟨standing, stands⟩
        have left := stands.change_leaves orderly.faultless
          (lasting other rival advances.present) secures.begins
          (free other rival advances.present) move
        refine ⟨?_, not_isOnTrial_iff.2 fun key passage present tries => ?_⟩
        · rw [advances.next]
          exact left.1
        · by_cases same : other = key
          · subst same
            rw [advances.getElem?_self] at present
            cases present
            rw [advances.next] at tries ⊢
            rw [advances.proceeds.law]
            exact left.2 tries
          · rw [advances.getElem?_of_ne same] at present
            rw [orderly.service_move] at tries ⊢
            exact free key passage present tries
  | none =>
      cases move with
      | arrive request client =>
          refine ⟨secures.begins, not_isOnTrial_iff.2 ?_⟩
          intro key passage present tries
          rcases getElem?_arrive present with present | ⟨-, rfl⟩
          · exact free key passage present tries
          · simp [Passage.tries, Passage.begin, Passage.lease?] at tries
      | elapse milliseconds => exact ⟨secures.begins, secures.free⟩
      | act | hear | leave => cases own

/-- Bytes that are not on trial are never discarded. -/
theorem Secures.run (orderly : traffic.IsOrderly) (lasting : traffic.IsLasting)
    (secures : traffic.Secures id bytes) {moves : List Move}
    (spares : ∀ move ∈ moves, move.isLasting traffic.server.service = true) :
    (traffic.run moves).Secures id bytes := by
  induction moves generalizing traffic with
  | nil => exact secures
  | cons first later hypothesis =>
      refine hypothesis (orderly.move first)
        (lasting.move orderly (spares first List.mem_cons_self))
        (secures.move orderly lasting first) ?_
      intro move present
      rw [orderly.service_move]
      exact spares move (List.mem_cons_of_mem first present)

end Traffic

end ResumableUpload
