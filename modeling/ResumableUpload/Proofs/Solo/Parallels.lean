import ResumableUpload.Proofs.Solo.Likeness
import ResumableUpload.Proofs.Traffic.Obedience
/-!
# Requests that are handled alike

A handling looks at the fields of a request name by name, and most of the names
mean nothing to it.  If the fields of two requests differ in such a name only,
what is done for them is alike, step by step: both exchanges are the same all
the way but for the request to which they belong.

Two pairs of requests are looked at.  A creation does not care for the type of a
body: `Handling.parallel_of_creates`.  A write does not care for the method that
overrides its own: `Handling.write_parallel`.
-/

namespace ResumableUpload

/-! ## Fields -/

/-- All names but one have the same values. -/
def Headers.AgreeBut (name : String) (first second : Headers) : Prop :=
  ∀ other, other ≠ name → second.values other = first.values other

namespace Headers

theorem first?_eq_head? (headers : Headers) (name : String) :
    headers.first? name = (headers.values name).head? := by
  rw [first?, values, List.head?_map, List.head?_filter]

namespace AgreeBut

variable {name other : String} {first second : Headers}

theorem remove (name : String) (headers : Headers) :
    headers.AgreeBut name (headers.remove name) :=
  fun _ apart => values_remove apart

theorem symm (agree : first.AgreeBut name second) :
    second.AgreeBut name first :=
  fun other apart => (agree other apart).symm

theorem has (agree : first.AgreeBut name second) (apart : other ≠ name) :
    second.has other = first.has other := by
  rw [has_eq_values, has_eq_values, agree other apart]

theorem first? (agree : first.AgreeBut name second) (apart : other ≠ name) :
    second.first? other = first.first? other := by
  rw [first?_eq_head?, first?_eq_head?, agree other apart]

theorem text? (agree : first.AgreeBut name second) (apart : other ≠ name) :
    second.text? other = first.text? other := by
  rw [Headers.text?, Headers.text?, agree.first? apart]

end AgreeBut

end Headers

/-! ## Exchanges -/

/-- The exchange, as far as it stands, for another request. -/
def Exchange.under (exchange asked : Exchange) : Exchange :=
  { exchange with
    method := asked.method
    headers := asked.headers
    hasTrailers := asked.hasTrailers }

namespace Exchange

variable (exchange asked : Exchange)

theorem under_self : exchange.under exchange = exchange :=
  rfl

theorem under_headers : (exchange.under asked).headers = asked.headers := by
  rw [under]

theorem under_part : (exchange.under asked).part = exchange.part := by
  rw [under, part, part]

theorem under_fileId : (exchange.under asked).fileId = exchange.fileId := by
  rw [under, fileId, fileId]

end Exchange

/-- The same exchange for one request and for another. -/
inductive Exchange.Parallel (first second : Exchange) :
    Exchange → Exchange → Prop where
  | intro (exchange : Exchange) :
      Parallel first second (exchange.under first) (exchange.under second)

variable {first second exchange : Exchange} {service : Service}
  {allowed : Action → Prop}

namespace Requirement

/-! ## Requirements of a creation -/

theorem newLength_parallel
    (agree : first.headers.AgreeBut HeaderName.contentType second.headers)
    (service : Service) (exchange : Exchange) :
    SameResult (Exchange.Parallel first second)
      (newLength service (exchange.under first))
      (newLength service (exchange.under second)) := by
  simp only [newLength, Exchange.under_headers, Exchange.under_part]
  rw [agree.has (by decide), agree.has (by decide), agree.text? (by decide),
    agree.text? (by decide)]
  cases exchange.part.isJoined with
  | true => exact .ok (.intro exchange)
  | false =>
      cases first.headers.has HeaderName.uploadLength <;>
        cases first.headers.has HeaderName.uploadDeferLength
      · exact .error _
      · simp only [Bool.false_eq_true, if_false]
        split
        · exact .error _
        · split
          · exact .ok (.intro { exchange with declared := _ })
          · exact .error _
      · cases lengthOf (first.headers.text? HeaderName.uploadLength)
            service.config.maxSize with
        | error rejection => exact .error rejection
        | ok length => exact .ok (.intro { exchange with declared := _ })
      · exact .error _

theorem metadata_parallel
    (agree : first.headers.AgreeBut HeaderName.contentType second.headers)
    (service : Service) (exchange : Exchange) :
    SameResult (Exchange.Parallel first second)
      (metadata service (exchange.under first))
      (metadata service (exchange.under second)) := by
  simp only [metadata, Exchange.under_headers]
  rw [agree.has (by decide), agree.text? (by decide)]
  cases first.headers.has HeaderName.uploadMetadata with
  | false => exact .ok (.intro exchange)
  | true =>
      simp only [Bool.not_true, Bool.false_eq_true, if_false]
      split
      · exact .ok (.intro { exchange with declared := _ })
      · exact .error _

/-- What a new upload declares is found alike. -/
theorem declared_parallel
    (agree : first.headers.AgreeBut HeaderName.contentType second.headers)
    (service : Service) (exchange : Exchange) :
    (Check.ofExcept (do
      let exchange ← newLength service (exchange.under first)
      metadata service exchange)).Alike allowed
        (Exchange.Parallel first second)
        (Check.ofExcept (do
          let exchange ← newLength service (exchange.under second)
          metadata service exchange)) := by
  refine .ofExcept ?_
  have lengths := newLength_parallel agree service exchange
  generalize newLength service (exchange.under first) = one at lengths ⊢
  generalize newLength service (exchange.under second) = two at lengths ⊢
  cases lengths with
  | ok values =>
      rcases values with ⟨measured⟩
      exact metadata_parallel agree service measured
  | error rejection => exact .error rejection

theorem part_parallel
    (agree : first.headers.AgreeBut HeaderName.contentType second.headers)
    (inquires : ∀ action : Action, action.isInquiry = true → allowed action)
    (service : Service) (exchange : Exchange) :
    (part service (exchange.under first)).Alike allowed
      (Exchange.Parallel first second)
      (part service (exchange.under second)) := by
  simp only [part, Exchange.under_headers]
  rw [agree.text? (by decide)]
  split
  · exact .reject _
  · rename_i part _
    have same : partIsPossible service (exchange.under second) part
        = partIsPossible service (exchange.under first) part := by
      cases part with
      | joined ids =>
          simp only [partIsPossible, Exchange.under_headers]
          rw [agree.has (by decide)]
      | piece | whole => rfl
    rw [same]
    refine .bind (Check.Uses.alike (Attempt.Uses.mono
      (partIsPossible_inquires service (exchange.under first) part)
        inquires)) ?_
    rintro _ _ -
    exact .pure (.intro { exchange with declared := _ })

/-! ## Requirements of a write -/

theorem offset_parallel
    (agree : first.headers.AgreeBut HeaderName.methodOverride second.headers)
    (exchange : Exchange) :
    SameResult (Exchange.Parallel first second)
      (offset (exchange.under first)) (offset (exchange.under second)) := by
  simp only [offset, Exchange.under_headers]
  rw [agree.has (by decide), agree.text? (by decide)]
  cases first.headers.has HeaderName.uploadOffset with
  | false => exact .error _
  | true =>
      simp only [Bool.not_true, Bool.false_eq_true, if_false]
      split
      · exact .error _
      · split
        · exact .error _
        · exact .ok (.intro { exchange with declared := _ })

theorem alive_under (service : Service) (exchange asked : Exchange) :
    alive service (exchange.under asked) = alive service exchange := by
  rw [alive, alive, Exchange.under_fileId]
  split
  · refine congrArg (Check.attempt (service.call (.expiry exchange.fileId))
      >>= ·) (funext fun expiry => ?_)
    cases expiry <;> rfl
  · rfl

theorem incomplete_under (exchange asked : Exchange) :
    incomplete (exchange.under asked) = incomplete exchange := by
  rw [incomplete, incomplete, Exchange.under_fileId]
  refine congrArg (Check.call (.length exchange.fileId) >>= ·)
    (funext fun length => ?_)
  cases length <;> rfl

theorem checksum_parallel
    (agree : first.headers.AgreeBut HeaderName.methodOverride second.headers)
    (trailing : second.hasTrailers = first.hasTrailers)
    (service : Service) (exchange : Exchange) :
    (checksum service (exchange.under first)).Alike (fun _ => True)
      (Exchange.Parallel first second)
      (checksum service (exchange.under second)) := by
  have announced : announcesChecksum second.headers
      = announcesChecksum first.headers := by
    rw [announcesChecksum, announcesChecksum, agree _ (by decide)]
  have hopeless : (!(exchange.under second).hasTrailers
        || !service.terms.supports .checksumTrailer)
      = (!(exchange.under first).hasTrailers
        || !service.terms.supports .checksumTrailer) := by
    rw [Exchange.under, Exchange.under, trailing]
  simp only [checksum, Exchange.under_headers]
  rw [announced, agree.first? (by decide), hopeless]
  split
  · exact .pure (.intro exchange)
  · cases first.headers.first? HeaderName.uploadChecksum with
    | none =>
        cases announcesChecksum first.headers with
        | true =>
            simp only
            split
            · exact .reject _
            · exact .pure (.intro { exchange with pledge := _ })
        | false => exact .pure (.intro exchange)
    | some value =>
        cases announcesChecksum first.headers with
        | true => exact .reject _
        | false =>
            simp only
            split
            · exact .reject _
            · refine .bind (Check.Uses.alike
                (.attempt (.serviceCall service trivial))) ?_
              rintro supported _ rfl
              split
              · exact .pure (.intro { exchange with pledge := _ })
              · exact .reject _

theorem deferredLength_parallel
    (agree : first.headers.AgreeBut HeaderName.methodOverride second.headers)
    (service : Service) (exchange : Exchange) :
    (deferredLength service (exchange.under first)).Alike (fun _ => True)
      (Exchange.Parallel first second)
      (deferredLength service (exchange.under second)) := by
  simp only [deferredLength, Exchange.under_headers]
  rw [agree.has (by decide), agree.text? (by decide)]
  split
  · exact .pure (.intro exchange)
  · refine .bind (Check.Uses.alike (.ofExcept _)) ?_
    rintro length _ rfl
    split
    · exact .reject _
    · refine .bind (Check.Uses.alike (.call trivial)) ?_
      rintro known _ rfl
      split
      · exact .reject _
      · refine .bind (Check.Uses.alike (.call trivial)) ?_
        rintro offset _ rfl
        split
        · exact .reject _
        · exact .pure (.intro { exchange with declared := _ })

end Requirement

/-! ## Handlings -/

/-- What is done for two requests, and what its outcome is. -/
abbrev Exchange.ParallelOutcome (first second : Exchange)
    (one two : Exchange × Outcome) : Prop :=
  Exchange.Parallel first second one.1 two.1 ∧ two.2 = one.2

/-- A handling that does the same for two requests. -/
structure Handling.IsParallel (allowed : Action → Prop)
    (first second : Exchange) (handling : Handling) : Prop where
  checks : ∀ exchange : Exchange,
    (handling.check (exchange.under first)).Alike allowed
      (Exchange.Parallel first second)
      (handling.check (exchange.under second))
  before : ∀ exchange : Exchange,
    (handling.before (exchange.under second)).isSome
      = (handling.before (exchange.under first)).isSome
  works : ∀ exchange : Exchange,
    (handling.carryOut (exchange.under first)).Alike allowed
      (Exchange.ParallelOutcome first second)
      (handling.carryOut (exchange.under second))

namespace Handling

variable {intent : Intent} {handling : Handling}

theorem answerCreated_parallel (service : Service) (exchange : Exchange)
    (id : String) (expiry : Option Instant) :
    Exchange.Parallel first second
      (answerCreated service (exchange.under first) id expiry)
      (answerCreated service (exchange.under second) id expiry) := by
  cases expiry with
  | none => exact .intro (answerCreated service exchange id none)
  | some expiry =>
      exact .intro (answerCreated service exchange id (some expiry))

theorem renew_leavesClient (service : Service) (id : String) :
    (Lifetime.renew service id).Uses
      fun action => action.leavesClient = true := by
  rw [Lifetime.renew]
  split
  · exact .pure none
  · refine .bind (.now rfl) ?_
    intro now
    split
    · exact .fail _
    · exact .bind (.serviceCall service rfl) fun _ => .pure _

/-- A new upload is given an end of its life, and is answered for. -/
theorem newUpload_parallel {attempt : Attempt String}
    (leaves : attempt.Uses fun action => action.leavesClient = true)
    (service : Service) (exchange : Exchange)
    (outcome : String → Outcome) :
    Attempt.Alike (fun action => action.leavesClient = true)
      (Exchange.ParallelOutcome first second)
      (do
        let id ← attempt
        let expiry ← Lifetime.renew service id
        return (answerCreated service (exchange.under first) id expiry,
          outcome id))
      (do
        let id ← attempt
        let expiry ← Lifetime.renew service id
        return (answerCreated service (exchange.under second) id expiry,
          outcome id)) := by
  refine .bind leaves.alike ?_
  rintro id _ rfl
  refine .bind (Attempt.Uses.alike (renew_leavesClient service id)) ?_
  rintro expiry _ rfl
  exact .pure ⟨answerCreated_parallel service exchange id expiry, rfl⟩

theorem create_carryOut_parallel (service : Service) (exchange : Exchange) :
    ((create service).carryOut (exchange.under first)).Alike
      (fun action => action.leavesClient = true)
      (Exchange.ParallelOutcome first second)
      ((create service).carryOut (exchange.under second)) := by
  have leaves : (service.call (.create exchange.newLength
      exchange.declared.metadataText)).Uses
        fun action => action.leavesClient = true := .serviceCall service rfl
  exact newUpload_parallel leaves service exchange
    fun id => .created id exchange.newLength (exchange.newLength == some 0)

theorem createPiece_parallel (service : Service) (exchange : Exchange) :
    (createPiece service (exchange.under first)).Alike
      (fun action => action.leavesClient = true)
      (Exchange.ParallelOutcome first second)
      (createPiece service (exchange.under second)) := by
  have leaves : (service.call (.createPiece exchange.newLength
      exchange.declared.metadataText)).Uses
        fun action => action.leavesClient = true := .serviceCall service rfl
  exact newUpload_parallel leaves service exchange
    fun id => .created id exchange.newLength false

theorem createJoined_parallel (service : Service) (exchange : Exchange)
    (ids : List String) :
    (createJoined service (exchange.under first) ids).Alike
      (fun action => action.leavesClient = true)
      (Exchange.ParallelOutcome first second)
      (createJoined service (exchange.under second) ids) := by
  refine .bind (Attempt.Uses.alike (.serviceCall service rfl)) ?_
  rintro id _ rfl
  refine .bind (Attempt.Uses.alike (.call rfl)) ?_
  rintro length _ rfl
  exact .pure ⟨answerCreated_parallel service exchange id none, rfl⟩

/-- A creation does not care for the type of a body. -/
theorem parallel_of_creates (creates : intent.creates = true)
    (handled : ofIntent? service intent = some handling)
    (agree : first.headers.AgreeBut HeaderName.contentType second.headers) :
    handling.IsParallel (fun action => action.leavesClient = true) first
      second := by
  cases intent with
  | createFile =>
      cases handled
      exact ⟨Requirement.declared_parallel agree service, fun _ => rfl,
        create_carryOut_parallel service⟩
  | concatenate =>
      cases handled
      refine ⟨fun exchange => ?_, fun _ => rfl, fun exchange => ?_⟩
      · refine .bind (Requirement.part_parallel agree
          (fun _ => Action.leavesClient_of_isInquiry) service exchange) ?_
        rintro _ _ ⟨parted⟩
        exact Requirement.declared_parallel agree service parted
      · simp only [concatenate, Exchange.under_part]
        split
        · exact createJoined_parallel service exchange _
        · exact createPiece_parallel service exchange
        · exact createPiece_parallel service exchange
  | _ => cases creates

/-- All that is done to answer a write depends on its upload alone. -/
theorem answerWritten_parallel (service : Service) (exchange : Exchange) :
    (answerWritten service (exchange.under first)).Alike (fun _ => True)
      (Exchange.ParallelOutcome first second)
      (answerWritten service (exchange.under second)) := by
  refine .bind (Attempt.Uses.alike ((Lifetime.afterWrite_errands service
    exchange.fileId).mono fun _ _ => trivial)) ?_
  rintro expiry _ rfl
  refine .bind (Attempt.Uses.alike (.call trivial)) ?_
  rintro offset _ rfl
  refine .bind (Attempt.Uses.alike (.call trivial)) ?_
  rintro length _ rfl
  refine .pure ⟨?_, rfl⟩
  cases expiry with
  | none =>
      exact .intro ((exchange.answerStatus 204).answerField
        HeaderName.uploadOffset (toString offset))
  | some expiry =>
      exact .intro (((exchange.answerStatus 204).answerField
        HeaderName.uploadOffset (toString offset)).answerField
          HeaderName.uploadExpires expiry.headerText)

theorem write_carryOut_parallel (service : Service) (exchange : Exchange) :
    ((write service).carryOut (exchange.under first)).Alike (fun _ => True)
      (Exchange.ParallelOutcome first second)
      ((write service).carryOut (exchange.under second)) := by
  refine .bind (Attempt.Uses.alike ((fixLength_errands service
    (exchange.under first)).mono fun _ _ => trivial)) ?_
  rintro _ _ -
  refine .bind (Attempt.Uses.alike (.append trivial)) ?_
  rintro _ _ -
  refine .bind (Attempt.Uses.alike ((keepsPledge_errands service
    (exchange.under first)).mono fun _ _ => trivial)) ?_
  rintro keeps _ rfl
  split
  · exact answerWritten_parallel service exchange
  · exact .pure ⟨.intro (exchange.reject .checksumMismatch), rfl⟩

/-- A write does not care for the method that overrides its own. -/
theorem write_parallel
    (agree : first.headers.AgreeBut HeaderName.methodOverride second.headers)
    (trailing : second.hasTrailers = first.hasTrailers) (service : Service) :
    (write service).IsParallel (fun _ => True) first second := by
  refine ⟨fun exchange => ?_, fun _ => rfl, write_carryOut_parallel service⟩
  have typed : Requirement.contentType (exchange.under second)
      = Requirement.contentType (exchange.under first) := by
    rw [Requirement.contentType, Requirement.contentType,
      Exchange.under_headers, Exchange.under_headers, Headers.announceBody,
      Headers.announceBody, agree.text? (by decide)]
  -- What concerns the upload alone is the same for both requests.
  have own {β : Type} {check : Check β} (inquires : check.Inquires) :
      check.Alike (fun _ => True) Eq check :=
    Check.Uses.alike (Attempt.Uses.mono inquires fun _ _ => trivial)
  rw [write]
  simp only [typed]
  refine .bind (own (.ofExcept _)) ?_
  rintro _ _ -
  refine .bind (.ofExcept (Requirement.offset_parallel agree exchange)) ?_
  rintro _ _ ⟨located⟩
  refine .bind (Requirement.checksum_parallel agree trailing service located) ?_
  rintro _ _ ⟨pledged⟩
  refine .bind (own (Requirement.present_inquires (pledged.under first))) ?_
  rintro _ _ -
  rw [Requirement.alive_under, Requirement.alive_under]
  refine .bind (own (Requirement.alive_inquires service pledged)) ?_
  rintro _ _ -
  refine .bind (own (Requirement.notJoined_inquires service
    (pledged.under first))) ?_
  rintro _ _ -
  refine .bind (Requirement.deferredLength_parallel agree service pledged) ?_
  rintro _ _ ⟨measured⟩
  refine .bind (own (Requirement.offsetMatches_inquires
    (measured.under first))) ?_
  rintro _ _ -
  rw [Requirement.incomplete_under, Requirement.incomplete_under]
  refine .bind (own (Requirement.incomplete_inquires measured)) ?_
  rintro _ _ -
  exact .pure (.intro measured)

end Handling

namespace Protocol

variable {handling : Handling}

theorem tellOutcome_parallel (one two : Exchange) (outcome : Outcome) :
    (tellOutcome one outcome).Alike allowed
      (fun one two => one = .proceed ∧ two = .proceed)
      (tellOutcome two outcome) := by
  cases outcome with
  | created id length complete =>
      refine .bind (.tell _ _) ?_
      rintro _ _ ⟨rfl, rfl⟩
      cases complete with
      | true => exact .tell _ _
      | false => exact .pure ⟨rfl, rfl⟩
  | written id complete =>
      cases complete with
      | true => exact .tell _ _
      | false => exact .pure ⟨rfl, rfl⟩
  | deleted id => exact .tell _ _
  | settled => exact .pure ⟨rfl, rfl⟩

theorem tellBefore_parallel {one two : Option Event}
    (same : two.isSome = one.isSome) :
    (tellBefore one).Alike allowed
      (fun one two => one = .proceed ∧ two = .proceed) (tellBefore two) := by
  cases one with
  | none =>
      cases two with
      | none => exact .pure ⟨rfl, rfl⟩
      | some event => cases same
  | some event =>
      cases two with
      | none => cases same
      | some other => exact .tell event other

theorem execute_parallel (parallel : handling.IsParallel allowed first second)
    (exchange : Exchange) :
    (execute handling (exchange.under first)).Alike allowed
      (Exchange.Parallel first second)
      (execute handling (exchange.under second)) := by
  refine .bind (parallel.checks exchange) ?_
  rintro _ _ (⟨⟨checked⟩⟩ | rejection)
  · refine .bind (tellBefore_parallel (parallel.before checked)) ?_
    rintro _ _ ⟨rfl, rfl⟩
    refine .bind (parallel.works checked) ?_
    rintro ⟨_, outcome⟩ ⟨_, _⟩ ⟨⟨done⟩, same⟩
    cases same
    refine .bind (tellOutcome_parallel _ _ outcome) ?_
    rintro _ _ ⟨rfl, rfl⟩
    exact .pure (.intro done)
  · exact .pure (.intro (exchange.reject rejection))

theorem settle_parallel (exchange : Exchange)
    {one two : Except Failure Exchange}
    (results : SameResult (Exchange.Parallel first second) one two) :
    SameResult (Exchange.Parallel first second)
      (settle (exchange.under first) one)
      (settle (exchange.under second) two) := by
  cases results with
  | ok values => exact .ok values
  | error failure =>
      cases failure with
      | refused cause =>
          exact .ok (.intro (exchange.answerMessage 400 cause.message))
      | missing id => exact .ok (.intro (exchange.reject .notFound))
      | _ => exact .error _

theorem executeSettled_parallel
    (parallel : handling.IsParallel allowed first second)
    (exchange : Exchange) :
    (executeSettled handling (exchange.under first)).Alike allowed
      (Exchange.Parallel first second)
      (executeSettled handling (exchange.under second)) := by
  rw [executeSettled, executeSettled, map_eq_pure_bind, map_eq_pure_bind]
  refine Program.Alike.bind (execute_parallel parallel exchange) ?_
  intro one two results
  exact .done (settle_parallel exchange results)

theorem executeLeased_parallel
    (parallel : handling.IsParallel (fun _ => True) first second)
    (exchange : Exchange) :
    (executeLeased handling (exchange.under first)).Alike (fun _ => True)
      (Exchange.Parallel first second)
      (executeLeased handling (exchange.under second)) := by
  have asked : (Attempt.acquire exchange.fileId).Uses fun _ => True :=
    .act trivial .done
  refine .bind asked.alike ?_
  rintro lease? _ rfl
  cases lease? with
  | none => exact .pure (.intro (exchange.reject (.leased exchange.fileId)))
  | some lease =>
      refine Program.Alike.bind (executeSettled_parallel parallel exchange) ?_
      intro one two results
      exact .act trivial fun _ => .done results

/--
An intent is handled alike for two requests, if its handling does the same for
both and they follow the same version.
-/
theorem handleIntent_parallel (intent : Intent)
    (parallel : handling.IsParallel allowed first second)
    (leases : intent.needsLease = true → allowed = fun _ => True)
    (version : versionOf second = versionOf first) (exchange : Exchange) :
    (handleIntent intent handling (exchange.under first)).Alike allowed
      (Exchange.Parallel first second)
      (handleIntent intent handling (exchange.under second)) := by
  refine .bind (.tell _ _) ?_
  rintro _ _ ⟨rfl, rfl⟩
  change (executeVersioned intent handling (exchange.under first)).Alike _ _
    (executeVersioned intent handling (exchange.under second))
  have same : versionOf ((exchange.under second).answerField
        HeaderName.tusResumable protocolVersion)
      = versionOf ((exchange.under first).answerField HeaderName.tusResumable
        protocolVersion) := version
  rw [executeVersioned, executeVersioned, same]
  split
  · exact .pure (.intro (((versioned exchange).answerField
      HeaderName.tusVersion protocolVersion).reject (.version _)))
  · split
    · rename_i needed
      cases leases needed
      exact executeLeased_parallel parallel (versioned exchange)
    · exact executeSettled_parallel parallel (versioned exchange)

end Protocol

end ResumableUpload
