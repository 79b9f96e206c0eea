import ResumableUpload.Body
/-!
# Feeding a consumer

What the reads of a body deliver is a list of byte strings that does not depend
on any consumer: `Body.deliveries`.  Feeding a consumer with a body hands these
deliveries to it, one after another, until it refuses one: `Body.feed_eq`.  So
what a consumer keeps true of the deliveries it has taken is true in the end of
all of them, unless it refuses a delivery, and this is an induction over a list.

Where the body keeps its reader waiting is known without a consumer, too:
`Body.held?` and `Body.feed_waits`.
-/

namespace ResumableUpload.Body

/--
The bytes that reads deliver until the body ends or fails, keeps the reader
waiting, or the request is cancelled.
-/
def delivered (cancelled inRead : Bool) : Body → Bytes
  | [] => []
  | arrival :: rest =>
      if cancelled && !inRead then []
      else
        match arrival with
        | .data bytes => bytes ++ delivered cancelled false rest
        | .failure | .pause => []
        | .cancellation => delivered true true rest

/-- What the reads deliver, one by one. -/
def deliveries (cancelled inRead : Bool) : Body → List Bytes
  | [] => []
  | arrival :: rest =>
      if cancelled && !inRead then []
      else
        match arrival with
        | .data bytes => bytes :: deliveries cancelled false rest
        | .failure | .pause => []
        | .cancellation => deliveries true true rest

theorem flatten_deliveries (cancelled inRead : Bool) (body : Body) :
    (deliveries cancelled inRead body).flatten
      = delivered cancelled inRead body := by
  induction body generalizing cancelled inRead with
  | nil => rfl
  | cons arrival rest hypothesis =>
      rw [deliveries.eq_def, delivered.eq_def]
      simp only
      split
      · rfl
      · cases arrival with
        | data bytes => rw [List.flatten_cons, hypothesis]
        | cancellation => exact hypothesis true true
        | failure | pause => rfl

/-- What is left of a body where it keeps its reader waiting, if it does. -/
def held? (cancelled inRead : Bool) : Body → Option Body
  | [] => none
  | arrival :: rest =>
      if cancelled && !inRead then none
      else
        match arrival with
        | .data _ => held? cancelled false rest
        | .failure => none
        | .pause => if cancelled then none else some (.pause :: rest)
        | .cancellation => held? true true rest

section Consumer

variable {σ ε : Type} {consume : σ → Bytes → σ × Option ε}

/-- Hands deliveries to a consumer, one after another, until it refuses one. -/
def consumeAll (consume : σ → Bytes → σ × Option ε) (state : σ) :
    List Bytes → σ × Option ε
  | [] => (state, none)
  | bytes :: rest =>
      match consume state bytes with
      | (state, none) => consumeAll consume state rest
      | (state, some reason) => (state, some reason)

/-- The reason for which a consumer has refused a delivery. -/
def Stop.refusal? : Stop ε → Option ε
  | .refused reason => some reason
  | _ => none

/-- Feeding a consumer is handing it what is delivered. -/
theorem feed_eq (consume : σ → Bytes → σ × Option ε) (state : σ)
    (cancelled inRead : Bool) (body : Body) :
    ((feed consume state cancelled inRead body).state,
      (feed consume state cancelled inRead body).stop.refusal?)
      = consumeAll consume state (deliveries cancelled inRead body) := by
  induction body generalizing state cancelled inRead with
  | nil =>
      rw [feed, deliveries]
      cases cancelled && !inRead <;> rfl
  | cons arrival rest hypothesis =>
      rw [feed.eq_def, deliveries.eq_def]
      simp only
      by_cases noticed : (cancelled && !inRead) = true
      · rw [if_pos noticed, if_pos noticed]
        rfl
      · rw [if_neg noticed, if_neg noticed]
        cases arrival with
        | failure => rfl
        | pause => cases cancelled <;> rfl
        | cancellation => exact hypothesis state true true
        | data bytes =>
            simp only
            rw [consumeAll]
            rcases consume state bytes with ⟨after, none | reason⟩
            · exact hypothesis after cancelled false
            · rfl

/--
What a consumer keeps true of the deliveries it has taken is true in the end of
all of them.  If it refuses one, what it leaves then is known of those before.
-/
theorem consumeAll_holds (holds : σ → List Bytes → Prop)
    (lost : σ → List Bytes → Bytes → ε → Prop)
    (accept : ∀ {state taken bytes after}, holds state taken →
      consume state bytes = (after, none) → holds after (taken ++ [bytes]))
    (refuse : ∀ {state taken bytes after reason}, holds state taken →
      consume state bytes = (after, some reason) →
      lost after taken bytes reason)
    {state : σ} {taken : List Bytes} (before : holds state taken)
    (deliveries : List Bytes) :
    match (consumeAll consume state deliveries).2 with
    | none =>
        holds (consumeAll consume state deliveries).1 (taken ++ deliveries)
    | some reason => ∃ more bytes rest, deliveries = more ++ bytes :: rest ∧
        lost (consumeAll consume state deliveries).1 (taken ++ more) bytes
          reason := by
  induction deliveries generalizing state taken with
  | nil =>
      rw [consumeAll, List.append_nil]
      exact before
  | cons bytes rest hypothesis =>
      rw [consumeAll]
      rcases consumed : consume state bytes with ⟨after, none | reason⟩
      · have later := hypothesis (accept before consumed)
        simp only at later ⊢
        cases refused : (consumeAll consume after rest).2 with
        | none =>
            rw [refused] at later
            rw [List.append_assoc] at later
            exact later
        | some reason =>
            rw [refused] at later
            rcases later with ⟨more, last, others, rfl, left⟩
            refine ⟨bytes :: more, last, others, rfl, ?_⟩
            rw [List.append_assoc] at left
            exact left
      · exact ⟨[], bytes, rest, rfl, by
          rw [List.append_nil]
          exact refuse before consumed⟩

/-- The same for the bytes that a consumer has taken. -/
theorem feed_holds (holds : σ → Bytes → Prop)
    (lost : σ → Bytes → Bytes → ε → Prop)
    (accept : ∀ {state taken bytes after}, holds state taken →
      consume state bytes = (after, none) → holds after (taken ++ bytes))
    (refuse : ∀ {state taken bytes after reason}, holds state taken →
      consume state bytes = (after, some reason) →
      lost after taken bytes reason)
    {state : σ} {taken : Bytes} (before : holds state taken)
    (cancelled inRead : Bool) (body : Body) :
    match (feed consume state cancelled inRead body).stop with
    | .refused reason =>
        ∃ more bytes, more ++ bytes <+: delivered cancelled inRead body ∧
          lost (feed consume state cancelled inRead body).state
            (taken ++ more) bytes reason
    | _ =>
        holds (feed consume state cancelled inRead body).state
          (taken ++ delivered cancelled inRead body) := by
  have begun : holds state (taken ++ [].flatten) := by
    rw [List.flatten_nil, List.append_nil]
    exact before
  have ended := consumeAll_holds
    (fun state list => holds state (taken ++ list.flatten))
    (fun state list => lost state (taken ++ list.flatten))
    (by
      intro state list bytes after held consumed
      rw [List.flatten_append, List.flatten_singleton, ← List.append_assoc]
      exact accept held consumed)
    refuse begun (deliveries cancelled inRead body)
  rw [← feed_eq, List.nil_append, flatten_deliveries] at ended
  cases stop : (feed consume state cancelled inRead body).stop with
  | refused reason =>
      rw [stop] at ended
      rcases ended with ⟨more, bytes, rest, split, left⟩
      refine ⟨more.flatten, bytes, ⟨rest.flatten, ?_⟩, left⟩
      rw [← flatten_deliveries, split, List.flatten_append, List.flatten_cons,
        List.append_assoc]
  | _ =>
      rw [stop] at ended
      exact ended

/-- What has been read before a body breaks off is part of its data. -/
theorem data_isPrefix (read rest : Body) :
    data read <+: data (read ++ rest) := by
  induction read with
  | nil => exact List.nil_prefix
  | cons arrival others hypothesis =>
      cases arrival with
      | data bytes => exact (List.prefix_append_right_inj bytes).2 hypothesis
      | cancellation => exact hypothesis
      | failure | pause => exact List.nil_prefix

/--
What a consumer keeps true of the bytes it has taken is true in the end of the
data of all that has been read.  A delivery that it refuses has been read last.
-/
theorem feed_reads (holds : σ → Bytes → Prop)
    (lost : σ → Bytes → Bytes → ε → Prop)
    (accept : ∀ {state taken bytes after}, holds state taken →
      consume state bytes = (after, none) → holds after (taken ++ bytes))
    (refuse : ∀ {state taken bytes after reason}, holds state taken →
      consume state bytes = (after, some reason) →
      lost after taken bytes reason)
    {state : σ} {taken : Bytes} (before : holds state taken)
    (cancelled inRead : Bool) (body : Body) :
    ∃ read, body = read ++ (feed consume state cancelled inRead body).rest ∧
      match (feed consume state cancelled inRead body).stop with
      | .refused reason =>
          ∃ earlier last, read = earlier ++ [.data last] ∧
            data read = data earlier ++ last ∧
            lost (feed consume state cancelled inRead body).state
              (taken ++ data earlier) last reason
      | _ =>
          holds (feed consume state cancelled inRead body).state
            (taken ++ data read) := by
  have unread {state : σ} {taken : Bytes} (held : holds state taken) :
      holds state (taken ++ data []) := by
    rwa [data, List.append_nil]
  induction body generalizing state taken cancelled inRead with
  | nil =>
      rw [feed]
      refine ⟨[], ?_⟩
      cases cancelled && !inRead <;> exact ⟨rfl, unread before⟩
  | cons arrival rest hypothesis =>
      rw [feed.eq_def]
      simp only
      by_cases noticed : (cancelled && !inRead) = true
      · rw [if_pos noticed]
        exact ⟨[], rfl, unread before⟩
      · rw [if_neg noticed]
        cases arrival with
        | failure => exact ⟨[.failure], rfl, unread before⟩
        | pause =>
            refine ⟨[], ?_⟩
            cases cancelled <;> exact ⟨rfl, unread before⟩
        | cancellation =>
            rcases hypothesis before true true with ⟨read, split, ends⟩
            refine ⟨.cancellation :: read, congrArg _ split, ?_⟩
            simp only
            generalize feed consume state true true rest = fed at ends ⊢
            rcases fed with ⟨after, left, cancelled, stop⟩
            cases stop with
            | refused reason =>
                rcases ends with ⟨earlier, last, rfl, whole, parted⟩
                exact ⟨.cancellation :: earlier, last, rfl, whole, parted⟩
            | _ => exact ends
        | data bytes =>
            simp only
            rcases consumed : consume state bytes with ⟨after, none | reason⟩
            · have taken := accept before consumed
              rcases hypothesis taken cancelled false with ⟨read, split, ends⟩
              refine ⟨.data bytes :: read, congrArg _ split, ?_⟩
              simp only [data] at ends ⊢
              generalize feed consume after cancelled false rest = fed
                at ends ⊢
              rcases fed with ⟨after, left, cancelled, stop⟩
              cases stop with
              | refused reason =>
                  rcases ends with ⟨earlier, last, rfl, whole, parted⟩
                  refine ⟨.data bytes :: earlier, last, rfl, ?_, ?_⟩
                  · rw [whole, data, List.append_assoc]
                  · rwa [data, ← List.append_assoc]
              | _ => rwa [← List.append_assoc]
            · refine ⟨[.data bytes], rfl, [], bytes, rfl, ?_, ?_⟩
              · exact List.append_nil bytes
              · rw [data, List.append_nil]
                exact refuse before consumed

/-- Deliveries are handed over one after another. -/
theorem consumeAll_append (state : σ) (first later : List Bytes) :
    consumeAll consume state (first ++ later)
      = match consumeAll consume state first with
        | (state, none) => consumeAll consume state later
        | (state, some reason) => (state, some reason) := by
  induction first generalizing state with
  | nil => rfl
  | cons bytes rest hypothesis =>
      rw [List.cons_append, consumeAll, consumeAll]
      rcases consume state bytes with ⟨after, none | reason⟩
      · exact hypothesis after
      · rfl

/-- If all deliveries are taken, so is each of them. -/
theorem consumeAll_of_takes {state : σ} {first later : List Bytes}
    {bytes : Bytes}
    (takes : (consumeAll consume state (first ++ bytes :: later)).2 = none) :
    (consume (consumeAll consume state first).1 bytes).2 = none ∧
      (consumeAll consume state (first ++ [bytes])).1
        = (consume (consumeAll consume state first).1 bytes).1 := by
  rw [consumeAll_append] at takes ⊢
  generalize consumeAll consume state first = middle at takes ⊢
  rcases middle with ⟨middle, none | reason⟩
  · simp only [consumeAll] at takes ⊢
    generalize consume middle bytes = last at takes ⊢
    rcases last with ⟨after, none | reason⟩
    · exact ⟨rfl, rfl⟩
    · cases takes
  · cases takes

/-- What each of some deliveries keeps true of a consumer is true after them. -/
theorem consumeAll_keeps (keeps : σ → Prop) (deliveries : List Bytes)
    (step : ∀ state, ∀ bytes ∈ deliveries, keeps state →
      keeps (consume state bytes).1)
    {state : σ} (before : keeps state) :
    keeps (consumeAll consume state deliveries).1 := by
  induction deliveries generalizing state with
  | nil => exact before
  | cons bytes rest hypothesis =>
      have kept := step state bytes List.mem_cons_self before
      have later := @hypothesis fun state bytes present =>
        step state bytes (List.mem_cons_of_mem _ present)
      rw [consumeAll]
      rcases consumed : consume state bytes with ⟨after, none | reason⟩
      · rw [consumed] at kept
        exact later kept
      · rw [consumed] at kept
        exact kept

/-- What every delivery keeps true of a consumer is true of it in the end. -/
theorem feed_keeps (keeps : σ → Prop)
    (step : ∀ state bytes, keeps state → keeps (consume state bytes).1)
    {state : σ} (before : keeps state) (cancelled inRead : Bool) (body : Body) :
    keeps (feed consume state cancelled inRead body).state := by
  have same := congrArg Prod.fst (feed_eq consume state cancelled inRead body)
  have kept := consumeAll_keeps keeps (deliveries cancelled inRead body)
    (fun state bytes _ => step state bytes) before
  rw [← same] at kept
  exact kept

/--
Reading waits where the body keeps its reader waiting, and nowhere else, unless
a delivery has been refused before.
-/
theorem feed_waits (consume : σ → Bytes → σ × Option ε) (state : σ)
    (cancelled inRead : Bool) (body : Body)
    (takes : (feed consume state cancelled inRead body).stop.refusal? = none) :
    match held? cancelled inRead body with
    | some rest =>
        (feed consume state cancelled inRead body).stop = .paused ∧
          (feed consume state cancelled inRead body).rest = rest ∧
          (feed consume state cancelled inRead body).cancelled = false
    | none => (feed consume state cancelled inRead body).stop ≠ .paused := by
  induction body generalizing state cancelled inRead with
  | nil =>
      rw [feed, held?]
      cases cancelled && !inRead <;> simp
  | cons arrival rest hypothesis =>
      rw [feed.eq_def] at takes ⊢
      rw [held?.eq_def]
      simp only at takes ⊢
      by_cases noticed : (cancelled && !inRead) = true
      · rw [if_pos noticed, if_pos noticed]
        simp
      · rw [if_neg noticed] at takes
        rw [if_neg noticed, if_neg noticed]
        cases arrival with
        | failure => simp
        | pause => cases cancelled <;> simp
        | cancellation => exact hypothesis state true true takes
        | data bytes =>
            simp only at takes ⊢
            rcases consumed : consume state bytes with ⟨after, none | reason⟩
            · rw [consumed] at takes
              exact hypothesis after cancelled false takes
            · rw [consumed] at takes
              cases takes

end Consumer

/-! ## Two consumers of one body -/

section Consumers

variable {σ τ ε δ : Type} {consume : σ → Bytes → σ × Option ε}
  {other : τ → Bytes → τ × Option δ} {relates : σ → τ → Prop}
  {parts : σ → τ → ε → δ → Prop}

/--
Two consumers have done the same with a delivery: both have taken it, or both
have refused it.
-/
inductive Agree (relates : σ → τ → Prop) (parts : σ → τ → ε → δ → Prop) :
    σ × Option ε → τ × Option δ → Prop where
  | taken {state : σ} {state' : τ} (kept : relates state state') :
      Agree relates parts (state, none) (state', none)
  | refused {state : σ} {state' : τ} {reason : ε} {reason' : δ}
      (parted : parts state state' reason reason') :
      Agree relates parts (state, some reason) (state', some reason')

/-- Two readers have stopped at the same place of a body for the same cause. -/
inductive Fed.Agree (relates : σ → τ → Prop) (parts : σ → τ → ε → δ → Prop) :
    Fed σ ε → Fed τ δ → Prop where
  | ended {state : σ} {state' : τ} {rest : Body} {cancelled : Bool}
      (kept : relates state state') :
      Fed.Agree relates parts ⟨state, rest, cancelled, .ended⟩
        ⟨state', rest, cancelled, .ended⟩
  | disconnected {state : σ} {state' : τ} {rest : Body} {cancelled : Bool}
      (kept : relates state state') :
      Fed.Agree relates parts ⟨state, rest, cancelled, .disconnected⟩
        ⟨state', rest, cancelled, .disconnected⟩
  | cancelled {state : σ} {state' : τ} {rest : Body} {cancelled : Bool}
      (kept : relates state state') :
      Fed.Agree relates parts ⟨state, rest, cancelled, .cancelled⟩
        ⟨state', rest, cancelled, .cancelled⟩
  | paused {state : σ} {state' : τ} {rest : Body} {cancelled : Bool}
      (kept : relates state state') :
      Fed.Agree relates parts ⟨state, rest, cancelled, .paused⟩
        ⟨state', rest, cancelled, .paused⟩
  | refused {state : σ} {state' : τ} {rest : Body} {cancelled : Bool}
      {reason : ε} {reason' : δ} (parted : parts state state' reason reason') :
      Fed.Agree relates parts ⟨state, rest, cancelled, .refused reason⟩
        ⟨state', rest, cancelled, .refused reason'⟩

/--
Consumers that do the same with every delivery as long as they agree on what has
been delivered, stop at the same place of a body if that delivers no more than
the bytes of which this is known.
-/
theorem feed_agrees_along {relates : Bytes → σ → τ → Prop} {all : Bytes}
    (step : ∀ {taken state state'} bytes, relates taken state state' →
      taken ++ bytes <+: all →
      Agree (relates (taken ++ bytes)) parts (consume state bytes)
        (other state' bytes))
    {taken : Bytes} {state : σ} {state' : τ}
    (before : relates taken state state') (cancelled inRead : Bool)
    (body : Body)
    (within : taken ++ delivered cancelled inRead body <+: all) :
    Fed.Agree (relates (taken ++ delivered cancelled inRead body)) parts
      (feed consume state cancelled inRead body)
      (feed other state' cancelled inRead body) := by
  induction body generalizing taken state state' cancelled inRead with
  | nil =>
      rw [feed, feed, delivered, List.append_nil]
      split
      · exact .cancelled before
      · exact .ended before
  | cons arrival rest hypothesis =>
      rw [delivered.eq_def] at within ⊢
      rw [feed.eq_def, feed.eq_def]
      simp only at within ⊢
      split
      · rw [List.append_nil]
        exact .cancelled before
      · rename_i unnoticed
        rw [if_neg unnoticed] at within
        cases arrival with
        | failure =>
            rw [List.append_nil]
            exact .disconnected before
        | cancellation => exact hypothesis before true true within
        | pause =>
            simp only [List.append_nil]
            split
            · exact .cancelled before
            · exact .paused before
        | data bytes =>
            simp only at within ⊢
            rw [← List.append_assoc] at within ⊢
            have done := step bytes before
              ((List.prefix_append _ _).trans within)
            generalize consume state bytes = first,
              other state' bytes = second at done ⊢
            cases done with
            | taken kept => exact hypothesis kept cancelled false within
            | refused parted => exact .refused parted

/--
Consumers that do the same with every delivery as long as they agree stop at
the same place of a body.
-/
theorem feed_agrees
    (step : ∀ {state state'} bytes, relates state state' →
      Agree relates parts (consume state bytes) (other state' bytes))
    {state : σ} {state' : τ} (before : relates state state')
    (cancelled inRead : Bool) (body : Body) :
    Fed.Agree relates parts (feed consume state cancelled inRead body)
      (feed other state' cancelled inRead body) :=
  @feed_agrees_along _ _ _ _ _ _ _ (fun _ => relates) _
    (fun bytes related _ => step bytes related) [] _ _ before cancelled inRead
    body List.prefix_rfl

end Consumers

end ResumableUpload.Body
