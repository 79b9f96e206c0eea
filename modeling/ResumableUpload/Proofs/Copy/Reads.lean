import ResumableUpload.Proofs.Copy.Feed
/-!
# Reads

Bytes are cut into pieces of one size, of which only the last one may be
shorter; reads cut a body in this way, arrival by arrival.  What reading makes
of a body that never keeps its reader waiting, `Body.reading`, is known without
a consumer: what the reads deliver, what is left of the body, and whether the
connection has failed.
-/

namespace ResumableUpload

/-! ## Pieces -/

namespace Bytes

/-- Pieces make up what was cut. -/
theorem flatten_pieces (size : Nat) (bytes : Bytes) :
    (pieces size bytes).flatten = bytes := by
  induction bytes using pieces.induct size with
  | case1 => rw [pieces, List.flatten_nil]
  | case2 byte rest hypothesis =>
      rw [pieces, List.flatten_cons, hypothesis, List.cons_append,
        List.take_append_drop]

/-- No piece is empty, and none is larger than the size of the pieces. -/
theorem sizes_of_mem_pieces {size : Nat} {bytes piece : Bytes}
    (present : piece ∈ pieces size bytes) :
    piece ≠ [] ∧ piece.length ≤ max size 1 := by
  induction bytes using pieces.induct size with
  | case1 =>
      rw [pieces] at present
      cases present
  | case2 byte rest hypothesis =>
      rw [pieces] at present
      rcases List.mem_cons.1 present with rfl | later
      · refine ⟨List.cons_ne_nil _ _, ?_⟩
        rw [List.length_cons, List.length_take]
        omega
      · exact hypothesis later

/-- A first part of the size of a piece is cut off as it is. -/
theorem pieces_append {size : Nat} (positive : 0 < size) {first : Bytes}
    (whole : first.length = size) (rest : Bytes) :
    pieces size (first ++ rest) = first :: pieces size rest := by
  cases first with
  | nil => simp at whole; omega
  | cons byte others =>
      rw [List.length_cons] at whole
      rw [List.cons_append, pieces, List.take_left' (by omega),
        List.drop_left' (by omega)]

/-- So are first parts that are whole pieces. -/
theorem pieces_flatten_append {size : Nat} (positive : 0 < size)
    {firsts : List Bytes} (whole : ∀ piece ∈ firsts, piece.length = size)
    (rest : Bytes) :
    pieces size (firsts.flatten ++ rest) = firsts ++ pieces size rest := by
  induction firsts with
  | nil => rfl
  | cons first others hypothesis =>
      rw [List.flatten_cons, List.append_assoc,
        pieces_append positive (whole first List.mem_cons_self),
        hypothesis fun piece present =>
          whole piece (List.mem_cons_of_mem first present), List.cons_append]

/-- What fits in one piece is one piece, unless it is nothing. -/
theorem pieces_of_length_le {size : Nat} {bytes : Bytes}
    (within : bytes.length ≤ size) :
    pieces size bytes = if bytes.isEmpty then [] else [bytes] := by
  cases bytes with
  | nil => rw [pieces]; rfl
  | cons byte rest =>
      rw [List.length_cons] at within
      rw [pieces, List.take_of_length_le (by omega),
        List.drop_of_length_le (by omega), pieces]
      rfl

/-- All pieces of whole pieces are whole. -/
theorem length_of_mem_pieces {size : Nat} (positive : 0 < size) {bytes : Bytes}
    (divides : size ∣ bytes.length) :
    ∀ piece ∈ pieces size bytes, piece.length = size := by
  induction bytes using pieces.induct size with
  | case1 => simp [pieces]
  | case2 byte rest hypothesis =>
      rw [List.length_cons] at divides
      have room := Nat.le_of_dvd (Nat.succ_pos _) divides
      have further : size ∣ (rest.drop (size - 1)).length := by
        rw [List.length_drop]
        have := Nat.dvd_sub divides (Nat.dvd_refl size)
        have same : rest.length - (size - 1) = rest.length + 1 - size := by
          omega
        rwa [same]
      rw [pieces]
      intro piece present
      rcases List.mem_cons.1 present with rfl | later
      · rw [List.length_cons, List.length_take]
        omega
      · exact hypothesis further piece later

/-- Pieces are of one size but for the last, which is what is left over. -/
theorem map_length_pieces {size : Nat} (positive : 0 < size) (bytes : Bytes) :
    (pieces size bytes).map List.length
      = List.replicate (bytes.length / size) size
        ++ if bytes.length % size = 0 then [] else [bytes.length % size] := by
  induction bytes using pieces.induct size with
  | case1 => simp [pieces]
  | case2 byte rest hypothesis =>
      rcases Nat.lt_or_ge (byte :: rest).length size with short | long
      · rw [pieces_of_length_le (Nat.le_of_lt short), Nat.div_eq_of_lt short,
          Nat.mod_eq_of_lt short]
        rfl
      · have first : (byte :: rest.take (size - 1)).length = size := by
          rw [List.length_cons] at long
          rw [List.length_cons, List.length_take]
          omega
        have left : (rest.drop (size - 1)).length
            = (byte :: rest).length - size := by
          rw [List.length_cons, List.length_drop]
          omega
        rw [pieces, List.map_cons, hypothesis, first, left,
          Nat.div_eq_sub_div positive long, Nat.mod_eq_sub_mod long,
          List.replicate_succ, List.cons_append]

/-- Cutting whole pieces first makes no difference. -/
theorem pieces_append_of_dvd {size : Nat} (positive : 0 < size) {first : Bytes}
    (divides : size ∣ first.length) (rest : Bytes) :
    pieces size (first ++ rest) = pieces size first ++ pieces size rest := by
  have whole := pieces_flatten_append positive
    (length_of_mem_pieces positive divides) rest
  rw [flatten_pieces] at whole
  exact whole

/--
Bytes that come to a buffer with room for `total` of them: those it writes out,
which are as many as fill it, and those it keeps.
-/
def overflow (total : Nat) (bytes : Bytes) : Bytes × Bytes :=
  (bytes.take (bytes.length / total * total),
    bytes.drop (bytes.length / total * total))

theorem overflow_of_lt {total : Nat} {bytes : Bytes}
    (less : bytes.length < total) : overflow total bytes = ([], bytes) := by
  rw [overflow, Nat.div_eq_of_lt less, Nat.zero_mul, List.take_zero,
    List.drop_zero]

theorem overflow_append {total : Nat} (positive : 0 < total) {first : Bytes}
    (whole : first.length = total) (rest : Bytes) :
    overflow total (first ++ rest)
      = (first ++ (overflow total rest).1, (overflow total rest).2) := by
  have due : (first ++ rest).length / total * total
      = first.length + rest.length / total * total := by
    rw [List.length_append, whole, Nat.add_div_left _ positive, Nat.succ_mul,
      Nat.add_comm]
  rw [overflow, due, List.take_length_add_append, List.drop_length_add_append]
  rfl

/-- What fills some buckets is cut into as many pieces, as often as it does. -/
theorem map_length_pieces_overflow {size : Nat} (positive : 0 < size)
    (count : Nat) (bytes : Bytes) :
    (pieces size (overflow (count * size) bytes).1).map List.length
      = List.replicate (bytes.length / (count * size) * count) size := by
  have whole : (overflow (count * size) bytes).1.length
      = bytes.length / (count * size) * count * size := by
    rw [overflow, List.length_take, Nat.mul_assoc]
    exact Nat.min_eq_left (Nat.div_mul_le_self _ _)
  rw [map_length_pieces positive, whole, Nat.mul_div_cancel _ positive,
    Nat.mul_mod_left, if_pos rfl, List.append_nil]

end Bytes

/-! ## Reads of a body -/

namespace Body

/-- What is delivered has arrived. -/
theorem mem_of_mem_deliveries {cancelled inRead : Bool} {body : Body}
    {bytes : Bytes} (present : bytes ∈ deliveries cancelled inRead body) :
    .data bytes ∈ body := by
  induction body generalizing cancelled inRead with
  | nil => cases present
  | cons arrival rest hypothesis =>
      rw [deliveries.eq_def] at present
      simp only at present
      split at present
      · cases present
      · cases arrival with
        | data first =>
            rcases List.mem_cons.1 present with rfl | later
            · exact List.mem_cons_self
            · exact List.mem_cons_of_mem _ (hypothesis later)
        | cancellation => exact List.mem_cons_of_mem _ (hypothesis present)
        | failure | pause => cases present

/-- A read of a limited size delivers something, and no more than its size. -/
theorem sizes_of_data_mem_inReads {limit : Nat} {body : Body} {bytes : Bytes}
    (present : .data bytes ∈ body.inReads limit) :
    bytes ≠ [] ∧ bytes.length ≤ max limit 1 := by
  induction body with
  | nil => cases present
  | cons arrival rest hypothesis =>
      cases arrival with
      | data all =>
          rcases List.mem_append.1 present with here | later
          · rcases List.mem_map.1 here with ⟨piece, among, same⟩
            cases same
            exact Bytes.sizes_of_mem_pieces among
          · exact hypothesis later
      | failure | pause | cancellation =>
          rcases List.mem_cons.1 present with contrary | later
          · cases contrary
          · exact hypothesis later

/-- Cutting a body into reads does not change its data. -/
theorem data_inReads (limit : Nat) (body : Body) :
    data (body.inReads limit) = data body := by
  have delivers (pieces : List Bytes) (rest : Body) :
      data (pieces.map .data ++ rest) = pieces.flatten ++ data rest := by
    induction pieces with
    | nil => rfl
    | cons piece others hypothesis =>
        rw [List.map_cons, List.cons_append, data, hypothesis,
          List.flatten_cons, List.append_assoc]
  induction body with
  | nil => rfl
  | cons arrival rest hypothesis =>
      cases arrival with
      | data bytes =>
          rw [inReads, delivers, Bytes.flatten_pieces, hypothesis, data]
      | cancellation => exact hypothesis
      | failure | pause => rfl

/-- Cutting a body into reads puts no pause into it. -/
theorem pause_not_mem_inReads (limit : Nat) {body : Body}
    (flows : .pause ∉ body) : .pause ∉ body.inReads limit := by
  induction body with
  | nil => exact flows
  | cons arrival rest hypothesis =>
      have later := hypothesis fun contrary =>
        flows (List.mem_cons_of_mem _ contrary)
      cases arrival with
      | data all => simpa [inReads] using later
      | failure | cancellation => simpa [inReads] using later
      | pause => exact absurd List.mem_cons_self flows

/-- What is left of a body when reading ends. -/
def unread (cancelled inRead : Bool) : Body → Body
  | [] => []
  | arrival :: rest =>
      if cancelled && !inRead then arrival :: rest
      else
        match arrival with
        | .data _ => unread cancelled false rest
        | .failure => rest
        | .pause => .pause :: rest
        | .cancellation => unread true true rest

/-- Whether reading ends because the connection fails. -/
def breaks (cancelled inRead : Bool) : Body → Bool
  | [] => false
  | arrival :: rest =>
      if cancelled && !inRead then false
      else
        match arrival with
        | .data _ => breaks cancelled false rest
        | .failure => true
        | .pause => false
        | .cancellation => breaks true true rest

/-- How reading stops if the consumer does not refuse and nothing waits. -/
theorem feed_stops {σ ε : Type} (consume : σ → Bytes → σ × Option ε)
    (state : σ) (cancelled inRead : Bool) {body : Body}
    (flows : .pause ∉ body)
    (takes : (feed consume state cancelled inRead body).stop.refusal?
      = none) :
    (feed consume state cancelled inRead body).rest
        = unread cancelled inRead body ∧
      match (feed consume state cancelled inRead body).stop with
      | .ended | .cancelled => breaks cancelled inRead body = false
      | .disconnected => breaks cancelled inRead body = true
      | .paused | .refused _ => False := by
  induction body generalizing state cancelled inRead with
  | nil =>
      rw [feed, unread, breaks]
      cases cancelled && !inRead <;> exact ⟨rfl, rfl⟩
  | cons arrival rest hypothesis =>
      have later : .pause ∉ rest := fun contrary =>
        flows (List.mem_cons_of_mem _ contrary)
      rw [feed.eq_def] at takes ⊢
      rw [unread.eq_def, breaks.eq_def]
      simp only at takes ⊢
      by_cases noticed : (cancelled && !inRead) = true
      · simp only [noticed, if_true, and_self]
      · rw [if_neg noticed] at takes
        simp only [if_neg noticed]
        cases arrival with
        | failure => exact ⟨rfl, rfl⟩
        | pause => exact absurd List.mem_cons_self flows
        | cancellation => exact hypothesis state true true later takes
        | data bytes =>
            simp only at takes ⊢
            rcases consumed : consume state bytes with ⟨after, none | reason⟩
            · rw [consumed] at takes
              exact hypothesis after cancelled false later takes
            · rw [consumed] at takes
              cases takes

end Body

/-- What reading makes of a body. -/
structure Reading where
  /-- What the reads deliver, one by one. -/
  reads : List Bytes
  /-- What is left of the body, cut into reads. -/
  rest : Body
  /-- Whether reading has ended because the connection has failed. -/
  broken : Bool
  deriving DecidableEq

/--
What reads of at most `limit` bytes make of a body up to its end, a failure of
the connection, or a cancellation of the request.
-/
def Body.reading (body : Body) (limit : Nat) (cancelled : Bool) : Reading where
  reads := deliveries cancelled false (body.inReads limit)
  rest := unread cancelled false (body.inReads limit)
  broken := breaks cancelled false (body.inReads limit)

/-- No read delivers nothing, and none more than its size. -/
theorem Body.sizes_of_mem_reading {body : Body} {limit : Nat}
    {cancelled : Bool} {bytes : Bytes}
    (present : bytes ∈ (body.reading limit cancelled).reads) :
    bytes ≠ [] ∧ bytes.length ≤ max limit 1 :=
  sizes_of_data_mem_inReads (mem_of_mem_deliveries present)

end ResumableUpload
