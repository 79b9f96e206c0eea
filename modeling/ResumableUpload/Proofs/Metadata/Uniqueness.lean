import ResumableUpload.Proofs.Metadata.Insertion
import ResumableUpload.Proofs.Text.Utf8
/-!
# Each key once

Pairs are offered to a map, one after the other.  A pair is taken unless a pair
was taken before it whose key is the same up to the case of ASCII letters, and a
pair that is not taken leaves the map as it is.  So what has become of a map
that began empty is known from the answers alone: it gathers the pairs that were
taken, `Gathers`, which one offer preserves and hence any number of them.

The pairs are kept in the order of their bytes, where the case of letters
counts, and looked for one by one, where it does not.  That a search finds what
it should does not depend on the order, because at most one pair is under a key:
`offers_keep_keys_apart`.
-/

namespace ResumableUpload.Metadata

variable {metadata : Metadata} {entry : String × Bytes} {key : String}
  {before entries : List (String × Bytes)}

/-! ## Offers -/

/-- A pair is offered to a map: whether it is taken, and the map after that. -/
def offer (metadata : Metadata) (entry : String × Bytes) : Bool × Metadata :=
  match metadata.insert? entry.1 entry.2 with
  | some more => (true, more)
  | none => (false, metadata)

/-- The map after some offers. -/
def after (metadata : Metadata) : List (String × Bytes) → Metadata
  | [] => metadata
  | entry :: later => (metadata.offer entry).2.after later

/-- Whether each of some pairs is taken, in the order they are offered in. -/
def answers (metadata : Metadata) : List (String × Bytes) → List Bool
  | [] => []
  | entry :: later =>
      (metadata.offer entry).1 :: (metadata.offer entry).2.answers later

/-- The pairs that are taken, in the order they are offered in. -/
def taken (metadata : Metadata) (offers : List (String × Bytes)) :
    List (String × Bytes) :=
  ((offers.zip (metadata.answers offers)).filter Prod.snd).map Prod.fst

theorem taken_cons (metadata : Metadata) (entry : String × Bytes)
    (later : List (String × Bytes)) :
    metadata.taken (entry :: later)
      = (if (metadata.offer entry).1 then [entry] else [])
        ++ (metadata.offer entry).2.taken later := by
  rw [taken, answers, List.zip_cons_cons, List.filter_cons]
  split <;> rfl

/-- As many pairs are taken as offers are answered so. -/
theorem length_taken (metadata : Metadata) (offers : List (String × Bytes)) :
    (metadata.taken offers).length = (metadata.answers offers).count true := by
  induction offers generalizing metadata with
  | nil => rfl
  | cons entry later hypothesis =>
      rw [taken_cons, List.length_append, hypothesis, answers, List.count_cons]
      cases (metadata.offer entry).1 with
      | true => exact Nat.add_comm _ _
      | false => exact Nat.zero_add _

/-! ## What is under a key -/

/-- The pairs under a key, whatever the case of its ASCII letters. -/
def under (key : String) (entries : List (String × Bytes)) :
    List (String × Bytes) :=
  entries.filter fun entry => Ascii.toLower entry.1 == Ascii.toLower key

/-- A search finds the first pair under its key. -/
theorem get?_eq_head?_under (metadata : Metadata) (key : String) :
    metadata.get? key = (under key metadata.entries).head?.map Prod.snd := by
  have same (entry : String × Bytes) :
      Ascii.same entry.1.toList key.toList
        = (Ascii.toLower entry.1 == Ascii.toLower key) := by
    rw [Bool.eq_iff_iff, beq_iff_eq]
    exact Ascii.equal_iff
  rw [get?, under, List.head?_filter]
  simp only [same]

/-- Of pairs whose keys differ at most one is under a key. -/
theorem under_cases (differ : entries.Pairwise Differ) (key : String) :
    under key entries = [] ∨ ∃ entry, under key entries = [entry] := by
  have apart : (under key entries).Pairwise Differ :=
    differ.sublist List.filter_sublist
  have named : ∀ entry ∈ under key entries,
      Ascii.toLower entry.1 = Ascii.toLower key :=
    fun entry present => beq_iff_eq.1 (List.mem_filter.1 present).2
  match found : under key entries with
  | [] => exact .inl rfl
  | [entry] => exact .inr ⟨entry, rfl⟩
  | first :: second :: rest =>
      rw [found] at apart named
      have same : Ascii.toLower first.1 = Ascii.toLower second.1 :=
        (named first (by simp)).trans (named second (by simp)).symm
      exact absurd same
        (differ_iff.1 ((List.pairwise_cons.1 apart).1 second (by simp)))

/-! ## Maps of what was taken -/

/-- A map lists some pairs, and their keys differ. -/
structure Gathers (metadata : Metadata) (entries : List (String × Bytes)) :
    Prop extends metadata.Lists entries where
  differ : entries.Pairwise Differ

theorem gathers_empty : empty.Gathers [] :=
  ⟨lists_empty, .nil⟩

namespace Gathers

/-- A pair is taken and comes to its place, or nothing changes. -/
theorem offer_cases (gathers : metadata.Gathers before)
    (entry : String × Bytes) :
    (∀ other ∈ before, Differ other entry) ∧
        metadata.offer entry = (true, ⟨place entry.1 entry.2 metadata.entries⟩) ∨
      (¬∀ other ∈ before, Differ other entry) ∧
        metadata.offer entry = (false, metadata) := by
  rw [offer]
  cases inserted : metadata.insert? entry.1 entry.2 with
  | some more =>
      obtain ⟨new, rfl⟩ := (insert?_eq_some_iff gathers.toLists).1 inserted
      exact .inl ⟨new, rfl⟩
  | none =>
      refine .inr ⟨fun new => ?_, rfl⟩
      rw [(insert?_eq_some_iff gathers.toLists).2 ⟨new, rfl⟩] at inserted
      cases inserted

/-- One offer: the pair is gathered exactly if it is taken. -/
theorem offer (gathers : metadata.Gathers before) (entry : String × Bytes) :
    (metadata.offer entry).2.Gathers
      (before ++ if (metadata.offer entry).1 then [entry] else []) := by
  rcases gathers.offer_cases entry with ⟨new, took⟩ | ⟨-, left⟩
  · rw [took]
    refine ⟨gathers.toLists.place new, List.pairwise_append.2
      ⟨gathers.differ, List.pairwise_singleton _ _, ?_⟩⟩
    intro other present one same
    rw [List.mem_singleton.1 same]
    exact new other present
  · rw [left]
    change metadata.Gathers (before ++ [])
    rwa [List.append_nil]

/-- Any offers: what was taken is gathered with what was there before. -/
theorem after (gathers : metadata.Gathers before)
    (offers : List (String × Bytes)) :
    (metadata.after offers).Gathers (before ++ metadata.taken offers) := by
  induction offers generalizing metadata before with
  | nil =>
      change metadata.Gathers (before ++ [])
      rwa [List.append_nil]
  | cons entry later hypothesis =>
      rw [taken_cons, ← List.append_assoc]
      exact hypothesis (gathers.offer entry)

/-- A search gives the value of the one pair under its key, if there is one. -/
theorem get?_cases (gathers : metadata.Gathers entries) (key : String) :
    under key entries = [] ∧ metadata.get? key = none ∨
      ∃ entry, under key entries = [entry] ∧
        metadata.get? key = some entry.2 := by
  have perm : (under key metadata.entries).Perm (under key entries) :=
    gathers.perm.filter _
  rw [get?_eq_head?_under]
  rcases under_cases gathers.differ key with none | ⟨entry, one⟩
  · rw [none, List.perm_nil] at perm
    rw [perm]
    exact .inl ⟨none, rfl⟩
  · rw [one, List.perm_singleton] at perm
    rw [perm]
    exact .inr ⟨entry, one, rfl⟩

end Gathers

/-- What was taken is what the map holds. -/
theorem gathers_after (offers : List (String × Bytes)) :
    (empty.after offers).Gathers (empty.taken offers) :=
  gathers_empty.after offers

/--
After any offers to a map that began empty: a pair is taken exactly if its key
differs, not only in the case of ASCII letters, from the keys of all pairs that
were taken before, and if it is not taken the map stays as it is.  The keys in
the map differ likewise.  For every key, either no pair under it was taken and a
search gives nothing, or exactly one was and a search gives its value.  The map
is as large as offers were answered by taking the pair, and it lists the pairs
that were taken, as they were offered, in the order of the bytes of their keys.
-/
theorem offers_keep_keys_apart (offers : List (String × Bytes)) :
    (∀ entry,
      (((empty.after offers).offer entry).1 = true ↔
        ∀ earlier ∈ empty.taken offers,
          Ascii.toLower earlier.1 ≠ Ascii.toLower entry.1) ∧
      (((empty.after offers).offer entry).1 = false →
        ((empty.after offers).offer entry).2 = empty.after offers)) ∧
    (empty.after offers).entries.Pairwise (fun entry other =>
      Ascii.toLower entry.1 ≠ Ascii.toLower other.1) ∧
    (∀ key,
      under key (empty.taken offers) = [] ∧
          (empty.after offers).get? key = none ∨
        ∃ entry, under key (empty.taken offers) = [entry] ∧
          (empty.after offers).get? key = some entry.2) ∧
    (empty.after offers).size = (empty.answers offers).count true ∧
    (empty.after offers).entries.Perm (empty.taken offers) ∧
    (empty.after offers).entries.Pairwise fun entry later =>
      Bytes.ofString entry.1 < Bytes.ofString later.1 := by
  have gathers := gathers_after offers
  refine ⟨fun entry => ?_, ?_, gathers.get?_cases, ?_, gathers.perm, ?_⟩
  · simp only [← differ_iff]
    rcases gathers.offer_cases entry with ⟨new, took⟩ | ⟨known, left⟩
    · rw [took]
      exact ⟨iff_of_true rfl new, nofun⟩
    · rw [left]
      exact ⟨iff_of_false nofun known, fun _ => rfl⟩
  · have differ := (gathers.perm.pairwise_iff Differ.symm).2 gathers.differ
    exact differ.imp differ_iff.1
  · rw [← length_taken]
    exact gathers.perm.length_eq
  · exact gathers.ordered.imp Bytes.ofString_lt_iff.2

-- The case of letters counts outside ASCII, and for the order.
example :
    empty.after [("b", [1]), ("é", [2]), ("B", [3]), ("É", [4]), ("C", [])]
      = ⟨[("C", []), ("b", [1]), ("É", [4]), ("é", [2])]⟩ := by
  decide +kernel

end ResumableUpload.Metadata
