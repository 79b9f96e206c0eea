import Mathlib.Data.List.Induction
import Mathlib.Data.String.Basic
import ResumableUpload.Metadata
/-!
# Pairs in the order of their keys

A pair that is inserted comes to its place in the order of the keys, unless its
key is there already in some case of its letters.  So whatever the order in
which pairs are inserted, the map lists exactly these pairs in the order of
their keys: `Metadata.Lists`.
-/

namespace ResumableUpload.Metadata

variable {metadata result : Metadata} {entry : String × Bytes}
  {entries : List (String × Bytes)}

/-- Two pairs whose keys are different even if the case of letters is not. -/
def Differ (entry other : String × Bytes) : Prop :=
  Ascii.equal entry.1 other.1 = false

theorem differ_iff {other : String × Bytes} :
    Differ entry other ↔ Ascii.toLower entry.1 ≠ Ascii.toLower other.1 := by
  rw [Differ, Bool.eq_false_iff, ne_eq, Ascii.equal_iff]

theorem Differ.symm {other : String × Bytes} (differ : Differ entry other) :
    Differ other entry :=
  differ_iff.2 (differ_iff.1 differ).symm

/-- Pairs with different keys have keys that are not the same text. -/
theorem Differ.ne {other : String × Bytes} (differ : Differ entry other) :
    entry.1 ≠ other.1 :=
  fun same => differ_iff.1 differ (congrArg Ascii.toLower same)

/-- A map of some pairs: they are listed in the order of their keys. -/
structure Lists (metadata : Metadata) (entries : List (String × Bytes)) :
    Prop where
  ordered : metadata.entries.Pairwise fun entry later => entry.1 < later.1
  perm : metadata.entries.Perm entries

theorem lists_empty : empty.Lists [] :=
  ⟨.nil, .refl _⟩

/-- There is one map of some pairs only. -/
theorem Lists.unique (lists : metadata.Lists entries)
    (others : result.Lists entries) : metadata = result := by
  have same : metadata.entries = result.entries :=
    List.Perm.eq_of_pairwise
      (fun _ _ _ _ less more => absurd less (lt_asymm more))
      lists.ordered others.ordered (lists.perm.trans others.perm.symm)
  rcases metadata with ⟨listed⟩
  rcases result with ⟨others⟩
  cases same
  rfl

/-- A key does not occur if it differs from all that do. -/
theorem has_eq_false_iff :
    metadata.has entry.1 = false ↔
      ∀ other ∈ metadata.entries, Differ other entry := by
  rw [has, get?, Option.isSome_map, Option.isSome_eq_false_iff,
    Option.isNone_iff_eq_none, List.find?_eq_none]
  exact forall₂_congr fun other _ => Bool.eq_false_iff.symm

theorem place_perm (entry : String × Bytes) (entries : List (String × Bytes)) :
    (place entry.1 entry.2 entries).Perm (entry :: entries) := by
  induction entries with
  | nil => exact .refl _
  | cons head rest hypothesis =>
      rw [place]
      split
      · exact .refl _
      · exact (hypothesis.cons head).trans (.swap entry head rest)

/-- A pair with another key comes to its place in the order. -/
theorem place_ordered
    (ordered : entries.Pairwise fun entry later => entry.1 < later.1)
    (new : ∀ other ∈ entries, other.1 ≠ entry.1) :
    (place entry.1 entry.2 entries).Pairwise
      fun entry later => entry.1 < later.1 := by
  induction entries with
  | nil => exact List.pairwise_singleton _ _
  | cons head rest hypothesis =>
      rw [List.pairwise_cons] at ordered
      rw [place]
      split
      · rename_i less
        refine .cons ?_ (.cons ordered.1 ordered.2)
        intro other present
        rcases List.mem_cons.1 present with rfl | later
        · exact less
        · exact less.trans (ordered.1 other later)
      · rename_i notLess
        refine .cons ?_ (hypothesis ordered.2 fun other present =>
          new other (List.mem_cons_of_mem head present))
        intro other present
        rcases List.mem_cons.1 ((place_perm entry rest).subset present) with
          rfl | later
        · exact lt_of_le_of_ne (not_lt.1 notLess) (new head List.mem_cons_self)
        · exact ordered.1 other later

/-- The map of some pairs and one more whose key differs from theirs. -/
theorem Lists.place (lists : metadata.Lists entries)
    (new : ∀ other ∈ entries, Differ other entry) :
    Lists ⟨Metadata.place entry.1 entry.2 metadata.entries⟩
      (entries ++ [entry]) where
  ordered := place_ordered lists.ordered fun other present =>
    (new other (lists.perm.subset present)).ne
  perm := (place_perm entry _).trans ((lists.perm.cons entry).trans
    (List.perm_append_singleton entry entries).symm)

/-- There is a map of any pairs whose keys differ. -/
theorem exists_lists (differ : entries.Pairwise Differ) :
    ∃ metadata : Metadata, metadata.Lists entries := by
  induction entries using List.reverseRecOn with
  | nil => exact ⟨empty, lists_empty⟩
  | append_singleton before entry hypothesis =>
      rw [List.pairwise_append] at differ
      rcases hypothesis differ.1 with ⟨metadata, lists⟩
      exact ⟨_, lists.place fun other present =>
        differ.2.2 other present entry List.mem_cons_self⟩

/--
A pair is inserted exactly if its key differs from all keys that are there, and
then it comes to its place.
-/
theorem insert?_eq_some_iff (lists : metadata.Lists entries) :
    metadata.insert? entry.1 entry.2 = some result ↔
      (∀ other ∈ entries, Differ other entry) ∧
        result = ⟨Metadata.place entry.1 entry.2 metadata.entries⟩ := by
  have differs : metadata.has entry.1 = false ↔
      ∀ other ∈ entries, Differ other entry := by
    rw [has_eq_false_iff]
    exact forall_congr' fun other => by rw [lists.perm.mem_iff]
  rw [← differs, insert?]
  cases metadata.has entry.1 with
  | true => simp
  | false => simp [eq_comm]

end ResumableUpload.Metadata
