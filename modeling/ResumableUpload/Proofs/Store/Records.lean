import ResumableUpload.Store.Call
/-!
# Records of a store

What the operations of a store do to what is found under an id.  A change of
one record is described by `Store.AltersAt`: everything but that record is as
it was.

The ids of a store that began empty are numbered: they are all different, and
each was given to one of the uploads created so far.  So an id that has gone
does not come back.
-/

namespace ResumableUpload.Store

variable {store : Store} {id other : String}

/-! ## Finding -/

theorem has_iff_find? :
    store.has id = true ↔ (store.find? id).isSome = true := by
  rw [has, find?, Option.isSome_map, List.find?_isSome, List.any_eq_true]

theorem has_of_find? {upload : Upload} (found : store.find? id = some upload) :
    store.has id = true :=
  has_iff_find?.2 (by rw [found]; rfl)

theorem find?_eq_none_of_not_has (absent : store.has id = false) :
    store.find? id = none := by
  cases found : store.find? id with
  | none => rfl
  | some upload => simp [has_of_find? found] at absent

theorem exists_find?_of_has (present : store.has id = true) :
    ∃ upload, store.find? id = some upload :=
  Option.isSome_iff_exists.1 (has_iff_find?.1 present)

/-- The ids of the uploads, in order. -/
def ids (store : Store) : List String :=
  store.uploads.map Prod.fst

theorem mem_ids_of_find? {upload : Upload}
    (found : store.find? id = some upload) : id ∈ store.ids := by
  rcases Option.map_eq_some_iff.1 found with ⟨entry, here, rfl⟩
  have same : entry.1 = id := by simpa using List.find?_some here
  exact List.mem_map.2 ⟨entry, List.mem_of_find?_eq_some here, same⟩

theorem exists_find?_of_mem_ids (present : id ∈ store.ids) :
    ∃ upload, store.find? id = some upload := by
  rcases List.mem_map.1 present with ⟨entry, here, named⟩
  cases there : store.find? id with
  | some upload => exact ⟨upload, rfl⟩
  | none =>
      have gone := List.find?_eq_none.1 (Option.map_eq_none_iff.1 there)
      exact absurd (beq_iff_eq.2 named) (gone entry here)

/-! ## Operations -/

theorem find?_insert (upload : Upload) :
    (store.insert upload).2.find? id
      = (store.find? id).or
          (if idOf store.created = id then some upload else none) := by
  simp only [insert, find?, List.find?_append, Option.map_or]
  by_cases same : idOf store.created = id
  · simp [same]
  · have apart : (idOf store.created == id) = false := by simpa using same
    simp [same, apart]

theorem find?_modify (change : Upload → Upload) :
    (store.modify id change).find? other
      = if other = id then (store.find? id).map change
        else store.find? other := by
  simp only [modify, find?, List.find?_map, Option.map_map]
  have keys : ((fun entry : String × Upload => entry.1 == other) ∘
      fun entry => if entry.1 == id then (entry.1, change entry.2) else entry)
      = fun entry => entry.1 == other := by
    funext entry
    by_cases here : entry.1 = id <;> simp [here]
  rw [keys]
  by_cases same : other = id
  · subst same
    rw [if_pos rfl]
    cases found : store.uploads.find? (·.1 == other) with
    | none => rfl
    | some entry =>
        have here : entry.1 = other := by simpa using List.find?_some found
        simp [here]
  · rw [if_neg same]
    cases found : store.uploads.find? (·.1 == other) with
    | none => rfl
    | some entry =>
        have here : entry.1 = other := by simpa using List.find?_some found
        simp [here, same]

theorem find?_modify_self (change : Upload → Upload) :
    (store.modify id change).find? id = (store.find? id).map change := by
  rw [find?_modify, if_pos rfl]

theorem find?_erase :
    (store.erase id).find? other
      = if other = id then none else store.find? other := by
  simp only [erase, find?, List.find?_filter]
  by_cases same : other = id
  · subst same
    simp
  · rw [if_neg same]
    congr 2
    funext entry
    by_cases here : entry.1 = other <;> simp [here, same]

@[simp]
theorem ids_insert (upload : Upload) :
    (store.insert upload).2.ids = store.ids ++ [idOf store.created] := by
  simp [insert, ids]

@[simp]
theorem ids_modify (change : Upload → Upload) :
    (store.modify id change).ids = store.ids := by
  simp only [ids, modify, List.map_map]
  apply List.map_congr_left
  intro entry _
  by_cases here : entry.1 = id <;> simp [here]

theorem ids_erase_sublist : (store.erase id).ids.Sublist store.ids :=
  List.filter_sublist.map Prod.fst

theorem ids_sweep_sublist (now : Instant) :
    (store.sweep now).ids.Sublist store.ids :=
  List.filter_sublist.map Prod.fst

/-! ## Changes of one record -/

/-- Everything but the record of one upload is as it was. -/
structure AltersAt (id : String) (before after : Store) : Prop where
  created : after.created = before.created
  ids : after.ids = before.ids
  others : ∀ other, other ≠ id → after.find? other = before.find? other

namespace AltersAt

variable {before middle after : Store}

theorem refl (id : String) (store : Store) : AltersAt id store store :=
  ⟨rfl, rfl, fun _ _ => rfl⟩

theorem trans (first : AltersAt id before middle)
    (second : AltersAt id middle after) : AltersAt id before after where
  created := second.created.trans first.created
  ids := second.ids.trans first.ids
  others other apart := (second.others other apart).trans
    (first.others other apart)

theorem modify (store : Store) (id : String) (change : Upload → Upload) :
    AltersAt id store (store.modify id change) where
  created := rfl
  ids := ids_modify change
  others other apart := by rw [find?_modify, if_neg apart]

end AltersAt

/-! ## Numbered stores -/

/-- An upload is known by the number of uploads that were created before it. -/
theorem idOf_injective {number other : Nat} (same : idOf number = idOf other) :
    number = other := by
  have digits : Nat.toDigits 10 number = Nat.toDigits 10 other := by
    have chars := congrArg String.toList same
    simpa [idOf, Nat.toList_repr] using chars
  have values := congrArg (Nat.ofDigitChars 10 · 0) digits
  simpa only [Nat.ofDigitChars_toDigits (by decide : 1 < 10) (by decide)]
    using values

/--
All ids are different, and each was given to one of the uploads created so far.
-/
structure IsNumbered (store : Store) : Prop where
  distinct : store.ids.Nodup
  given : ∀ id ∈ store.ids, ∃ number < store.created, idOf number = id

namespace IsNumbered

theorem empty : IsNumbered {} :=
  ⟨List.nodup_nil, fun _ absent => absurd absent (List.not_mem_nil)⟩

/-- The id of the next upload has not been given. -/
theorem not_mem_next (numbered : store.IsNumbered) {number : Nat}
    (later : store.created ≤ number) : idOf number ∉ store.ids := by
  intro present
  rcases numbered.given _ present with ⟨earlier, less, same⟩
  have := idOf_injective same
  omega

theorem find?_next (numbered : store.IsNumbered) {number : Nat}
    (later : store.created ≤ number) : store.find? (idOf number) = none := by
  cases found : store.find? (idOf number) with
  | none => rfl
  | some upload =>
      exact absurd (mem_ids_of_find? found) (numbered.not_mem_next later)

theorem insert (numbered : store.IsNumbered) (upload : Upload) :
    (store.insert upload).2.IsNumbered where
  distinct := by
    rw [ids_insert, List.nodup_append]
    refine ⟨numbered.distinct, List.pairwise_singleton _ _, ?_⟩
    intro id present next here same
    rw [List.mem_singleton.1 here] at same
    exact numbered.not_mem_next (Nat.le_refl _) (same ▸ present)
  given id present := by
    rw [ids_insert, List.mem_append] at present
    rcases present with present | next
    · rcases numbered.given id present with ⟨number, less, same⟩
      exact ⟨number, Nat.lt_succ_of_lt less, same⟩
    · exact ⟨store.created, Nat.lt_succ_self _,
        (List.mem_singleton.1 next).symm⟩

theorem of_sublist {after : Store} (numbered : store.IsNumbered)
    (created : after.created = store.created)
    (fewer : after.ids.Sublist store.ids) : after.IsNumbered where
  distinct := numbered.distinct.sublist fewer
  given id present := by
    rw [created]
    exact numbered.given id (fewer.subset present)

end IsNumbered

theorem AltersAt.isNumbered {before after : Store}
    (alters : AltersAt id before after) (numbered : before.IsNumbered) :
    after.IsNumbered :=
  numbered.of_sublist alters.created
    (alters.ids ▸ List.Sublist.refl before.ids)

/-- Sweeping a store removes the dead records and no other. -/
theorem find?_sweep (distinct : store.ids.Nodup) (now : Instant) :
    (store.sweep now).find? id
      = (store.find? id).filter fun upload => !upload.isDead now := by
  rcases store with ⟨uploads, created⟩
  simp only [sweep, find?, ids] at distinct ⊢
  induction uploads with
  | nil => rfl
  | cons entry later hypothesis =>
      rw [List.map_cons, List.nodup_cons] at distinct
      have apart := hypothesis distinct.2
      by_cases same : entry.1 = id
      · have gone : later.find? (·.1 == id) = none := by
          rw [List.find?_eq_none]
          intro other present here
          refine distinct.1 (List.mem_map.2 ⟨other, present, ?_⟩)
          rw [same]
          simpa using here
        rw [gone] at apart
        cases dead : entry.2.isDead now with
        | true =>
            rw [List.filter_cons_of_neg (by simp [dead]), apart]
            simp [same, Option.filter_some, dead]
        | false =>
            rw [List.filter_cons_of_pos (by simp [dead])]
            simp [same, Option.filter_some, dead]
      · have skipped : (entry.1 == id) = false := by simpa using same
        rw [List.find?_cons, skipped]
        cases dead : entry.2.isDead now with
        | true =>
            rw [List.filter_cons_of_neg (by simp [dead])]
            exact apart
        | false =>
            rw [List.filter_cons_of_pos (by simp [dead]), List.find?_cons,
              skipped]
            exact apart

end ResumableUpload.Store
