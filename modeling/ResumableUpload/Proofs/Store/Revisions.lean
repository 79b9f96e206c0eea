import ResumableUpload.Proofs.Store.Records
/-!
# Revisions of one record

A change of one record and the removal of it are revisions of that record.
Revisions of different records commute, by `Store.revise_comm`; and a call that
concerns one upload alone is answered as the record of that upload makes it,
and does nothing to a store but to revise that record, by
`Store.answer_isLocal`.
-/

namespace ResumableUpload

namespace Store

variable {store : Store} {id other : String}

/-- The store with the upload of an id changed or, without a change, removed. -/
def revise (store : Store) (id : String)
    (change? : Option (Upload → Upload)) : Store :=
  { store with
    uploads := store.uploads.filterMap fun entry =>
      if entry.1 == id then change?.map fun change => (entry.1, change entry.2)
      else some entry }

theorem modify_eq_revise (store : Store) (id : String)
    (change : Upload → Upload) :
    store.modify id change = store.revise id (some change) := by
  rw [modify, revise]
  congr 1
  rw [← List.filterMap_eq_map]
  congr 1
  funext entry
  by_cases here : entry.1 = id <;> simp [here]

theorem erase_eq_revise (store : Store) (id : String) :
    store.erase id = store.revise id none := by
  rw [erase, revise]
  congr 1
  rw [← List.filterMap_eq_filter]
  congr 1
  funext entry
  by_cases here : entry.1 = id <;> simp [here, Option.guard]

/-- A revision that changes nothing. -/
@[simp]
theorem revise_same (store : Store) (id : String) :
    store.revise id (some fun upload => upload) = store := by
  simp [revise]

/-- One revision after another is a revision. -/
theorem revise_revise (store : Store) (id : String)
    (first second : Option (Upload → Upload)) :
    (store.revise id first).revise id second
      = store.revise id (first.bind fun earlier =>
          second.map fun later => later ∘ earlier) := by
  simp only [revise, List.filterMap_filterMap]
  congr 2
  funext entry
  by_cases here : entry.1 = id
  · cases first with
    | none => simp [here]
    | some change => cases second <;> simp [here]
  · simp [here]

/-- Revisions of different uploads can be made in either order. -/
theorem revise_comm (store : Store) (apart : id ≠ other)
    (first second : Option (Upload → Upload)) :
    (store.revise id first).revise other second
      = (store.revise other second).revise id first := by
  simp only [revise, List.filterMap_filterMap]
  congr 2
  funext entry
  by_cases here : entry.1 = id
  · have elsewhere : ¬entry.1 = other := fun same => apart (here ▸ same)
    cases first <;> simp [here, apart]
  · by_cases there : entry.1 = other
    · cases second <;> simp [there, Ne.symm apart]
    · simp [here, there]

theorem find?_revise (store : Store) (id other : String)
    (change? : Option (Upload → Upload)) :
    (store.revise id change?).find? other
      = if other = id then change?.bind fun change =>
          (store.find? id).map change
        else store.find? other := by
  cases change? with
  | none => rw [← erase_eq_revise, find?_erase]; rfl
  | some change => rw [← modify_eq_revise, find?_modify]; rfl

theorem find?_revise_of_ne (store : Store) (apart : other ≠ id)
    (change? : Option (Upload → Upload)) :
    (store.revise id change?).find? other = store.find? other := by
  rw [find?_revise, if_neg apart]

/-- Where the records were the same, they are the same after a revision. -/
theorem find?_revise_congr {first second : Store}
    (same : second.find? id = first.find? id)
    (change? : Option (Upload → Upload)) :
    (second.revise id change?).find? id
      = (first.revise id change?).find? id := by
  rw [find?_revise, find?_revise, if_pos rfl, if_pos rfl, same]

theorem has_eq_isSome (store : Store) (id : String) :
    store.has id = (store.find? id).isSome := by
  rw [Bool.eq_iff_iff]
  exact has_iff_find?

end Store

/-! ## Calls that concern one upload -/

/-- Whether a call has to do with one upload alone. -/
def Call.Concerns (id : String) : Call → Prop
  | .has other | .delete other => other = id
  | .algorithms => True
  | asked => asked.record? = some id

/--
What is answered about an upload, and what becomes of a store, depends on one
record alone.
-/
def Store.IsLocal {α : Type} (id : String) (record : Option Upload)
    (answers : Store → α × Store) : Prop :=
  ∃ reply change?, ∀ store, store.find? id = record →
    answers store = (reply, store.revise id change?)

namespace Store.IsLocal

variable {α : Type} {id : String} {record : Option Upload}
  {answers : Store → α × Store}

theorem keeps (reply : α)
    (asks : ∀ store, store.find? id = record → answers store = (reply, store)) :
    IsLocal id record answers :=
  ⟨reply, some fun upload => upload, fun store found => by
    rw [asks store found, revise_same]⟩

theorem modifies (reply : α) (change : Upload → Upload)
    (changes : ∀ store, store.find? id = record →
      answers store = (reply, store.modify id change)) :
    IsLocal id record answers :=
  ⟨reply, some change, fun store found => by
    rw [changes store found, modify_eq_revise]⟩

theorem erases (reply : α)
    (removes : ∀ store, store.find? id = record →
      answers store = (reply, store.erase id)) :
    IsLocal id record answers :=
  ⟨reply, none, fun store found => by
    rw [removes store found, erase_eq_revise]⟩

/-- A question about an upload. -/
theorem ask (id : String) (record : Option Upload) (answer : Upload → α) :
    IsLocal id record fun store => store.ask id answer := by
  cases record with
  | none =>
      exact keeps (.error (.missing id)) fun store found => by
        simp only [Store.ask, found]
  | some upload =>
      exact keeps (.ok (answer upload)) fun store found => by
        simp only [Store.ask, found]

end Store.IsLocal

/--
A call that concerns one upload is answered as the record of that upload makes
it, and revises no other.
-/
theorem Store.answer_isLocal {asked : Call} {id : String}
    (concerns : asked.Concerns id) (record : Option Upload) (now : Instant) :
    IsLocal id record fun store => store.answer now asked := by
  have absent {store : Store} (found : store.find? id = none) :
      store.has id = false := by rw [has_eq_isSome, found]; rfl
  have present {store : Store} {upload : Upload}
      (found : store.find? id = some upload) : store.has id = true :=
    has_of_find? found
  cases asked with
  | has other =>
      cases concerns
      exact .keeps (.ok record.isSome) fun store found => by
        rw [answer, has_eq_isSome, found]
  | length other | offset other | metadata other | part other | expiry other =>
      cases concerns
      exact .ask id record _
  | read other =>
      cases concerns
      exact .keeps _ fun store found => by rw [answer, found]
  | delete other =>
      cases concerns
      cases record with
      | none =>
          exact .keeps (.error (.missing id)) fun store found => by
            simp [answer, absent found]
      | some upload =>
          exact .erases (.ok ()) fun store found => by
            simp [answer, present found]
  | setLength other length =>
      cases concerns
      cases record with
      | none =>
          exact .keeps (.error (.missing id)) fun store found => by
            simp only [answer, setLength, found]
      | some upload =>
          cases known : upload.length with
          | some length =>
              exact .keeps (.error (.refused .lengthKnown))
                fun store found => by
                  simp [answer, setLength, found, known]
          | none =>
              exact .modifies (.ok ()) _ fun store found => by
                simp only [answer, setLength, found, known]
                rfl
  | setExpiry other expiry =>
      cases concerns
      cases record with
      | none =>
          exact .keeps (.error (.missing id)) fun store found => by
            simp [answer, change, absent found]
      | some upload =>
          exact .modifies (.ok ()) _ fun store found => by
            simp only [answer, change, present found]
            rfl
  | algorithms => exact .keeps _ fun store _ => rfl
  | verify other algorithm hash =>
      cases concerns
      cases record with
      | none =>
          exact .keeps (.error (.missing id)) fun store found => by
            simp only [answer, verify, found]
      | some upload =>
          exact .modifies _ _ fun store found => by
            simp only [answer, verify, found]
            rfl
  | _ => cases concerns

end ResumableUpload
