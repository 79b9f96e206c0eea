import ResumableUpload.Concatenation
import ResumableUpload.Store.Basic
/-!
# Addresses of uploads

The address under which an upload is announced is an address under which it is
found: `Address.ofPath_addressOf`.  This takes an id that can stand in a path,
and every id that a store gives can: `Store.idOf_isSegment`.
-/

namespace ResumableUpload

namespace Split

theorem byteLength_cons (c : Char) (rest : List Char) :
    byteLength (c :: rest) = c.utf8Size + byteLength rest := by
  have counted (count : Nat) (chars : List Char) :
      chars.foldl (fun count c => count + c.utf8Size) count
        = count + byteLength chars := by
    induction chars generalizing count with
    | nil => rfl
    | cons first later hypothesis =>
        rw [byteLength, List.foldl_cons, List.foldl_cons, hypothesis,
          hypothesis]
        omega
  rw [byteLength, List.foldl_cons, counted]
  omega

/-- A text is cut behind its beginning by the length of that. -/
theorem atByte?_append (start rest : List Char) :
    atByte? (byteLength start) (start ++ rest) = some (start, rest) := by
  induction start with
  | nil =>
      cases rest <;> rfl
  | cons c start hypothesis =>
      have positive := c.utf8Size_pos
      rw [byteLength_cons]
      obtain ⟨count, length⟩ : ∃ count,
          c.utf8Size + byteLength start = count + 1 :=
        ⟨c.utf8Size + byteLength start - 1, by omega⟩
      have left : count + 1 - c.utf8Size = byteLength start := by omega
      rw [length, List.cons_append, atByte?, if_pos (by omega), left,
        hypothesis]
      rfl

/-- Nothing is trimmed where the last character is another one. -/
theorem trimEnd_append {trailing last : Char} (apart : last ≠ trailing)
    (chars : List Char) :
    trimEnd trailing (chars ++ [last]) = chars ++ [last] := by
  rw [trimEnd, List.reverse_append]
  simp [apart]

end Split

theorem Ascii.same_refl (chars : List Char) : same chars chars = true :=
  same_iff.2 rfl

/-- Lists that are the same up to the case of letters have the same length. -/
theorem Ascii.length_of_same {left right : List Char}
    (alike : same left right = true) : left.length = right.length := by
  simpa using congrArg List.length (same_iff.1 alike)

/-- An id that can stand in a path. -/
def Address.IsSegment (id : String) : Prop :=
  id.toList ≠ [] ∧ '/' ∉ id.toList

/-- The address of an upload is found to be one of that upload. -/
theorem Address.ofPath_addressOf {id : String} (segment : IsSegment id)
    (urlPath : String) :
    ofPath urlPath (addressOf urlPath id) = .upload id := by
  rcases segment with ⟨present, free⟩
  have path : (addressOf urlPath id).toList
      = baseChars urlPath ++ '/' :: id.toList := by
    simp [addressOf]
  obtain ⟨chars, last, split⟩ :=
    List.eq_nil_or_concat id.toList |>.resolve_left present
  have apart : last ≠ '/' := by
    rintro rfl
    exact free (by simp [split])
  have trimmed : Split.trimEnd '/' (addressOf urlPath id).toList
      = baseChars urlPath ++ '/' :: id.toList := by
    rw [path, split, List.concat_eq_append, ← List.cons_append,
      ← List.append_assoc]
    exact Split.trimEnd_append apart _
  have longer : Ascii.same (baseChars urlPath ++ '/' :: id.toList)
      (baseChars urlPath) = false := by
    refine Bool.eq_false_iff.2 fun alike => ?_
    have := Ascii.length_of_same alike
    simp at this
  rw [ofPath, trimmed, longer, below?, Split.atByte?_append]
  simp only [Ascii.same_refl, if_true, Bool.false_eq_true, if_false]
  have whole : (!id.toList.isEmpty && !id.toList.contains '/') = true := by
    simp [present, free]
  rw [if_pos whole, String.ofList_toList]

theorem Address.uploadId?_addressOf {id : String} (segment : IsSegment id)
    (urlPath : String) :
    uploadId? urlPath (addressOf urlPath id) = some id := by
  rw [uploadId?, ofPath_addressOf segment]

/-- The ids of a store can stand in paths. -/
theorem Store.idOf_isSegment (number : Nat) :
    Address.IsSegment (idOf number) := by
  have chars : (idOf number).toList
      = '~' :: (Nat.toDigits 10 number ++ ['~']) := by
    simp [idOf, Nat.toList_repr]
  rw [Address.IsSegment, chars]
  refine ⟨List.cons_ne_nil _ _, fun present => ?_⟩
  have digit : '/' ∈ Nat.toDigits 10 number := by simpa using present
  exact absurd (Nat.isDigit_of_mem_toDigits (by decide) (by decide) digit)
    (by decide)

end ResumableUpload
