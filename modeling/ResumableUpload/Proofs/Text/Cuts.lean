import ResumableUpload.Text.Blank
import ResumableUpload.Text.Split
/-!
# Cutting and trimming

A text that is cut at each separator is cut in the way of the standard library,
so cutting undoes joining.  Trimming takes white space off both ends until there
is none at either, and then there is nothing more to trim:
`Blank.trimmed_trimmed`.
-/

namespace ResumableUpload

/-! ## Pieces -/

namespace Split

variable {separator : Char} {chars first rest : List Char}

theorem pieces_eq_splitOn (separator : Char) (chars : List Char) :
    pieces separator chars = chars.splitOn separator := by
  induction chars with
  | nil => rfl
  | cons c rest hypothesis =>
      rw [pieces, List.splitOn, List.splitOnP_cons_eq_if_modifyHead, hypothesis]
      simp only [beq_iff_eq]
      split
      · rfl
      · have some := List.splitOn_ne_nil separator rest
        change _ = List.modifyHead (List.cons c) (rest.splitOn separator)
        cases pieces : rest.splitOn separator with
        | nil => exact absurd pieces some
        | cons piece others => rfl

theorem pieces_ne_nil (separator : Char) (chars : List Char) :
    pieces separator chars ≠ [] := by
  rw [pieces_eq_splitOn]
  exact List.splitOn_ne_nil separator chars

/-- Joined texts are cut where they were joined. -/
theorem pieces_intercalate {texts : List (List Char)} (some : texts ≠ [])
    (unbroken : ∀ text ∈ texts, separator ∉ text) :
    pieces separator ([separator].intercalate texts) = texts := by
  rw [pieces_eq_splitOn]
  exact List.splitOn_intercalate separator unbroken some

theorem pieces_of_not_mem (unbroken : separator ∉ chars) :
    pieces separator chars = [chars] := by
  induction chars with
  | nil => rfl
  | cons c others hypothesis =>
      rw [List.mem_cons, not_or] at unbroken
      rw [pieces, if_neg (Ne.symm unbroken.1), hypothesis unbroken.2]

theorem pieces_append_cons (unbroken : separator ∉ first) :
    pieces separator (first ++ separator :: rest)
      = first :: pieces separator rest := by
  induction first with
  | nil => exact if_pos rfl
  | cons c others hypothesis =>
      rw [List.mem_cons, not_or] at unbroken
      rw [List.cons_append, pieces, if_neg (Ne.symm unbroken.1),
        hypothesis unbroken.2]

/-- No piece contains the separator. -/
theorem not_mem_of_mem_pieces {piece : List Char}
    (present : piece ∈ pieces separator chars) : separator ∉ piece := by
  induction chars generalizing piece with
  | nil =>
      rw [pieces, List.mem_singleton] at present
      exact present ▸ List.not_mem_nil
  | cons c others hypothesis =>
      rw [pieces] at present
      split at present
      · rcases List.mem_cons.1 present with rfl | later
        · exact List.not_mem_nil
        · exact hypothesis later
      · rename_i apart
        cases cut : pieces separator others with
        | nil => exact absurd cut (pieces_ne_nil separator others)
        | cons head later =>
            rw [cut] at present hypothesis
            rcases List.mem_cons.1 present with rfl | present
            · rw [List.mem_cons, not_or]
              exact ⟨Ne.symm apart, hypothesis List.mem_cons_self⟩
            · exact hypothesis (List.mem_cons_of_mem head present)

end Split

/-! ## White space at the ends -/

namespace Blank

variable {chars rest : List Char} {c : Char}

/-- What is left after leading white space does not begin with white space. -/
theorem not_isBlank_of_dropWhile_eq_cons
    (left : chars.dropWhile isBlank = c :: rest) : isBlank c = false := by
  have first := List.head?_dropWhile_not isBlank chars
  rw [left] at first
  exact first

theorem dropWhile_eq_nil_iff :
    chars.dropWhile isBlank = [] ↔ ∀ c ∈ chars, isBlank c = true := by
  induction chars with
  | nil => simp
  | cons c others hypothesis =>
      rw [List.dropWhile_cons, List.forall_mem_cons]
      split
      · rename_i blank
        rw [hypothesis, and_iff_right blank]
      · rename_i shown
        simp [shown]

/-- White space alone is trimmed to nothing. -/
theorem trimmed_eq_nil_iff :
    trimmed chars = [] ↔ ∀ c ∈ chars, isBlank c = true := by
  rw [← dropWhile_eq_nil_iff, trimmed, List.reverse_eq_nil_iff,
    dropWhile_eq_nil_iff]
  constructor
  · intro blank
    cases left : chars.dropWhile isBlank with
    | nil => rfl
    | cons c rest =>
        rw [left] at blank
        have shown := not_isBlank_of_dropWhile_eq_cons left
        rw [blank c (by simp)] at shown
        cases shown
  · intro none c present
    rw [none] at present
    cases present

/-- Trimming takes characters away at the end of what begins with no blank. -/
theorem trimmed_isPrefix (chars : List Char) :
    trimmed chars <+: chars.dropWhile isBlank := by
  have suffix := List.dropWhile_suffix isBlank
    (l := (chars.dropWhile isBlank).reverse)
  exact List.reverse_suffix.1 (by rwa [trimmed, List.reverse_reverse])

theorem mem_of_mem_trimmed (present : c ∈ trimmed chars) : c ∈ chars :=
  (List.dropWhile_sublist isBlank).subset
    ((trimmed_isPrefix chars).subset present)

theorem not_isBlank_of_trimmed_eq_cons (begins : trimmed chars = c :: rest) :
    isBlank c = false := by
  rcases trimmed_isPrefix chars with ⟨after, split⟩
  rw [begins, List.cons_append] at split
  exact not_isBlank_of_dropWhile_eq_cons split.symm

theorem not_isBlank_of_trimmed_eq_concat (ends : trimmed chars = rest ++ [c]) :
    isBlank c = false := by
  have reversed := congrArg List.reverse ends
  rw [trimmed, List.reverse_reverse, List.reverse_append,
    List.reverse_singleton, List.singleton_append] at reversed
  exact not_isBlank_of_dropWhile_eq_cons reversed

/-- There is nothing to trim of what does not begin or end with white space. -/
theorem trimmed_eq_self
    (begins : ∀ c rest, chars = c :: rest → isBlank c = false)
    (ends : ∀ rest c, chars = rest ++ [c] → isBlank c = false) :
    trimmed chars = chars := by
  have whole {chars : List Char}
      (begins : ∀ c rest, chars = c :: rest → isBlank c = false) :
      chars.dropWhile isBlank = chars := by
    cases chars with
    | nil => rfl
    | cons c rest =>
        exact List.dropWhile_cons_of_neg
          (Bool.eq_false_iff.1 (begins c rest rfl))
  rw [trimmed, whole begins, whole, List.reverse_reverse]
  intro c rest reversed
  apply ends rest.reverse c
  rw [← List.reverse_cons, ← reversed, List.reverse_reverse]

/-- What has been trimmed is not trimmed further. -/
theorem trimmed_trimmed (chars : List Char) :
    trimmed (trimmed chars) = trimmed chars :=
  trimmed_eq_self (fun _ _ => not_isBlank_of_trimmed_eq_cons)
    fun _ _ => not_isBlank_of_trimmed_eq_concat

end Blank

end ResumableUpload
