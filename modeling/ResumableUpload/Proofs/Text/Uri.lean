import Mathlib.Data.List.TakeWhile
import ResumableUpload.Http.Uri
/-!
# The path of a reference

A reference gives nothing as its path, or an asterisk, or characters of a path
that begin with a slash; and except for a slash that stands for nothing they
stand in the reference: `Uri.of_path?`.  A text that looks like a path is a
reference, and it is its own path: `Uri.path?_of_path`.
-/

namespace ResumableUpload

namespace Uri

variable {url chars path rest : List Char}

/-- What the path of a reference looks like: nothing or an asterisk are some. -/
def IsPath (path : List Char) : Prop :=
  path = [] ∨ path = ['*'] ∨
    path.head? = some '/' ∧ ∀ c ∈ path, isPathChar c = true

theorem isPath_slash : IsPath ['/'] :=
  Or.inr (Or.inr ⟨rfl, List.all_eq_true.1 rfl⟩)

/-- A path is taken from a text that begins with one, or it is a slash. -/
theorem of_pathOfRelative? (read : pathOfRelative? chars = some path) :
    IsPath path ∧ (path <+: chars ∨ path = ['/']) := by
  rw [pathOfRelative?] at read
  split at read
  · rename_i asterisk
    cases read
    exact ⟨Or.inr (Or.inl rfl), Or.inl (asterisk ▸ List.prefix_refl _)⟩
  · split at read
    · cases read
    · rename_i begins
      simp only [Option.ite_none_right_eq_some, Bool.and_eq_true,
        Option.some.injEq] at read
      obtain ⟨⟨all, -⟩, rfl⟩ := read
      have before := List.takeWhile_prefix (l := chars)
        fun c => c != '?' && c != '#'
      have first? := List.head?_takeWhile (l := chars)
        (p := fun c => c != '?' && c != '#')
      generalize chars.takeWhile (fun c => c != '?' && c != '#') = start
        at all before first? ⊢
      cases start with
      | nil => exact ⟨isPath_slash, Or.inr rfl⟩
      | cons first others =>
          obtain ⟨first?, apart⟩ := Option.filter_eq_some_iff.1 first?.symm
          have slash : first = '/' := by
            rw [first?] at begins
            simp only [Option.any_some, endsAuthority, Bool.not_eq_true',
              Bool.not_eq_false, Bool.or_eq_true, decide_eq_true_eq] at begins
            simp only [Bool.and_eq_true, bne_iff_ne] at apart
            exact (begins.resolve_right apart.2).resolve_right apart.1
          exact ⟨Or.inr (Or.inr ⟨congrArg some slash, List.all_eq_true.1 all⟩),
            Or.inl before⟩

/-- What follows a scheme is the end of the text. -/
theorem suffix_of_schemeOf (found : schemeOf chars = .found rest) :
    rest <:+ chars := by
  rw [schemeOf] at found
  split at found
  · cases found
    exact List.drop_suffix 7 chars
  · split at found
    · cases found
      exact List.drop_suffix 8 chars
    · split at found
      · cases found
      · simp only at found
        split at found
        · rename_i after
          split at found
          · cases found
          · cases found
            have ending := List.drop_suffix
              (chars.takeWhile isSchemeChar).length chars
            rw [after] at ending
            exact List.IsSuffix.trans ⟨[':', '/', '/'], rfl⟩ ending
        · cases found

/-- The path of a reference stands in it, or it is a slash. -/
theorem of_path? (read : path? url = some path) :
    Split.byteLength url ≤ maxLength ∧ IsPath path ∧
      (path <:+: url ∨ path = ['/']) := by
  have relative {chars : List Char} (within : chars <:+ url)
      (read : pathOfRelative? chars = some path) :
      IsPath path ∧ (path <:+: url ∨ path = ['/']) := by
    rcases of_pathOfRelative? read with ⟨form, begins | single⟩
    · exact ⟨form, Or.inl (begins.isInfix.trans within.isInfix)⟩
    · exact ⟨form, Or.inr single⟩
  rw [path?] at read
  split at read
  · cases read
  · rename_i bounded
    rw [Bool.or_eq_true, not_or, decide_eq_true_eq, Nat.not_lt] at bounded
    refine ⟨bounded.2, ?_⟩
    · split at read
      · rename_i single
        cases read
        rw [Bool.or_eq_true, decide_eq_true_eq, decide_eq_true_eq] at single
        rcases single with rfl | rfl
        · exact ⟨isPath_slash, Or.inr rfl⟩
        · exact ⟨Or.inr (Or.inl rfl), Or.inl (List.infix_refl _)⟩
      · split at read
        · exact relative (List.suffix_refl url) read
        · split at read
          · cases read
          · split at read
            · cases read
              exact ⟨Or.inl rfl, Or.inl List.nil_infix⟩
            · cases read
          · rename_i rest scheme
            simp only at read
            split at read
            · cases read
            · split at read
              · cases read
                exact ⟨isPath_slash, Or.inr rfl⟩
              · refine relative ?_ read
                exact (List.drop_suffix _ rest).trans
                  (suffix_of_schemeOf scheme)

/-- A text that looks like a path and is not too long is its own path. -/
theorem path?_of_path (begins : chars.head? = some '/')
    (all : ∀ c ∈ chars, isPathChar c = true)
    (short : Split.byteLength chars ≤ maxLength) :
    path? chars = some chars := by
  have present : chars.isEmpty = false := by
    cases chars with
    | nil => cases begins
    | cons => rfl
  rw [path?, present, if_neg (by simpa using short)]
  split
  · rfl
  · have whole : chars.takeWhile (fun c => c != '?' && c != '#') = chars := by
      refine List.takeWhile_eq_self_iff.2 fun c present => ?_
      have shown := all c present
      rw [Bool.and_eq_true, bne_iff_ne, bne_iff_ne]
      constructor <;>
      · rintro rfl
        exact absurd shown (by decide)
    rw [pathOfRelative?, if_neg, if_neg]
    · simp only [whole, List.drop_length]
      rw [if_pos, present]
      · rfl
      · simpa using all
    · rw [begins]; decide
    · rintro rfl; cases begins

end Uri

end ResumableUpload
