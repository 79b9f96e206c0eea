import Mathlib.Data.List.TakeWhile
import ResumableUpload.Proofs.Solo.Address
import ResumableUpload.Text.Blank
/-!
# Places in a text

A text is cut at a number of bytes where some beginning of it is that long, and
nowhere else: `Split.atByte?_eq_some_iff`.  Texts that are the same up to the
case of letters are equally long in bytes, so a place found in one of them is a
place in the other.  A character is trimmed off an end until another one stands
there, and words are cut at white space.
-/

namespace ResumableUpload

/-! ## Bytes -/

namespace Split

variable {chars start rest stem : List Char} {count : Nat} {c : Char}

theorem byteLength_append (start rest : List Char) :
    byteLength (start ++ rest) = byteLength start + byteLength rest := by
  induction start with
  | nil => simp [byteLength]
  | cons c start hypothesis =>
      rw [List.cons_append, byteLength_cons, hypothesis, byteLength_cons]
      omega

theorem byteLength_pos (some : chars ≠ []) : 0 < byteLength chars := by
  cases chars with
  | nil => exact absurd rfl some
  | cons c rest =>
      have positive := c.utf8Size_pos
      rw [byteLength_cons]
      omega

/-- A cut at a number of bytes is a beginning of that length and the rest. -/
theorem atByte?_eq_some_iff :
    atByte? count chars = some (start, rest) ↔
      chars = start ++ rest ∧ byteLength start = count := by
  constructor
  · intro cut
    induction chars generalizing count start with
    | nil =>
        cases count with
        | zero =>
            cases cut
            exact ⟨rfl, rfl⟩
        | succ count => cases cut
    | cons c others hypothesis =>
        cases count with
        | zero =>
            cases cut
            exact ⟨rfl, rfl⟩
        | succ count =>
            rw [atByte?] at cut
            split at cut
            · rename_i fits
              rcases Option.map_eq_some_iff.1 cut with
                ⟨⟨first, after⟩, inner, same⟩
              cases same
              rcases hypothesis inner with ⟨split, length⟩
              refine ⟨congrArg (List.cons c) split, ?_⟩
              rw [byteLength_cons, length]
              omega
            · cases cut
  · rintro ⟨rfl, rfl⟩
    exact atByte?_append start rest

/-- There is no cut where no beginning ends. -/
theorem atByte?_eq_none_iff :
    atByte? count chars = none ↔
      ∀ start, start <+: chars → byteLength start ≠ count := by
  rw [Option.eq_none_iff_forall_ne_some]
  constructor
  · rintro uncut start ⟨rest, rfl⟩ length
    exact uncut (start, rest) (atByte?_eq_some_iff.2 ⟨rfl, length⟩)
  · rintro unmet ⟨start, rest⟩ cut
    rcases atByte?_eq_some_iff.1 cut with ⟨rfl, length⟩
    exact unmet start (List.prefix_append start rest) length

/-- Where every character is one byte long, bytes are characters. -/
theorem byteLength_of_narrow (narrow : ∀ c ∈ chars, c.utf8Size = 1) :
    byteLength chars = chars.length := by
  induction chars with
  | nil => rfl
  | cons c rest hypothesis =>
      rw [byteLength_cons, narrow c List.mem_cons_self,
        hypothesis fun c later => narrow c (List.mem_cons_of_mem _ later),
        List.length_cons, Nat.add_comm]

/-- Such a text is cut at any place within it. -/
theorem atByte?_of_narrow (narrow : ∀ c ∈ chars, c.utf8Size = 1)
    (within : count ≤ chars.length) :
    atByte? count chars = some (chars.take count, chars.drop count) := by
  refine atByte?_eq_some_iff.2 ⟨(List.take_append_drop count chars).symm, ?_⟩
  rw [byteLength_of_narrow fun c first => narrow c (List.mem_of_mem_take first),
    List.length_take, Nat.min_eq_left within]

/-! ## Trimmed ends -/

/-- What does not end in the character is left of any number of them. -/
theorem trimEnd_append_replicate (apart : stem.getLast? ≠ some c)
    (count : Nat) : trimEnd c (stem ++ List.replicate count c) = stem := by
  have begins : (stem.reverse).dropWhile (· == c) = stem.reverse := by
    cases reversed : stem.reverse with
    | nil => rfl
    | cons last others =>
        rw [← List.head?_reverse, reversed, List.head?_cons] at apart
        exact List.dropWhile_cons_of_neg (by simpa using apart)
  rw [trimEnd, List.reverse_append, List.reverse_replicate,
    List.dropWhile_append_of_pos (by simp), begins, List.reverse_reverse]

/-- A character at the beginning of a text is there a number of times. -/
theorem takeWhile_eq_replicate (c : Char) (chars : List Char) :
    chars.takeWhile (· == c)
      = List.replicate (chars.takeWhile (· == c)).length c :=
  List.eq_replicate_iff.2
    ⟨rfl, fun first present => by simpa using List.mem_takeWhile_imp present⟩

theorem exists_eq_trimEnd_append (c : Char) (chars : List Char) :
    ∃ count, chars = trimEnd c chars ++ List.replicate count c := by
  refine ⟨(chars.reverse.takeWhile (· == c)).length, ?_⟩
  have trailing := takeWhile_eq_replicate c chars.reverse
  calc chars
      = (chars.reverse.takeWhile (· == c)
          ++ chars.reverse.dropWhile (· == c)).reverse := by
        rw [List.takeWhile_append_dropWhile, List.reverse_reverse]
    _ = trimEnd c chars ++ (chars.reverse.takeWhile (· == c)).reverse := by
        rw [List.reverse_append, trimEnd]
    _ = trimEnd c chars
          ++ List.replicate (chars.reverse.takeWhile (· == c)).length c := by
        rw [trailing, List.reverse_replicate, List.length_replicate]

/-- A text is trimmed to what is left before the last other character. -/
theorem trimEnd_eq_iff (apart : stem.getLast? ≠ some c) :
    trimEnd c chars = stem ↔
      ∃ count, chars = stem ++ List.replicate count c := by
  constructor
  · rintro rfl
    exact exists_eq_trimEnd_append c chars
  · rintro ⟨count, rfl⟩
    exact trimEnd_append_replicate apart count

theorem getLast?_ne_of_not_mem (free : c ∉ stem) : stem.getLast? ≠ some c :=
  fun last => free (List.mem_of_getLast? last)

/-- A stem without the character is what any of them around it leave. -/
theorem trimBoth_eq_iff (present : stem ≠ []) (free : c ∉ stem) :
    trimBoth c chars = stem ↔
      ∃ before after,
        chars = List.replicate before c ++ stem ++ List.replicate after c := by
  rw [trimBoth, trimEnd_eq_iff (getLast?_ne_of_not_mem free)]
  constructor
  · rintro ⟨after, trimmed⟩
    refine ⟨(chars.takeWhile (· == c)).length, after, ?_⟩
    rw [List.append_assoc, ← trimmed, ← takeWhile_eq_replicate,
      List.takeWhile_append_dropWhile]
  · rintro ⟨before, after, rfl⟩
    refine ⟨after, ?_⟩
    rw [List.append_assoc, List.dropWhile_append_of_pos (by simp)]
    cases stem with
    | nil => exact absurd rfl present
    | cons first others =>
        rw [List.mem_cons, not_or] at free
        exact List.dropWhile_cons_of_neg (by simpa using Ne.symm free.1)

/-- The characters before a stem without them are as many as it is said. -/
theorem takeWhile_of_stem (present : stem ≠ []) (free : c ∉ stem)
    (before : Nat) (rest : List Char) :
    (List.replicate before c ++ (stem ++ rest)).takeWhile (· == c)
      = List.replicate before c := by
  rw [List.takeWhile_append_of_pos (by simp)]
  cases stem with
  | nil => exact absurd rfl present
  | cons first others =>
      rw [List.mem_cons, not_or] at free
      have ends : (first :: (others ++ rest)).takeWhile (· == c) = [] :=
        List.takeWhile_cons_of_neg (by simpa using Ne.symm free.1)
      rw [List.cons_append, ends, List.append_nil]

/-! ## The first separator -/

/-- What is cut at a separator is the two parts with it between them. -/
theorem eq_append_of_atFirst? (cut : atFirst? c chars = some (start, rest)) :
    chars = start ++ c :: rest := by
  induction chars generalizing start with
  | nil => cases cut
  | cons first others hypothesis =>
      rw [atFirst?] at cut
      split at cut
      · rename_i separates
        cases cut
        rw [separates, List.nil_append]
      · rcases Option.map_eq_some_iff.1 cut with ⟨⟨before, after⟩, inner, same⟩
        cases same
        exact congrArg (List.cons first) (hypothesis inner)

theorem atFirst?_append_cons (free : c ∉ start) (rest : List Char) :
    atFirst? c (start ++ c :: rest) = some (start, rest) := by
  induction start with
  | nil => exact if_pos rfl
  | cons first others hypothesis =>
      rw [List.mem_cons, not_or] at free
      rw [List.cons_append, atFirst?, if_neg (Ne.symm free.1),
        hypothesis free.2]
      rfl

end Split

/-! ## The case of letters -/

namespace Ascii

variable {left right : List Char}

theorem utf8Size_lower (c : Char) : (lower c).utf8Size = c.utf8Size := by
  rw [lower]
  split
  · rename_i capital
    have bound : c.toNat ≤ 90 := capital.2
    have letters : ∀ code ≤ 90,
        (Char.ofNat (code + 32)).utf8Size = (Char.ofNat code).utf8Size := by
      decide
    rw [letters _ bound, Char.ofNat_toNat]
  · rfl

/-- Texts that are the same up to the case of letters are equally long. -/
theorem byteLength_of_same (alike : same left right = true) :
    Split.byteLength left = Split.byteLength right := by
  induction left generalizing right with
  | nil =>
      cases right with
      | nil => rfl
      | cons c rest => cases alike
  | cons c rest hypothesis =>
      cases right with
      | nil => cases alike
      | cons d others =>
          rw [same, Bool.and_eq_true_iff, beq_iff_eq] at alike
          rw [Split.byteLength_cons, Split.byteLength_cons,
            hypothesis alike.2, ← utf8Size_lower c, alike.1, utf8Size_lower]

end Ascii

/-! ## Words -/

namespace Blank

variable {chars rest word : List Char}

theorem wordsFrom_append (solid : ∀ c ∈ word, isBlank c = false)
    (run rest : List Char) :
    wordsFrom run (word ++ rest) = wordsFrom (word.reverse ++ run) rest := by
  induction word generalizing run with
  | nil => rfl
  | cons c others hypothesis =>
      have shown : isBlank c = false := solid c List.mem_cons_self
      rw [List.cons_append, wordsFrom, shown, if_neg Bool.false_ne_true,
        hypothesis fun c later => solid c (List.mem_cons_of_mem _ later),
        List.reverse_cons, List.append_assoc]
      rfl

/-- Words that are joined with spaces are cut into themselves. -/
theorem words_intercalate {texts : List (List Char)}
    (some : ∀ text ∈ texts, text ≠ [])
    (solid : ∀ text ∈ texts, ∀ c ∈ text, isBlank c = false) :
    words ([' '].intercalate texts) = texts := by
  rw [words]
  induction texts with
  | nil => rfl
  | cons text others hypothesis =>
      have present : text ≠ [] := some text List.mem_cons_self
      have shown := solid text List.mem_cons_self
      have begun : text.reverse ++ [] ≠ [] := by simpa using present
      have rest := hypothesis
        (fun text later => some text (List.mem_cons_of_mem _ later))
        (fun text later => solid text (List.mem_cons_of_mem _ later))
      cases others with
      | nil =>
          have alone := wordsFrom_append shown [] []
          rw [List.append_nil] at alone
          rw [List.intercalate_singleton, alone, wordsFrom]
          simp [present]
      | cons next later =>
          rw [List.intercalate_cons_cons, List.append_assoc,
            wordsFrom_append shown, List.singleton_append, wordsFrom,
            if_pos (by decide), if_neg (by simpa using present), rest]
          simp

/-- Where words are joined there are their characters, and spaces. -/
theorem of_mem_intercalate {texts : List (List Char)} {c : Char}
    (present : c ∈ [' '].intercalate texts) :
    c = ' ' ∨ ∃ text ∈ texts, c ∈ text := by
  induction texts with
  | nil => simp at present
  | cons text others hypothesis =>
      cases others with
      | nil =>
          rw [List.intercalate_singleton] at present
          exact Or.inr ⟨text, List.mem_cons_self, present⟩
      | cons next later =>
          rw [List.intercalate_cons_cons, List.append_assoc, List.mem_append,
            List.singleton_append, List.mem_cons] at present
          rcases present with here | rfl | there
          · exact Or.inr ⟨text, List.mem_cons_self, here⟩
          · exact Or.inl rfl
          · rcases hypothesis there with space | ⟨other, within, inside⟩
            · exact Or.inl space
            · exact Or.inr ⟨other, List.mem_cons_of_mem _ within, inside⟩

/-- Where words are joined there is no white space at the end. -/
theorem not_isBlank_of_intercalate_eq_concat {texts : List (List Char)}
    {c : Char} (some : ∀ text ∈ texts, text ≠ [])
    (solid : ∀ text ∈ texts, ∀ c ∈ text, isBlank c = false)
    (ends : [' '].intercalate texts = rest ++ [c]) : isBlank c = false := by
  induction texts generalizing rest with
  | nil => simp at ends
  | cons text others hypothesis =>
      cases others with
      | nil =>
          rw [List.intercalate_singleton] at ends
          exact solid text List.mem_cons_self c (by simp [ends])
      | cons next later =>
          have present : [' '].intercalate (next :: later) ≠ [] := by
            have first := some next (by simp)
            cases later with
            | nil => rwa [List.intercalate_singleton]
            | cons => simp [List.intercalate_cons_cons]
          obtain ⟨init, last, split⟩ :=
            List.eq_nil_or_concat ([' '].intercalate (next :: later))
              |>.resolve_left present
          rw [List.concat_eq_append] at split
          rw [List.intercalate_cons_cons, split, ← List.append_assoc] at ends
          have same := List.singleton_inj.1 (List.append_inj_right' ends rfl)
          exact hypothesis
            (fun text later => some text (List.mem_cons_of_mem _ later))
            (fun text later => solid text (List.mem_cons_of_mem _ later))
            (same ▸ split)

/-- A word that ends a run or comes later is of its characters or later ones. -/
theorem of_mem_wordsFrom {run : List Char}
    (shown : ∀ c ∈ run, isBlank c = false)
    (present : word ∈ wordsFrom run chars) :
    ∀ c ∈ word, isBlank c = false ∧ (c ∈ run ∨ c ∈ chars) := by
  have ended {run rest : List Char} (shown : ∀ c ∈ run, isBlank c = false) :
      ∀ c ∈ run.reverse, isBlank c = false ∧ (c ∈ run ∨ c ∈ rest) := by
    intro c last
    have inside := List.mem_reverse.1 last
    exact ⟨shown c inside, Or.inl inside⟩
  -- The run changes along the text: it is taken up anew behind white space.
  induction chars generalizing run with
  | nil =>
      rw [wordsFrom] at present
      split at present
      · cases present
      · rw [List.mem_singleton.1 present]
        exact ended shown
  | cons c rest hypothesis =>
      have skipped (later : word ∈ wordsFrom [] rest) :
          ∀ d ∈ word, isBlank d = false ∧ (d ∈ run ∨ d ∈ c :: rest) := by
        intro d inside
        obtain ⟨solid, within⟩ :=
          hypothesis (List.forall_mem_nil _) later d inside
        have there := within.resolve_left List.not_mem_nil
        exact ⟨solid, Or.inr (List.mem_cons_of_mem c there)⟩
      rw [wordsFrom] at present
      split at present
      · split at present
        · exact skipped present
        · rcases List.mem_cons.1 present with rfl | later
          · exact ended shown
          · exact skipped later
      · rename_i visible
        have longer : ∀ d ∈ c :: run, isBlank d = false :=
          List.forall_mem_cons.2 ⟨Bool.eq_false_iff.2 visible, shown⟩
        intro d inside
        obtain ⟨solid, begun | later⟩ := hypothesis longer present d inside
        · rcases List.mem_cons.1 begun with rfl | earlier
          · exact ⟨solid, Or.inr List.mem_cons_self⟩
          · exact ⟨solid, Or.inl earlier⟩
        · exact ⟨solid, Or.inr (List.mem_cons_of_mem c later)⟩

/-- There is no white space in a word. -/
theorem not_isBlank_of_mem_words {c : Char} (present : word ∈ words chars)
    (inside : c ∈ word) : isBlank c = false :=
  (of_mem_wordsFrom (List.forall_mem_nil _) present c inside).1

/-- The characters of a word stand in the text. -/
theorem mem_of_mem_words {c : Char} (present : word ∈ words chars)
    (inside : c ∈ word) : c ∈ chars :=
  (of_mem_wordsFrom (List.forall_mem_nil _) present c inside).2.resolve_left
    List.not_mem_nil

/-- A text without white space is one word. -/
theorem words_of_solid (some : chars ≠ [])
    (solid : ∀ c ∈ chars, isBlank c = false) : words chars = [chars] := by
  have alone : words ([' '].intercalate [chars]) = [chars] :=
    words_intercalate (by simpa using some) (by simpa using solid)
  rwa [List.intercalate_singleton] at alone

end Blank

end ResumableUpload
