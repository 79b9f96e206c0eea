import Mathlib.Data.List.Forall2
import ResumableUpload.Proofs.Metadata.Insertion
import ResumableUpload.Proofs.Text.Base64
import ResumableUpload.Proofs.Text.Cuts
/-!
# The grammar of written metadata

Written metadata is blank, or made of pieces between commas.  What one piece
says, once white space is off its ends, is given by `Metadata.Spells` without
reading it.  `Metadata.parse_reads_grammar` says that exactly these texts are
read, and what is read of them; `Metadata.parse_written` says that the written
form of what has been read is read as the same again.
-/

namespace ResumableUpload.Metadata

variable {strictness : Strictness} {metadata result : Metadata}
  {entry : String × Bytes} {text : String} {chars piece : List Char}

/-! ## One piece -/

/-- A key alone. -/
structure IsBare (chars : List Char) : Prop where
  nonempty : chars ≠ []
  unbroken : ' ' ∉ chars

/--
What a piece without white space at its ends says: a key alone goes with the
empty value, and a key before one blank with what a canonical base64 text after
the blank stands for.
-/
inductive Spells : List Char → String × Bytes → Prop where
  | bare {key : List Char} (bare : IsBare key) :
      Spells key (String.ofList key, [])
  | valued {key encoded : List Char} {value : Bytes} (nonempty : key ≠ [])
      (unbroken : ' ' ∉ key) (something : encoded ≠ [])
      (canonical : Base64.IsCanonical encoded)
      (decodes : Base64.decode encoded = some value) :
      Spells (key ++ ' ' :: encoded) (String.ofList key, value)

/-- A piece that says something is what is written for it. -/
theorem Spells.written (spells : Spells chars entry) :
    (writtenEntry entry).toList = chars := by
  cases spells with
  | bare _ => exact String.toList_ofList
  | @valued key encoded value nonempty unbroken something canonical decodes =>
      have text := Base64.eq_encode_of_decode decodes
      have some : value.isEmpty = false := by
        rw [List.isEmpty_eq_false_iff]
        rintro rfl
        exact something text
      rw [writtenEntry]
      simp [some, ← text]

/-- A canonical text has no blank. -/
theorem blank_not_mem_of_isCanonical (canonical : Base64.IsCanonical chars) :
    ' ' ∉ chars := by
  intro present
  rcases canonical.isDigit_or_pad present with ⟨value, known, -⟩ | pad
  · cases known
  · cases pad

theorem parsePair_of_spells (spells : Spells (Blank.trimmed piece) entry)
    (strict : strictness = .valuesRequired → ¬IsBare (Blank.trimmed piece)) :
    parsePair strictness piece = .ok entry := by
  rw [parsePair]
  generalize Blank.trimmed piece = trimmed at spells strict ⊢
  cases spells with
  | bare bare =>
      rw [Split.pieces_of_not_mem bare.unbroken]
      cases strictness with
      | valuesRequired => exact absurd bare (strict rfl)
      | valuesOptional =>
          cases trimmed with
          | nil => exact absurd rfl bare.nonempty
          | cons c rest => rfl
  | @valued key encoded value nonempty unbroken something canonical decodes =>
      rw [Split.pieces_append_cons unbroken, Split.pieces_of_not_mem
        (blank_not_mem_of_isCanonical canonical)]
      cases key with
      | nil => exact absurd rfl nonempty
      | cons c rest =>
          cases encoded with
          | nil => exact absurd rfl something
          | cons first others =>
              simp only [List.head?_cons, parseValue, decodes]
              rfl

theorem spells_of_parsePair (reads : parsePair strictness piece = .ok entry) :
    Spells (Blank.trimmed piece) entry ∧
      (strictness = .valuesRequired → ¬IsBare (Blank.trimmed piece)) := by
  rw [parsePair] at reads
  by_cases broken : ' ' ∈ Blank.trimmed piece
  · refine ⟨?_, fun _ bare => bare.unbroken broken⟩
    rcases List.eq_append_cons_of_mem broken with ⟨key, rest, split, unbroken⟩
    rw [split, Split.pieces_append_cons unbroken] at reads
    by_cases again : ' ' ∈ rest
    · rcases List.eq_append_cons_of_mem again with ⟨first, others, rfl, one⟩
      rw [Split.pieces_append_cons one] at reads
      cases cut : Split.pieces ' ' others with
      | nil => exact absurd cut (Split.pieces_ne_nil ' ' others)
      | cons second more =>
          rw [cut] at reads
          cases reads
    · rw [Split.pieces_of_not_mem again] at reads
      cases key with
      | nil => cases reads
      | cons c others =>
          cases rest with
          | nil =>
              -- The blank would be at the end of what was trimmed.
              have shown := Blank.not_isBlank_of_trimmed_eq_concat split
              cases shown
          | cons first more =>
              simp only [List.head?_cons, parseValue] at reads
              cases decodes : Base64.decode (first :: more) with
              | none =>
                  rw [decodes] at reads
                  cases reads
              | some value =>
                  rw [decodes] at reads
                  cases reads
                  rw [split]
                  exact .valued (List.cons_ne_nil c others) unbroken
                    (List.cons_ne_nil first more)
                    (Base64.isCanonical_iff.2 ⟨value, decodes⟩) decodes
  · rw [Split.pieces_of_not_mem broken] at reads
    generalize Blank.trimmed piece = trimmed at broken reads ⊢
    cases trimmed with
    | nil => cases reads
    | cons c rest =>
        cases strictness with
        | valuesRequired => cases reads
        | valuesOptional =>
            cases reads
            exact ⟨.bare ⟨List.cons_ne_nil c rest, broken⟩, fun contrary => by
              cases contrary⟩

/--
A piece is read exactly if it says something, and, where every key has to carry
a value, if its key is not alone.
-/
theorem parsePair_eq_ok_iff :
    parsePair strictness piece = .ok entry ↔
      Spells (Blank.trimmed piece) entry ∧
        (strictness = .valuesRequired → ¬IsBare (Blank.trimmed piece)) :=
  ⟨spells_of_parsePair, fun reads => parsePair_of_spells reads.1 reads.2⟩

/-! ## All pieces -/

theorem parsePieces_cons (strictness : Strictness) (metadata : Metadata)
    (piece : List Char) (rest : List (List Char)) :
    parsePieces strictness metadata (piece :: rest) = .ok result ↔
      ∃ entry middle, parsePair strictness piece = .ok entry ∧
        metadata.insert? entry.1 entry.2 = some middle ∧
        parsePieces strictness middle rest = .ok result := by
  rw [parsePieces]
  cases parsePair strictness piece with
  | error reason =>
      constructor
      · intro contrary
        cases contrary
      · rintro ⟨_, _, contrary, -⟩
        cases contrary
  | ok entry =>
      simp only [bind, Except.bind, Except.ok.injEq, exists_and_left,
        exists_eq_left']
      cases metadata.insert? entry.1 entry.2 with
      | none => simp
      | some middle => simp

/--
Pieces are read exactly if each of them is and all keys differ, and then what
is read lists what the pieces say, with what was there before.
-/
theorem parsePieces_eq_ok_iff {before : List (String × Bytes)}
    (lists : metadata.Lists before) (differ : before.Pairwise Differ)
    (pieces : List (List Char)) :
    parsePieces strictness metadata pieces = .ok result ↔
      ∃ entries, List.Forall₂
          (fun piece entry => parsePair strictness piece = .ok entry)
          pieces entries ∧
        (before ++ entries).Pairwise Differ ∧
        result.Lists (before ++ entries) := by
  induction pieces generalizing metadata before with
  | nil =>
      rw [parsePieces, Except.ok.injEq]
      constructor
      · rintro rfl
        refine ⟨[], .nil, ?_, ?_⟩
        · rwa [List.append_nil]
        · rwa [List.append_nil]
      · rintro ⟨entries, reads, -, listed⟩
        cases reads
        rw [List.append_nil] at listed
        exact lists.unique listed
  | cons piece rest hypothesis =>
      rw [parsePieces_cons]
      constructor
      · rintro ⟨entry, middle, reads, inserted, later⟩
        rcases (insert?_eq_some_iff lists).1 inserted with ⟨new, rfl⟩
        have further : (before ++ [entry]).Pairwise Differ :=
          List.pairwise_append.2 ⟨differ, List.pairwise_singleton _ _,
            fun other present one same =>
              List.mem_singleton.1 same ▸ new other present⟩
        rcases (hypothesis (lists.place new) further).1 later with
          ⟨entries, each, differ, listed⟩
        rw [← List.append_cons] at differ listed
        exact ⟨entry :: entries, .cons reads each, differ, listed⟩
      · rintro ⟨entries, each, differ, listed⟩
        cases each with
        | @cons _ entry _ entries reads each =>
            have new : ∀ other ∈ before, Differ other entry :=
              fun other present => (List.pairwise_append.1 differ).2.2 other
                present entry List.mem_cons_self
            rw [List.append_cons] at differ listed
            refine ⟨entry, _, reads, (insert?_eq_some_iff lists).2 ⟨new, rfl⟩,
              (hypothesis (lists.place new) (List.pairwise_append.1 differ).1).2
                ⟨entries, each, differ, listed⟩⟩

/-! ## Whole texts -/

/-- White space and nothing else. -/
def IsBlank (text : String) : Prop :=
  ∀ c ∈ text.toList, Blank.isBlank c = true

/-- The pieces of a text say one pair each, and the keys of the pairs differ. -/
structure Tells (text : String) (entries : List (String × Bytes)) : Prop where
  spells : List.Forall₂
    (fun piece entry => Spells (Blank.trimmed piece) entry)
    (Split.pieces ',' text.toList) entries
  differ : entries.Pairwise Differ

/-- White space alone is one piece, and the piece is nothing but its ends. -/
theorem IsBlank.trimmed_eq_nil (blank : IsBlank text) :
    ∀ piece ∈ Split.pieces ',' text.toList, Blank.trimmed piece = [] := by
  have unbroken : ',' ∉ text.toList := by
    intro present
    cases blank ',' present
  rw [Split.pieces_of_not_mem unbroken]
  intro piece same
  rw [List.mem_singleton.1 same, Blank.trimmed_eq_nil_iff]
  exact blank

theorem not_spells_nil : ¬Spells [] entry := by
  generalize nothing : ([] : List Char) = chars
  rintro (bare | -)
  · exact bare.nonempty nothing.symm
  · cases List.append_eq_nil_iff.1 nothing.symm |>.2

theorem Tells.not_isBlank {entries : List (String × Bytes)}
    (tells : Tells text entries) : ¬IsBlank text := by
  intro blank
  have spells := tells.spells
  cases pieces : Split.pieces ',' text.toList with
  | nil => exact Split.pieces_ne_nil ',' text.toList pieces
  | cons piece rest =>
      have nothing := blank.trimmed_eq_nil piece (by simp [pieces])
      rw [pieces] at spells
      cases spells with
      | cons spells _ =>
          rw [nothing] at spells
          exact not_spells_nil spells

/--
What a text is read as, and when: white space as no pairs, and any other text as
the map of the pairs that its pieces say.
-/
theorem parse_eq_ok_iff :
    parse strictness text = .ok metadata ↔
      (IsBlank text ∧ metadata = empty ∨
        ∃ entries, Tells text entries ∧ metadata.Lists entries) ∧
      (strictness = .valuesRequired →
        ∀ piece ∈ Split.pieces ',' text.toList,
          ¬IsBare (Blank.trimmed piece)) := by
  rw [parse]
  by_cases blank : IsBlank text
  · rw [if_pos (List.isEmpty_iff.2 (Blank.trimmed_eq_nil_iff.2 blank))]
    constructor
    · rintro ⟨⟩
      exact ⟨.inl ⟨blank, rfl⟩, fun _ piece present bare =>
        bare.nonempty (blank.trimmed_eq_nil piece present)⟩
    · rintro ⟨⟨-, rfl⟩ | ⟨entries, tells, -⟩, -⟩
      · rfl
      · exact absurd blank tells.not_isBlank
  · rw [if_neg fun nothing =>
        blank (Blank.trimmed_eq_nil_iff.1 (List.isEmpty_iff.1 nothing)),
      parsePieces_eq_ok_iff lists_empty .nil]
    simp only [parsePair_eq_ok_iff, List.nil_append]
    constructor
    · rintro ⟨entries, each, differ, lists⟩
      exact ⟨.inr ⟨entries, ⟨each.imp fun _ _ reads => reads.1, differ⟩, lists⟩,
        fun strict => ((List.forall₂_and_left _ _).1
          (each.imp fun _ _ reads => ⟨reads.2 strict, reads.1⟩)).1⟩
    · rintro ⟨⟨contrary, -⟩ | ⟨entries, tells, lists⟩, strict⟩
      · exact absurd contrary blank
      · refine ⟨entries, ?_, tells.differ, lists⟩
        exact ((List.forall₂_and_left _ _).2
          ⟨fun piece present required => strict required piece present,
            tells.spells⟩).imp fun _ _ reads => reads.symm

/--
A text is read as metadata exactly if it is white space, or if each piece of it
between two commas, with white space off its ends, is a key alone or a key, one
blank and a canonical base64 text that is not empty, and the keys are different
texts whatever the case of their ASCII letters.  It is read as the map that has
one pair for each piece, with the key as it is written and the bytes that the
base64 text stands for, and none where the key is alone.  If all keys have to
carry a value, the texts that are read are those of them where no key is alone,
and they are read as the same maps.
-/
theorem parse_reads_grammar (text : String) :
    (∀ metadata, parse .valuesOptional text = .ok metadata ↔
      IsBlank text ∧ metadata = empty ∨
        ∃ entries, Tells text entries ∧ metadata.Lists entries) ∧
    ((∃ metadata, parse .valuesOptional text = .ok metadata) ↔
      IsBlank text ∨ ∃ entries, Tells text entries) ∧
    ∀ metadata, parse .valuesRequired text = .ok metadata ↔
      parse .valuesOptional text = .ok metadata ∧
        ∀ piece ∈ Split.pieces ',' text.toList,
          ¬IsBare (Blank.trimmed piece) := by
  have lenient (metadata : Metadata) :
      parse .valuesOptional text = .ok metadata ↔
        IsBlank text ∧ metadata = empty ∨
          ∃ entries, Tells text entries ∧ metadata.Lists entries := by
    rw [parse_eq_ok_iff, and_iff_left]
    intro contrary
    cases contrary
  refine ⟨lenient, ?_, fun metadata => ?_⟩
  · simp only [lenient]
    constructor
    · rintro ⟨metadata, ⟨blank, -⟩ | ⟨entries, tells, -⟩⟩
      · exact .inl blank
      · exact .inr ⟨entries, tells⟩
    · rintro (blank | ⟨entries, tells⟩)
      · exact ⟨empty, .inl ⟨blank, rfl⟩⟩
      · rcases exists_lists tells.differ with ⟨metadata, lists⟩
        exact ⟨metadata, .inr ⟨entries, tells, lists⟩⟩
  · rw [lenient, parse_eq_ok_iff, forall_prop_of_true rfl]

/-! ## What is written -/

/-- What a piece says is written without white space at its ends. -/
theorem Spells.trimmed_written (spells : Spells (Blank.trimmed piece) entry) :
    Blank.trimmed (writtenEntry entry).toList = Blank.trimmed piece := by
  rw [spells.written, Blank.trimmed_trimmed]

/-- The pieces of what is written are what is written for each pair. -/
theorem pieces_written (some : metadata.entries ≠ [])
    (unbroken : ∀ entry ∈ metadata.entries,
      ',' ∉ (writtenEntry entry).toList) :
    Split.pieces ',' metadata.written.toList
      = metadata.entries.map fun entry => (writtenEntry entry).toList := by
  rw [written, Split.join, String.toList_intercalate, List.map_map]
  apply Split.pieces_intercalate
  · rwa [ne_eq, List.map_eq_nil_iff]
  · intro chars present
    rcases List.mem_map.1 present with ⟨entry, among, rfl⟩
    exact unbroken entry among

/-- Each pair of a text is what some piece of the text says. -/
theorem Tells.exists_piece {entries : List (String × Bytes)}
    (tells : Tells text entries) (present : entry ∈ entries) :
    ∃ piece ∈ Split.pieces ',' text.toList,
      Spells (Blank.trimmed piece) entry := by
  rcases List.mem_iff_get.1 present with ⟨index, rfl⟩
  rcases List.forall₂_iff_get.1 tells.spells with ⟨same, each⟩
  have inside : index < (Split.pieces ',' text.toList).length :=
    lt_of_lt_of_eq index.2 same.symm
  exact ⟨_, List.get_mem _ ⟨index, inside⟩, each index inside index.2⟩

/--
What is written for the pairs of a text tells the same pairs in their order, and
each piece of it is a piece of the text without the white space at its ends.
-/
theorem Tells.written {entries : List (String × Bytes)}
    (tells : Tells text entries) (lists : metadata.Lists entries) :
    Tells metadata.written metadata.entries ∧
      ∀ piece ∈ Split.pieces ',' metadata.written.toList,
        ∃ origin ∈ Split.pieces ',' text.toList,
          Blank.trimmed piece = Blank.trimmed origin := by
  have origin : ∀ entry ∈ metadata.entries,
      ∃ piece ∈ Split.pieces ',' text.toList,
        Spells (Blank.trimmed piece) entry :=
    fun entry present => tells.exists_piece (lists.perm.subset present)
  have some : metadata.entries ≠ [] := by
    intro none
    have empty := lists.perm
    rw [none, List.nil_perm] at empty
    have pieces := tells.spells
    rw [empty, List.forall₂_nil_right_iff] at pieces
    exact Split.pieces_ne_nil ',' text.toList pieces
  have unbroken : ∀ entry ∈ metadata.entries,
      ',' ∉ (writtenEntry entry).toList := by
    intro entry present broken
    rcases origin entry present with ⟨piece, among, spells⟩
    rw [spells.written] at broken
    exact Split.not_mem_of_mem_pieces among (Blank.mem_of_mem_trimmed broken)
  rw [pieces_written some unbroken]
  refine ⟨⟨?_, ?_⟩, ?_⟩
  · rw [pieces_written some unbroken, List.forall₂_map_left_iff,
      List.forall₂_same]
    intro entry present
    rcases origin entry present with ⟨piece, -, spells⟩
    rwa [spells.trimmed_written]
  · exact (lists.perm.pairwise_iff Differ.symm).2 tells.differ
  · intro piece present
    rcases List.mem_map.1 present with ⟨entry, listed, rfl⟩
    rcases origin entry listed with ⟨piece, among, spells⟩
    exact ⟨piece, among, spells.trimmed_written⟩

/--
What is written for metadata that has been read is read as the same metadata, as
strictly, and what is written in base64 for any bytes is read as these bytes.
-/
theorem parse_written (reads : parse strictness text = .ok metadata) :
    parse strictness metadata.written = .ok metadata ∧
      ∀ bytes, Base64.decode (Base64.encode bytes) = some bytes := by
  refine ⟨?_, Base64.decode_encode⟩
  rcases parse_eq_ok_iff.1 reads with
    ⟨⟨-, rfl⟩ | ⟨entries, tells, lists⟩, strict⟩
  · cases strictness <;> rfl
  · rcases tells.written lists with ⟨again, pieces⟩
    refine parse_eq_ok_iff.2 ⟨.inr ⟨_, again, lists.ordered, .refl _⟩, ?_⟩
    intro required piece present
    rcases pieces piece present with ⟨origin, among, same⟩
    rw [same]
    exact strict required origin among

/--
Two pairs that are out of order, with white space in a key and around the other:
they are written in order, the empty value not at all, and read again.
-/
theorem parse_written_out_of_order :
    parse .valuesOptional "é\tb YQ==, A "
        = .ok ⟨[("A", []), ("é\tb", [97])]⟩ ∧
      written ⟨[("A", []), ("é\tb", [97])]⟩ = "A,é\tb YQ==" ∧
      parse .valuesOptional (written ⟨[("A", []), ("é\tb", [97])]⟩)
        = .ok ⟨[("A", []), ("é\tb", [97])]⟩ :=
  have reads : parse .valuesOptional "é\tb YQ==, A "
      = .ok ⟨[("A", []), ("é\tb", [97])]⟩ := by decide +kernel
  ⟨reads, by decide +kernel, (parse_written reads).1⟩

end ResumableUpload.Metadata
