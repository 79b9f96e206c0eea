import Mathlib.Data.Bool.AllAny
import Mathlib.Data.List.Forall2
import ResumableUpload.Proofs.Addresses
import ResumableUpload.Proofs.Text.Cuts
import ResumableUpload.Proofs.Text.Uri
/-!
# References to uploads

A value of `Upload-Concat` lists references, and each of them names an upload by
its path, which is read in another way than the path of a request.  There may be
several slashes before the id, so there are references under which an upload can
be joined but not be reached: `Part.parse_reference_iff`.  And the path is cut
at the length of the base path whether a character ends there or not, so there
are references at which reading is given up: `Part.parse_gives_up_iff` says
which, and that none of them is in ASCII.

`Part.parse_eq_joined_iff` and `Part.parse_eq_error_iff` say what is made of a
list: all its references name uploads, or the first that does not is the reason
why the list is not read.
-/

namespace ResumableUpload

/-! ## Paths with many slashes -/

namespace Address

variable {urlPath id : String} {path : List Char}

/--
A path below a base path that leads to an id, where there may be more slashes
than one before the id and some behind it.
-/
def LeadsTo (urlPath : String) (more : Nat) (path : List Char) (id : String) :
    Prop :=
  IsSegment id ∧ ∃ start after,
    Ascii.same start (baseChars urlPath) = true ∧
      path = start ++ (List.replicate (more + 1) '/' ++ id.toList
        ++ List.replicate after '/')

/-- The path of a request leads to an upload with one slash before the id. -/
theorem uploadId?_eq_some_iff_leadsTo :
    uploadId? urlPath (String.ofList path) = some id ↔
      LeadsTo urlPath 0 path id := by
  rw [uploadId?_eq_some_iff, LeadsTo, String.toList_ofList, and_congr_right_iff]
  rintro ⟨present, free⟩
  have apart (start : List Char) :
      (start ++ '/' :: id.toList).getLast? ≠ some '/' := by
    obtain ⟨chars, last, split⟩ :=
      List.eq_nil_or_concat id.toList |>.resolve_left present
    have ends : start ++ '/' :: id.toList
        = (start ++ '/' :: chars) ++ [last] := by
      rw [split, List.concat_eq_append, List.append_assoc, List.cons_append]
    rw [ends, List.getLast?_concat]
    rintro ⟨⟩
    exact free (by simp [split])
  constructor
  · rintro ⟨start, trimmed, alike⟩
    rcases (Split.trimEnd_eq_iff (apart start)).1 trimmed with ⟨after, rfl⟩
    exact ⟨start, after, alike, by simp⟩
  · rintro ⟨start, after, alike, rfl⟩
    refine ⟨start, ?_, alike⟩
    exact (Split.trimEnd_eq_iff (apart start)).2 ⟨after, by simp⟩

/-- The id to which a path leads, and the slashes before it, are determined. -/
theorem LeadsTo.unique {other : String} {more others : Nat}
    (leads : LeadsTo urlPath more path id)
    (leads' : LeadsTo urlPath others path other) :
    more = others ∧ id = other := by
  rcases leads with ⟨⟨present, free⟩, start, after, alike, rfl⟩
  rcases leads' with ⟨⟨present', free'⟩, start', after', alike', split⟩
  have length : start.length = start'.length :=
    (Ascii.length_of_same alike).trans (Ascii.length_of_same alike').symm
  have rest := (List.append_inj split length).2
  have trimmed {stem : List Char} (before after : Nat) (present : stem ≠ [])
      (free : '/' ∉ stem) :
      Split.trimBoth '/' (List.replicate before '/' ++ stem
        ++ List.replicate after '/') = stem :=
    (Split.trimBoth_eq_iff present free).2 ⟨before, after, rfl⟩
  -- The slashes before the id are those at the beginning of the rest, and the
  -- id is what is left when the slashes at both ends are taken off.
  have slashes := congrArg (List.takeWhile (· == '/')) rest
  rw [List.append_assoc, List.append_assoc,
    Split.takeWhile_of_stem present free,
    Split.takeWhile_of_stem present' free'] at slashes
  have stems := congrArg (Split.trimBoth '/') rest
  rw [trimmed _ _ present free, trimmed _ _ present' free'] at stems
  exact ⟨by simpa using congrArg List.length slashes,
    String.toList_inj.1 stems⟩

end Address

/-! ## A reference -/

namespace Part

variable {urlPath : String} {url path : List Char} {id : String}

/-- What follows the base path is an id between slashes, one at least before. -/
theorem trimBoth_slashes_iff {rest stem : List Char} (present : stem ≠ [])
    (free : '/' ∉ stem) :
    rest.head? = some '/' ∧ Split.trimBoth '/' rest = stem ↔
      ∃ more after, rest = List.replicate (more + 1) '/' ++ stem
        ++ List.replicate after '/' := by
  rw [Split.trimBoth_eq_iff present free]
  constructor
  · rintro ⟨slash, before, after, rfl⟩
    cases before with
    | zero =>
        cases stem with
        | nil => exact absurd rfl present
        | cons first others =>
            cases slash
            exact absurd List.mem_cons_self free
    | succ more => exact ⟨more, after, rfl⟩
  · rintro ⟨more, after, rfl⟩
    exact ⟨rfl, more + 1, after, rfl⟩

/-- A reference is read as an id exactly if its path leads to that id. -/
theorem idBelow_eq_ok_iff :
    idBelow url (baseChars urlPath) path = .ok id ↔
      ∃ more, Address.LeadsTo urlPath more path id := by
  rw [idBelow]
  constructor
  · intro read
    simp only at read
    split at read
    · cases read
    · split at read
      · cases read
      · rename_i start rest cut
        split at read
        · rename_i whole
          cases read
          simp only [Bool.and_eq_true, Bool.not_eq_true', decide_eq_true_eq,
            List.isEmpty_eq_false_iff, List.contains_eq_mem,
            decide_eq_false_iff_not] at whole
          obtain ⟨⟨⟨alike, slash⟩, present⟩, free⟩ := whole
          rcases (trimBoth_slashes_iff present free).1 ⟨slash, rfl⟩ with
            ⟨more, after, around⟩
          refine ⟨more, ?_, start, after, alike, ?_⟩
          · rw [Address.IsSegment, String.toList_ofList]
            exact ⟨present, free⟩
          · rw [String.toList_ofList, ← around]
            exact (Split.atByte?_eq_some_iff.1 cut).1
        · cases read
  · rintro ⟨more, ⟨present, free⟩, start, after, alike, rfl⟩
    have longer : 0 < Split.byteLength (List.replicate (more + 1) '/'
        ++ id.toList ++ List.replicate after '/') :=
      Split.byteLength_pos (by simp)
    have length := Ascii.byteLength_of_same alike
    have cut := Split.atByte?_append start (List.replicate (more + 1) '/'
      ++ id.toList ++ List.replicate after '/')
    rcases (trimBoth_slashes_iff present free).2 ⟨more, after, rfl⟩ with
      ⟨slash, stem⟩
    rw [Split.byteLength_append, length, if_neg (by omega), ← length, cut]
    simp only [stem, slash, alike]
    simp [present, free]

/-- A base path ends inside a character of a path that is longer. -/
def CutsInside (urlPath : String) (path : List Char) : Prop :=
  Split.byteLength (baseChars urlPath) < Split.byteLength path ∧
    ∀ start, start <+: path →
      Split.byteLength start ≠ Split.byteLength (baseChars urlPath)

/-- What is not read as an id is cut inside a character or is invalid. -/
theorem idBelow_eq_error {error : ParseError}
    (fails : idBelow url (baseChars urlPath) path = .error error) :
    (CutsInside urlPath path ∧
      error = .cutInsideCharacter (String.ofList url)) ∨
    (¬CutsInside urlPath path ∧ error = .invalidUrl (String.ofList url)) := by
  rw [idBelow] at fails
  simp only at fails
  split at fails
  · rename_i short
    cases fails
    exact Or.inr ⟨fun inside => absurd inside.1 (by omega), rfl⟩
  · rename_i long
    split at fails
    · rename_i uncut
      cases fails
      exact Or.inl ⟨⟨by omega, Split.atByte?_eq_none_iff.1 uncut⟩, rfl⟩
    · rename_i start rest cut
      obtain ⟨split, length⟩ := Split.atByte?_eq_some_iff.1 cut
      split at fails
      · cases fails
      · cases fails
        refine Or.inr ⟨fun inside => ?_, rfl⟩
        exact inside.2 start (split ▸ List.prefix_append start rest) length

/-- A reference names an upload if it has a path that leads there. -/
def Names (urlPath : String) (url : List Char) (id : String) : Prop :=
  ∃ path more, Uri.path? url = some path ∧ Address.LeadsTo urlPath more path id

/-- A reference cannot be read if its path would be cut inside a character. -/
def IsUncuttable (urlPath : String) (url : List Char) : Prop :=
  ∃ path, Uri.path? url = some path ∧ CutsInside urlPath path

theorem idOfReference_eq_ok_iff :
    idOfReference urlPath url = .ok id ↔ Names urlPath url id := by
  rw [idOfReference, Names]
  cases Uri.path? url with
  | none => exact iff_of_false nofun (by simp)
  | some path => simp [idBelow_eq_ok_iff]

theorem idOfReference_eq_error {error : ParseError}
    (fails : idOfReference urlPath url = .error error) :
    (IsUncuttable urlPath url ∧
      error = .cutInsideCharacter (String.ofList url)) ∨
    (¬IsUncuttable urlPath url ∧ error = .invalidUrl (String.ofList url)) := by
  rw [idOfReference] at fails
  rw [IsUncuttable]
  cases read : Uri.path? url with
  | none =>
      rw [read] at fails
      cases fails
      exact Or.inr ⟨by simp, rfl⟩
  | some path =>
      rw [read] at fails
      simpa using idBelow_eq_error fails

/-- What names an upload can be cut behind the base path. -/
theorem Names.not_isUncuttable (names : Names urlPath url id) :
    ¬IsUncuttable urlPath url := by
  rcases names with ⟨path, more, read, -, start, after, alike, split⟩
  rintro ⟨other, read', -, inside⟩
  cases read.symm.trans read'
  exact inside start (split ▸ List.prefix_append start _)
    (Ascii.byteLength_of_same alike)

/-- A reference is given up exactly if it could not be cut. -/
theorem idOfReference_eq_cutInsideCharacter_iff {shown : String} :
    idOfReference urlPath url = .error (.cutInsideCharacter shown) ↔
      IsUncuttable urlPath url ∧ shown = String.ofList url := by
  constructor
  · intro fails
    rcases idOfReference_eq_error fails with ⟨inside, same⟩ | ⟨-, other⟩
    · exact ⟨inside, ParseError.cutInsideCharacter.inj same⟩
    · cases other
  · rintro ⟨inside, rfl⟩
    cases read : idOfReference urlPath url with
    | ok id =>
        have names := idOfReference_eq_ok_iff.1 read
        exact absurd inside names.not_isUncuttable
    | error error =>
        rcases idOfReference_eq_error read with ⟨-, rfl⟩ | ⟨whole, -⟩
        · rfl
        · exact absurd inside whole

/-- Every other reference that names no upload is invalid. -/
theorem idOfReference_eq_invalidUrl_iff {shown : String} :
    idOfReference urlPath url = .error (.invalidUrl shown) ↔
      (∀ id, ¬Names urlPath url id) ∧ ¬IsUncuttable urlPath url ∧
        shown = String.ofList url := by
  constructor
  · intro fails
    refine ⟨fun id names => ?_, ?_⟩
    · exact nomatch fails.symm.trans (idOfReference_eq_ok_iff.2 names)
    · rcases idOfReference_eq_error fails with ⟨-, other⟩ | ⟨whole, same⟩
      · cases other
      · exact ⟨whole, ParseError.invalidUrl.inj same⟩
  · rintro ⟨nameless, whole, rfl⟩
    cases read : idOfReference urlPath url with
    | ok id => exact absurd (idOfReference_eq_ok_iff.1 read) (nameless id)
    | error error =>
        rcases idOfReference_eq_error read with ⟨inside, -⟩ | ⟨-, rfl⟩
        · exact absurd inside whole
        · rfl

/-! ## A list of references -/

/-- The references that a value lists, if it is such a list. -/
def references? (text : String) : Option (List (List Char)) :=
  let chars := Blank.trimmed text.toList
  if Ascii.same chars "partial".toList then none
  else
    match Split.atFirst? ';' chars with
    | none => none
    | some (kind, references) =>
        if Ascii.same (Blank.trimmed kind) "final".toList then
          some (Blank.words references)
        else none

/-- The part that a list of references makes of an upload. -/
def joining (urlPath : String) (references : List (List Char)) :
    Except ParseError Part := do
  let ids ← references.mapM (idOfReference urlPath)
  if ids.isEmpty then .error .emptyFinal else .ok (.joined ids)

theorem parse_eq (urlPath text : String) :
    parse urlPath text =
      match references? text with
      | some references => joining urlPath references
      | none =>
          if Ascii.same (Blank.trimmed text.toList) "partial".toList then
            .ok .piece
          else .error .invalidValue := by
  rw [parse, references?]
  split
  · rfl
  · cases Split.atFirst? ';' (Blank.trimmed text.toList) with
    | none => rfl
    | some cut =>
        rcases cut with ⟨kind, references⟩
        simp only
        cases Ascii.same (Blank.trimmed kind) "final".toList <;> rfl

/-- All items are read in order, or the first that fails ends the reading. -/
theorem mapM_eq_ok_iff {α β ε : Type} {read : α → Except ε β} {items : List α}
    {values : List β} :
    items.mapM read = .ok values ↔
      List.Forall₂ (fun item value => read item = .ok value) items values := by
  induction items generalizing values with
  | nil => cases values <;> simp [pure, Except.pure]
  | cons item rest hypothesis =>
      rw [List.mapM_cons]
      cases first : read item with
      | error error =>
          refine iff_of_false nofun fun all => ?_
          cases all with
          | cons here there => exact nomatch first.symm.trans here
      | ok value =>
          cases later : rest.mapM read with
          | error error =>
              refine iff_of_false nofun fun all => ?_
              cases all with
              | cons here there =>
                  exact nomatch later.symm.trans (hypothesis.2 there)
          | ok others =>
              constructor
              · rintro ⟨⟩
                exact .cons first (hypothesis.1 later)
              · intro all
                cases all with
                | cons here there =>
                    cases first.symm.trans here
                    cases later.symm.trans (hypothesis.2 there)
                    rfl

theorem mapM_eq_error_iff {α β ε : Type} {read : α → Except ε β}
    {items : List α} {error : ε} :
    items.mapM read = .error error ↔
      ∃ earlier item later, items = earlier ++ item :: later ∧
        (∀ other ∈ earlier, ∃ value, read other = .ok value) ∧
        read item = .error error := by
  induction items with
  | nil => simp [pure, Except.pure]
  | cons item rest hypothesis =>
      rw [List.mapM_cons]
      cases first : read item with
      | error other =>
          constructor
          · rintro ⟨⟩
            exact ⟨[], item, rest, rfl, nofun, first⟩
          · rintro ⟨earlier, last, later, split, read, fails⟩
            cases earlier with
            | nil =>
                cases split
                cases first.symm.trans fails
                rfl
            | cons before more =>
                cases split
                rcases read item List.mem_cons_self with ⟨value, reads⟩
                exact nomatch first.symm.trans reads
      | ok value =>
          have rest : (do
              let value ← Except.ok value
              let values ← rest.mapM read
              pure (value :: values)) = Except.error error ↔
                rest.mapM read = .error error := by
            cases rest.mapM read <;> simp [bind, Except.bind, pure, Except.pure]
          rw [rest, hypothesis]
          constructor
          · rintro ⟨earlier, last, later, rfl, read, fails⟩
            exact ⟨item :: earlier, last, later, rfl,
              List.forall_mem_cons.2 ⟨⟨value, first⟩, read⟩, fails⟩
          · rintro ⟨earlier, last, later, split, read, fails⟩
            cases earlier with
            | nil =>
                cases split
                exact nomatch first.symm.trans fails
            | cons before more =>
                cases split
                exact ⟨more, last, later, rfl,
                  (List.forall_mem_cons.1 read).2, fails⟩

variable {references : List (List Char)} {ids : List String}

/-- The first reference of a list that names no upload. -/
structure FirstNameless (urlPath text : String) (url : List Char) : Prop where
  listed : ∃ earlier later, references? text = some (earlier ++ url :: later) ∧
    ∀ other ∈ earlier, ∃ id, Names urlPath other id
  nameless : ∀ id, ¬Names urlPath url id

theorem joining_eq_ok_iff {part : Part} :
    joining urlPath references = .ok part ↔
      ∃ ids, part = .joined ids ∧ ids ≠ [] ∧
        List.Forall₂ (Names urlPath) references ids := by
  have all (ids : List String) :
      references.mapM (idOfReference urlPath) = .ok ids ↔
        List.Forall₂ (Names urlPath) references ids := by
    simp only [mapM_eq_ok_iff, idOfReference_eq_ok_iff]
  rw [joining]
  cases read : references.mapM (idOfReference urlPath) with
  | error error =>
      refine iff_of_false nofun ?_
      rintro ⟨ids, -, -, named⟩
      exact nomatch read.symm.trans ((all ids).2 named)
  | ok ids =>
      cases ids with
      | nil =>
          refine iff_of_false nofun ?_
          rintro ⟨ids, -, some, named⟩
          cases read.symm.trans ((all ids).2 named)
          exact some rfl
      | cons first others =>
          constructor
          · rintro ⟨⟩
            exact ⟨_, rfl, List.cons_ne_nil first others, (all _).1 read⟩
          · rintro ⟨ids, rfl, -, named⟩
            cases read.symm.trans ((all ids).2 named)
            rfl

theorem joining_eq_error_iff {error : ParseError}
    (refers : error ≠ .emptyFinal) :
    joining urlPath references = .error error ↔
      references.mapM (idOfReference urlPath) = .error error := by
  rw [joining]
  cases references.mapM (idOfReference urlPath) with
  | error other => exact ⟨by rintro ⟨⟩; rfl, by rintro ⟨⟩; rfl⟩
  | ok ids =>
      refine iff_of_false ?_ nofun
      cases ids with
      | nil =>
          rintro ⟨⟩
          exact refers rfl
      | cons => nofun

/-- What lists references makes a part of those that they name. -/
theorem parse_eq_joined_iff {text : String} :
    parse urlPath text = .ok (.joined ids) ↔
      ids ≠ [] ∧ ∃ references, references? text = some references ∧
        List.Forall₂ (Names urlPath) references ids := by
  rw [parse_eq]
  cases references? text with
  | none =>
      refine iff_of_false ?_ (by simp)
      simp only
      split <;> nofun
  | some references =>
      simp only [joining_eq_ok_iff, Part.joined.injEq, Option.some.injEq]
      constructor
      · rintro ⟨_, rfl, some, named⟩
        exact ⟨some, _, rfl, named⟩
      · rintro ⟨some, _, rfl, named⟩
        exact ⟨_, rfl, some, named⟩

/-- A list is not read because of the first reference that names no upload. -/
theorem parse_eq_error_iff {text : String} {error : ParseError}
    (kind : error ≠ .invalidValue) (refers : error ≠ .emptyFinal) :
    parse urlPath text = .error error ↔
      ∃ url, FirstNameless urlPath text url ∧
        idOfReference urlPath url = .error error := by
  rw [parse_eq]
  cases listed : references? text with
  | none =>
      refine iff_of_false ?_ ?_
      · simp only
        split
        · nofun
        · rintro ⟨⟩
          exact kind rfl
      · rintro ⟨url, ⟨⟨earlier, later, lists, -⟩, -⟩, -⟩
        exact nomatch listed.symm.trans lists
  | some references =>
      simp only [joining_eq_error_iff refers, mapM_eq_error_iff,
        idOfReference_eq_ok_iff]
      constructor
      · rintro ⟨earlier, url, later, rfl, named, fails⟩
        refine ⟨url, ⟨⟨earlier, later, listed, named⟩, fun id names => ?_⟩,
          fails⟩
        exact nomatch fails.symm.trans (idOfReference_eq_ok_iff.2 names)
      · rintro ⟨url, ⟨⟨earlier, later, lists, named⟩, -⟩, fails⟩
        cases listed.symm.trans lists
        exact ⟨earlier, url, later, rfl, named, fails⟩

/-- A list is given up for the first reference that could not be cut. -/
theorem parse_eq_cutInsideCharacter_iff {text shown : String} :
    parse urlPath text = .error (.cutInsideCharacter shown) ↔
      ∃ url, FirstNameless urlPath text url ∧ IsUncuttable urlPath url ∧
        shown = String.ofList url := by
  rw [parse_eq_error_iff (by nofun) (by nofun)]
  simp only [idOfReference_eq_cutInsideCharacter_iff]

theorem parse_eq_invalidUrl_iff {text shown : String} :
    parse urlPath text = .error (.invalidUrl shown) ↔
      ∃ url, FirstNameless urlPath text url ∧ ¬IsUncuttable urlPath url ∧
        shown = String.ofList url := by
  rw [parse_eq_error_iff (by nofun) (by nofun)]
  simp only [idOfReference_eq_invalidUrl_iff]
  constructor
  · rintro ⟨url, first, -, whole, same⟩
    exact ⟨url, first, whole, same⟩
  · rintro ⟨url, first, whole, same⟩
    exact ⟨url, first, first.nameless, whole, same⟩

/-- The references of a list are words of a part of its text. -/
theorem words_of_references? {text : String}
    (listed : references? text = some references) :
    ∃ rest, references = Blank.words rest ∧ ∀ c ∈ rest, c ∈ text.toList := by
  rw [references?] at listed
  split at listed
  · cases listed
  · split at listed
    · cases listed
    · rename_i kind rest cut
      split at listed
      · cases listed
        refine ⟨rest, rfl, fun c present => Blank.mem_of_mem_trimmed ?_⟩
        rw [Split.eq_append_of_atFirst? cut]
        exact List.mem_append_right kind (List.mem_cons_of_mem _ present)
      · cases listed

/-- A reference in ASCII can be cut anywhere. -/
theorem not_isUncuttable_of_ascii (ascii : ∀ c ∈ url, c.toNat < 128) :
    ¬IsUncuttable urlPath url := by
  rintro ⟨path, read, longer, inside⟩
  have narrow : ∀ c ∈ path, c.utf8Size = 1 := by
    have small {c : Char} (low : c.toNat < 128) : c.utf8Size = 1 :=
      Char.utf8Size_eq_one_iff.2 (Nat.le_of_lt_succ low)
    -- The path is a part of the reference, or a slash that stands for nothing.
    rcases (Uri.of_path? read).2.2 with within | rfl
    · exact fun c present => small (ascii c (within.subset present))
    · exact List.forall_mem_singleton.2 rfl
  rw [Split.byteLength_of_narrow narrow] at longer
  have cut := Split.atByte?_of_narrow narrow (Nat.le_of_lt longer)
  exact inside _ (List.take_prefix _ path) (Split.atByte?_eq_some_iff.1 cut).2

/-- A list of references, and nothing else, is read as one. -/
theorem references?_final {text : String} (present : text.toList ≠ [])
    (ends : ∀ rest c, text.toList = rest ++ [c] → Blank.isBlank c = false) :
    references? ("final;" ++ text) = some (Blank.words text.toList) := by
  have whole : ("final;" ++ text).toList
      = "final".toList ++ ';' :: text.toList := by
    rw [String.toList_append]
    rfl
  have untouched : Blank.trimmed ("final".toList ++ ';' :: text.toList)
      = "final".toList ++ ';' :: text.toList := by
    refine Blank.trimmed_eq_self ?_ fun rest c split => ?_
    · rintro c rest ⟨⟩
      decide
    · obtain ⟨others, last, final⟩ :=
        List.eq_nil_or_concat text.toList |>.resolve_left present
      rw [List.concat_eq_append] at final
      rw [final, ← List.cons_append, ← List.append_assoc] at split
      rw [← List.singleton_inj.1 (List.append_inj_right' split rfl)]
      exact ends others last final
  have other : Ascii.same ("final".toList ++ ';' :: text.toList)
      "partial".toList = false := rfl
  rw [references?, whole, untouched, other,
    Split.atFirst?_append_cons (by decide)]
  rfl

/-! ## What is read and what is not -/

/--
Reading a value is given up exactly if it is a list and the first reference that
names no upload has a path that the base path ends in, inside a character; any
other such reference is reported as invalid.  A value in ASCII, like every value
that a request can bring, is never given up.
-/
theorem parse_gives_up_iff (urlPath text : String) :
    (∀ shown, parse urlPath text = .error (.cutInsideCharacter shown) ↔
      ∃ url, FirstNameless urlPath text url ∧ IsUncuttable urlPath url ∧
        shown = String.ofList url) ∧
    (∀ shown, parse urlPath text = .error (.invalidUrl shown) ↔
      ∃ url, FirstNameless urlPath text url ∧ ¬IsUncuttable urlPath url ∧
        shown = String.ofList url) ∧
    ((∀ c ∈ text.toList, c.toNat < 128) →
      ∀ shown, parse urlPath text ≠ .error (.cutInsideCharacter shown)) := by
  refine ⟨fun _ => parse_eq_cutInsideCharacter_iff,
    fun _ => parse_eq_invalidUrl_iff, fun ascii shown cut => ?_⟩
  rcases parse_eq_cutInsideCharacter_iff.1 cut with ⟨url, first, inside, -⟩
  rcases first.listed with ⟨earlier, later, listed, -⟩
  rcases words_of_references? listed with ⟨rest, words, within⟩
  have word : url ∈ Blank.words rest := words ▸ by simp
  exact not_isUncuttable_of_ascii (fun c present =>
    ascii c (within c (Blank.mem_of_mem_words word present))) inside

/-- A list is given up at its second reference, and one in ASCII is not. -/
theorem parse_gives_up_iff_of_lists :
    (∃ url, FirstNameless "/fi" "final;/fi/a /fé" url ∧
        IsUncuttable "/fi" url ∧ "/fé" = String.ofList url) ∧
      (∃ url, FirstNameless "/fi" "final;/fi/a /files/b" url ∧
        ¬IsUncuttable "/fi" url ∧ "/files/b" = String.ofList url) ∧
      ∀ shown, parse "/fi" "final;/fi/a /files/b"
        ≠ .error (.cutInsideCharacter shown) := by
  obtain ⟨cut, -, -⟩ := parse_gives_up_iff "/fi" "final;/fi/a /fé"
  obtain ⟨-, invalid, whole⟩ := parse_gives_up_iff "/fi" "final;/fi/a /files/b"
  have given : parse "/fi" "final;/fi/a /fé"
      = .error (.cutInsideCharacter "/fé") := by
    decide +kernel
  have refused : parse "/fi" "final;/fi/a /files/b"
      = .error (.invalidUrl "/files/b") := by
    decide +kernel
  exact ⟨(cut "/fé").1 given, (invalid "/files/b").1 refused,
    whole (List.all_iff_forall_prop.1 rfl)⟩

/-- A base path of three bytes ends inside the second letter of `/fé`. -/
theorem parse_cuts_inside :
    parse "/fi" "final;/fé" = .error (.cutInsideCharacter "/fé") := by
  decide +kernel

/--
A reference is read as an id exactly if a request to its path reaches the upload
with that id, or if the path would lead there but for some slashes too many
before the id; and with these a request reaches nothing.
-/
theorem parse_reference_iff {urlPath url : String} {path : List Char}
    (solid : ∀ c ∈ url.toList, Blank.isBlank c = false)
    (read : Uri.path? url.toList = some path) (id : String) :
    (parse urlPath ("final;" ++ url) = .ok (.joined [id]) ↔
      Address.uploadId? urlPath (String.ofList path) = some id ∨
        ∃ more, Address.LeadsTo urlPath (more + 1) path id) ∧
    ((∃ more, Address.LeadsTo urlPath (more + 1) path id) →
      Address.uploadId? urlPath (String.ofList path) = none) := by
  have present : url.toList ≠ [] := by
    intro none
    rw [none] at read
    cases read
  have listed : references? ("final;" ++ url) = some [url.toList] := by
    rw [references?_final present fun rest c split =>
      solid c (by rw [split]; simp), Blank.words_of_solid present solid]
  constructor
  · have names : Names urlPath url.toList id ↔
        ∃ more, Address.LeadsTo urlPath more path id := by
      simp [Names, read]
    rw [parse_eq_joined_iff, listed, Address.uploadId?_eq_some_iff_leadsTo]
    simp only [ne_eq, List.cons_ne_nil, not_false_eq_true, true_and,
      Option.some.injEq, exists_eq_left', List.forall₂_cons,
      List.Forall₂.nil, and_true, names]
    constructor
    · rintro ⟨more, leads⟩
      cases more with
      | zero => exact Or.inl leads
      | succ more => exact Or.inr ⟨more, leads⟩
    · rintro (leads | ⟨more, leads⟩)
      · exact ⟨0, leads⟩
      · exact ⟨more + 1, leads⟩
  · rintro ⟨more, leads⟩
    refine Option.eq_none_iff_forall_ne_some.2 fun other reached => ?_
    have apart := (Address.uploadId?_eq_some_iff_leadsTo.1 reached).unique leads
    exact absurd apart.1 (Nat.succ_ne_zero more).symm

/-- So it is with a full reference, in other letters and with a slash more. -/
theorem parse_reference_iff_of_full :
    parse "/files" "final;https://example.com/Files/a/"
      = .ok (.joined ["a"]) := by
  have solid : ∀ c ∈ "https://example.com/Files/a/".toList,
      Blank.isBlank c = false :=
    List.all_iff_forall_prop.1 rfl
  have read : Uri.path? "https://example.com/Files/a/".toList
      = some "/Files/a/".toList := by
    decide +kernel
  have reached : Address.uploadId? "/files" (String.ofList "/Files/a/".toList)
      = some "a" := by
    decide +kernel
  exact ((parse_reference_iff solid read "a").1).2 (Or.inl reached)

/-- What is joined need not be what a request to the same path reaches. -/
theorem parse_reads_two_slashes :
    parse "/files" "final;/files//a" = .ok (.joined ["a"]) ∧
      Uri.path? "/files//a".toList = some "/files//a".toList ∧
      Address.uploadId? "/files" "/files//a" = none := by
  decide +kernel

end Part

end ResumableUpload
