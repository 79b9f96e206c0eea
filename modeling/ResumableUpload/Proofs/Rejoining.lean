import ResumableUpload.Proofs.Metadata
import ResumableUpload.Proofs.References
/-!
# A list of parts can be sent again

An upload that others were joined to tells of them in the form in which they
were named, by their addresses.  What is written so is read again with the same
ids, if the addresses are paths: `Part.CanBeListed.rejoins`.  That they
are needs no assumption on a server that began empty, since an address differs
from the reference that was read by the case of letters and by slashes only:
`Part.CanBeListed.of_parse`.  So the part that an answer tells can be sent back
as it is: `Server.live_tells_joined`.
-/

namespace ResumableUpload

/-! ## Characters that differ in case -/

namespace Ascii

/-- Different characters that are the same up to case are letters. -/
theorem isLetter_of_lower_eq {c d : Char} (alike : lower c = lower d)
    (apart : c ≠ d) : isLetter c = true := by
  have lowered : ∀ code ≤ 90, 65 ≤ code →
      isLetter (Char.ofNat (code + 32)) = true := by
    decide
  have capital {c : Char} (bounds : 'A' ≤ c ∧ c ≤ 'Z') :
      isLetter (Char.ofNat (c.toNat + 32)) = true :=
    lowered _ bounds.2 bounds.1
  rw [lower, lower] at alike
  split at alike
  · rename_i bounds
    rw [isLetter, Bool.or_eq_true]
    exact Or.inr (decide_eq_true bounds)
  · split at alike
    · rename_i bounds
      exact alike ▸ capital bounds
    · exact absurd alike apart

/-- What holds of all letters does not depend on the case. -/
theorem of_lower_eq {holds : Char → Prop} {c d : Char}
    (letters : ∀ c, isLetter c = true → holds c) (alike : lower c = lower d)
    (other : holds d) : holds c := by
  by_cases same : c = d
  · exact same ▸ other
  · exact letters c (isLetter_of_lower_eq alike same)

theorem toNat_lt_of_isLetter {c : Char} (letter : isLetter c = true) :
    c.toNat < 123 := by
  rw [isLetter, Bool.or_eq_true, decide_eq_true_eq, decide_eq_true_eq] at letter
  have high : c.toNat ≤ 122 ∨ c.toNat ≤ 90 := letter.imp And.right And.right
  omega

/-- A letter can stand in a path, and it is no white space. -/
theorem isPathChar_of_isLetter {c : Char} (letter : isLetter c = true) :
    Uri.isPathChar c = true ∧ Blank.isBlank c = false := by
  have all : ∀ code < 123, isLetter (Char.ofNat code) = true →
      Uri.isPathChar (Char.ofNat code) = true ∧
        Blank.isBlank (Char.ofNat code) = false := by
    decide
  have one := all _ (toNat_lt_of_isLetter letter)
  rw [Char.ofNat_toNat] at one
  exact one letter

end Ascii

/-! ## Lists that are written -/

namespace Address

variable {urlPath id : String} {path : List Char} {more : Nat}

theorem toList_addressOf (urlPath id : String) :
    (addressOf urlPath id).toList = baseChars urlPath ++ '/' :: id.toList := by
  simp [addressOf]

/-- An address has the characters of a path that leads there, but for case. -/
theorem LeadsTo.exists_lower_eq (leads : LeadsTo urlPath more path id) :
    ∀ c ∈ (addressOf urlPath id).toList, ∃ d ∈ path,
      Ascii.lower c = Ascii.lower d := by
  rcases leads with ⟨-, start, after, alike, rfl⟩
  intro c present
  rw [toList_addressOf, List.mem_append, List.mem_cons] at present
  rcases present with before | rfl | within
  · have lowered := List.mem_map_of_mem (f := Ascii.lower) before
    rw [← Ascii.same_iff.1 alike] at lowered
    obtain ⟨d, there, same⟩ := List.mem_map.1 lowered
    exact ⟨d, List.mem_append_left _ there, same.symm⟩
  · exact ⟨'/', by simp, rfl⟩
  · exact ⟨c, by simp [within], rfl⟩

/-- And it is not longer. -/
theorem LeadsTo.byteLength_le (leads : LeadsTo urlPath more path id) :
    Split.byteLength (addressOf urlPath id).toList ≤ Split.byteLength path := by
  rcases leads with ⟨-, start, after, alike, rfl⟩
  have slash : Split.byteLength ['/'] = 1 := rfl
  rw [toList_addressOf, List.replicate_succ', ← List.singleton_append]
  simp only [Split.byteLength_append, Ascii.byteLength_of_same alike]
  omega

/-- A path that leads anywhere begins with a slash. -/
theorem LeadsTo.begins (leads : LeadsTo urlPath more path id)
    (form : Uri.IsPath path) :
    path.head? = some '/' ∧ ∀ c ∈ path, Uri.isPathChar c = true := by
  have slash : '/' ∈ path := by
    rcases leads with ⟨-, start, after, -, rfl⟩
    simp
  rcases form with rfl | rfl | begins
  · cases slash
  · exact absurd slash (by decide)
  · exact begins

/-- So does the base path, if there is one. -/
theorem LeadsTo.rooted (leads : LeadsTo urlPath more path id)
    (begins : path.head? = some '/') :
    baseChars urlPath = [] ∨ (baseChars urlPath).head? = some '/' := by
  rcases leads with ⟨-, start, after, alike, rfl⟩
  cases base : baseChars urlPath with
  | nil => exact Or.inl rfl
  | cons first others =>
      rw [base] at alike
      cases start with
      | nil => cases alike
      | cons slash rest =>
          cases begins
          rw [Ascii.same, Bool.and_eq_true, beq_iff_eq] at alike
          have same : '/' = first := Classical.byContradiction fun apart =>
            absurd (Ascii.isLetter_of_lower_eq alike.1 apart) (by decide)
          exact Or.inr (congrArg some same.symm)

end Address

namespace Part

variable {urlPath text : String} {ids : List String} {id : String}

/-- The addresses of some uploads can be told apart in a list and be read. -/
structure CanBeListed (urlPath : String) (ids : List String) : Prop where
  some : ids ≠ []
  rooted : baseChars urlPath = [] ∨ (baseChars urlPath).head? = Option.some '/'
  segments : ∀ id ∈ ids, Address.IsSegment id
  plain : ∀ id ∈ ids, ∀ c ∈ (addressOf urlPath id).toList,
    Uri.isPathChar c = true ∧ Blank.isBlank c = false
  short : ∀ id ∈ ids,
    Split.byteLength (addressOf urlPath id).toList ≤ Uri.maxLength

/-- How parts are written that others are joined to. -/
theorem toList_written (urlPath : String) (ids : List String) :
    (Split.join " " (ids.map (addressOf urlPath))).toList
      = [' '].intercalate
          (ids.map fun id => (addressOf urlPath id).toList) := by
  rw [Split.join, String.toList_intercalate, List.map_map]
  rfl

/-- An address in a list names the upload that it is the address of. -/
theorem CanBeListed.names (listed : CanBeListed urlPath ids)
    (present : id ∈ ids) : Names urlPath (addressOf urlPath id).toList id := by
  have chars := Address.toList_addressOf urlPath id
  have begins : (addressOf urlPath id).toList.head? = Option.some '/' := by
    rw [chars]
    rcases listed.rooted with none | slash
    · rw [none]
      rfl
    · rw [List.head?_append, slash]
      rfl
  refine ⟨_, 0, Uri.path?_of_path begins
    (fun c inside => (listed.plain id present c inside).1)
    (listed.short id present), listed.segments id present, baseChars urlPath, 0,
    Ascii.same_refl _, ?_⟩
  rw [chars]
  simp

/-- What can be listed is read from the list as it was written. -/
theorem CanBeListed.rejoins (listed : CanBeListed urlPath ids) :
    ∃ text, (Part.joined ids).written? urlPath = Option.some text ∧
      parse urlPath text = .ok (.joined ids) := by
  refine ⟨_, rfl, ?_⟩
  have present : ∀ url ∈ ids.map fun id => (addressOf urlPath id).toList,
      url ≠ [] := by
    simp [Address.toList_addressOf]
  have solid : ∀ url ∈ ids.map fun id => (addressOf urlPath id).toList,
      ∀ c ∈ url, Blank.isBlank c = false := by
    rw [List.forall_mem_map]
    exact fun id present c inside => (listed.plain id present c inside).2
  have words := Blank.words_intercalate present solid
  rw [← toList_written] at words
  have nonempty : (Split.join " " (ids.map (addressOf urlPath))).toList
      ≠ [] := by
    intro none
    rw [none] at words
    exact listed.some (List.map_eq_nil_iff.1 words.symm)
  have ends : ∀ rest c, (Split.join " " (ids.map (addressOf urlPath))).toList
      = rest ++ [c] → Blank.isBlank c = false := by
    intro rest c ends
    rw [toList_written] at ends
    exact Blank.not_isBlank_of_intercalate_eq_concat present solid ends
  rw [parse_eq_joined_iff, references?_final nonempty ends, words]
  refine ⟨listed.some, _, rfl, ?_⟩
  rw [List.forall₂_map_left_iff, List.forall₂_same]
  exact fun id present => listed.names present

/-- What holds of letters, slashes and the reference holds of the address. -/
theorem Names.of_mem_addressOf {url : List Char} {holds : Char → Prop}
    (names : Names urlPath url id)
    (letters : ∀ c, Ascii.isLetter c = true → holds c) (slash : holds '/')
    (inside : ∀ d ∈ url, Uri.isPathChar d = true → holds d) :
    ∀ c ∈ (addressOf urlPath id).toList, holds c := by
  rcases names with ⟨path, more, read, leads⟩
  intro c present
  obtain ⟨d, there, alike⟩ := leads.exists_lower_eq c present
  refine Ascii.of_lower_eq letters alike ?_
  have form := Uri.of_path? read
  rcases form.2.2 with within | rfl
  · exact inside d (within.subset there) ((leads.begins form.2.1).2 d there)
  · rwa [List.mem_singleton.1 there]

/-- What has been read from a list can be listed, and in ASCII if it was. -/
theorem CanBeListed.of_parse (read : parse urlPath text = .ok (.joined ids)) :
    CanBeListed urlPath ids ∧ ((∀ c ∈ text.toList, c.toNat < 128) →
      ∀ id ∈ ids, ∀ c ∈ (addressOf urlPath id).toList, c.toNat < 128) := by
  obtain ⟨some, references, listed, named⟩ := parse_eq_joined_iff.1 read
  obtain ⟨rest, rfl, within⟩ := words_of_references? listed
  have named : ∀ id ∈ ids, ∃ url ∈ Blank.words rest, Names urlPath url id := by
    intro id present
    obtain ⟨place, bound, rfl⟩ := List.mem_iff_getElem.1 present
    have length := named.length_eq
    exact ⟨_, List.getElem_mem (length ▸ bound),
      named.get (length ▸ bound) bound⟩
  -- What has to be known of an id is read off the reference that named it.
  refine ⟨⟨some, ?_, ?_, ?_, ?_⟩, ?_⟩
  · obtain ⟨id, present⟩ := List.exists_mem_of_ne_nil ids some
    obtain ⟨url, -, path, more, read, leads⟩ := named id present
    exact leads.rooted (leads.begins (Uri.of_path? read).2.1).1
  · intro id present
    obtain ⟨url, -, path, more, read, leads⟩ := named id present
    exact leads.1
  · intro id present
    obtain ⟨url, word, names⟩ := named id present
    exact names.of_mem_addressOf (fun c => Ascii.isPathChar_of_isLetter)
      (by decide) fun d there path =>
        ⟨path, Blank.not_isBlank_of_mem_words word there⟩
  · intro id present
    obtain ⟨url, -, path, more, read, leads⟩ := named id present
    obtain ⟨bounded, -, within⟩ := Uri.of_path? read
    refine leads.byteLength_le.trans ?_
    rcases within with ⟨before, after, rfl⟩ | rfl
    · simp only [Split.byteLength_append] at bounded
      omega
    · decide
  · intro ascii id present
    obtain ⟨url, word, names⟩ := named id present
    refine names.of_mem_addressOf (fun c letter => ?_) (by decide)
      fun d there _ => ascii d (within d (Blank.mem_of_mem_words word there))
    exact Nat.lt_trans (Ascii.toNat_lt_of_isLetter letter) (by decide)

end Part

/-! ## Parts of stored uploads -/

variable {service : Service} {exchange checked : Exchange} {scene : Scene}

/-- A part is none, or uploads can be joined and some value was read as it. -/
def Service.HasRead (service : Service) (part : Part) : Prop :=
  part = .whole ∨ service.terms.supports .concatenation = true ∧
    ∃ headers : Headers, Part.parse service.config.urlPath
      ((headers.text? HeaderName.uploadConcat).getD "") = .ok part

namespace Handling

variable {upload : Upload}

/-- A birth brings the upload that is born, with or without an end of life. -/
theorem Birth.gains {holds : Upload → Prop}
    {answer : Option Instant → Exchange × Outcome}
    {played : Played (Except Failure (Exchange × Outcome))}
    (birth : Birth service upload scene answer played) (has : holds upload)
    (renewed : ∀ expiry, holds (upload.renewed expiry)) :
    Store.Gains holds scene.store played.scene.store := by
  cases birth with
  | failed failure => exact .of_eq rfl
  | unlimited free => exact .insert has
  | dated limited dated => exact .insert (renewed _)
  | endless limited endless => exact .insert has
  | timeless limited unreadable => exact .insert has

/-- A concatenation brings an upload that plays the part that was declared. -/
theorem concatenate_gains (numbered : scene.store.IsNumbered)
    (apart : checked.part ≠ .whole) :
    Store.Gains (·.part = checked.part) scene.store
      (((concatenate service).carryOut checked).play scene).scene.store := by
  rw [concatenate]
  simp only
  cases part : checked.part with
  | whole => exact absurd part apart
  | piece => exact (createPiece_birth numbered checked).gains rfl fun _ => rfl
  | joined ids =>
      rcases play_createJoined_cases service numbered checked ids
        with ⟨failure, fails⟩ | ⟨content, joins⟩
      · simp only [fails]
        exact .of_eq rfl
      · simp only [joins]
        exact .insert rfl

end Handling

namespace Part

theorem parse_ne_whole (urlPath text : String) :
    parse urlPath text ≠ .ok .whole := by
  rw [parse_eq]
  split
  · rw [ne_eq, joining_eq_ok_iff]
    rintro ⟨ids, contrary, -⟩
    cases contrary
  · split <;> nofun

end Part

/-- What a concatenation has checked is a part that was read. -/
theorem Handling.concatenate_check_reads {after : Scene}
    (fresh : exchange.declared.length = none)
    (checks : ((concatenate service).check exchange).play scene
      = .finished (.ok (.ok checked)) after) :
    Part.parse service.config.urlPath
      ((exchange.headers.text? HeaderName.uploadConcat).getD "")
      = .ok checked.part := by
  rcases Check.bind_ends_well checks with ⟨middle, _, parted, reads⟩
  have still := (Requirement.part_ends_well fresh parted).1
  rcases Check.ends_well_of_play (Check.play_ofExcept _ _) reads with
    ⟨reads, -⟩
  rw [(Requirement.declared_accepts still reads).2]
  rw [Requirement.part] at parted
  simp only at parted
  split at parted
  · cases parted
  · rename_i part parsed
    rcases Check.bind_ends_well parted with ⟨_, _, -, ends⟩
    cases ends
    exact parsed

namespace Protocol

/-- A creation brings an upload that stands alone, or a part that was read. -/
theorem handleIntent_gains_part {request : Request} {intent : Intent}
    {handling : Handling} {rest : List Intent}
    (numbered : scene.store.IsNumbered)
    (asked : intentsOf service request = intent :: rest)
    (handled : Handling.ofIntent? service intent = some handling)
    (creates : intent.creates = true) :
    Store.Gains (fun upload => service.HasRead upload.part) scene.store
      ((handleIntent intent handling (.ofRequest service request)).play
        scene).scene.store := by
  rcases handleIntent_store (Handling.asks_check handled
      (versioned (Exchange.ofRequest service request))) intent scene with
    same | ⟨checked, before, told, -, second, checks, left⟩
  · exact .of_eq same
  · rw [← left, ← second.store]
    have numbered : told.store.IsNumbered := second.store ▸ numbered
    cases intent with
    | createFile =>
        cases handled
        exact (Handling.create_birth numbered checked).gains (Or.inl rfl)
          fun _ => Or.inl rfl
    | concatenate =>
        cases handled
        have supported : service.terms.supports .concatenation = true :=
          Intent.supports_of_concatenate (congrArg List.head? asked)
        have read := Handling.concatenate_check_reads rfl checks
        have apart : checked.part ≠ .whole := fun whole =>
          Part.parse_ne_whole _ _ (read.trans (congrArg Except.ok whole))
        refine (Handling.concatenate_gains numbered apart).mono ?_
        intro upload part
        exact Or.inr ⟨supported, request.headers, part ▸ read⟩
    | _ => cases creates

end Protocol

/-- Every part that is stored has been read, whatever has happened. -/
theorem Server.live_hasRead {start : Server} (quiet : start.IsQuiet)
    (empty : start.store = {}) (occurrences : List Occurrence) {id : String}
    {upload : Upload}
    (found : (start.live occurrences).store.find? id = some upload) :
    start.service.HasRead upload.part := by
  refine quiet.live_gains empty
    (fun upload => start.service.HasRead upload.part)
    (fun earlier later grows read => ?_) ?_ occurrences found
  · rwa [grows.part]
  · intro request scene intent handling rest numbered asked handled creates
    exact Protocol.handleIntent_gains_part numbered asked handled creates

/-! ## The part in an answer -/

namespace Field

/-- A text of visible characters is read from the value it is written as. -/
theorem textOf?_ofString {text : String}
    (visible : ∀ c ∈ text.toList, 0x20 ≤ c.toNat ∧ c.toNat ≤ 0x7E) :
    textOf? (Bytes.ofString text) = some text ∧
      (Bytes.ofString text).all isWritable = true := by
  have all : ∀ code ≤ 0x7E, 0x20 ≤ code →
      String.utf8EncodeChar (Char.ofNat code) = [UInt8.ofNat code] ∧
        isVisible (UInt8.ofNat code) = true ∧
        Char.ofNat (UInt8.ofNat code).toNat = Char.ofNat code := by
    decide
  have one {c : Char} (bounds : 0x20 ≤ c.toNat ∧ c.toNat ≤ 0x7E) :
      String.utf8EncodeChar c = [UInt8.ofNat c.toNat] ∧
        isVisible (UInt8.ofNat c.toNat) = true ∧
        Char.ofNat (UInt8.ofNat c.toNat).toNat = c := by
    have encoded := all _ bounds.2 bounds.1
    rwa [Char.ofNat_toNat] at encoded
  have bytes : Bytes.ofString text
      = text.toList.map fun c => UInt8.ofNat c.toNat := by
    rw [Bytes.ofString_eq_flatMap]
    exact (List.flatMap_congr fun c present =>
      (one (visible c present)).1).trans List.map_eq_flatMap.symm
  have shown : ∀ byte ∈ Bytes.ofString text, isVisible byte = true := by
    rw [bytes, List.forall_mem_map]
    exact fun c present => (one (visible c present)).2.1
  refine ⟨?_, List.all_eq_true.2 fun byte present =>
    isWritable_of_isVisible (shown byte present)⟩
  rw [textOf?, if_pos (List.all_eq_true.2 shown), bytes, List.map_map]
  have back : text.toList.map ((fun byte => Char.ofNat byte.toNat) ∘
      fun c => UInt8.ofNat c.toNat) = text.toList :=
    (List.map_congr_left fun c present => (one (visible c present)).2.2).trans
      (List.map_id _)
  rw [back, String.ofList_toList]

end Field

/-- The fields are read in ASCII only. -/
theorem Headers.ascii_of_text? {headers : Headers} {name text : String}
    (reads : headers.text? name = some text) :
    ∀ c ∈ text.toList, c.toNat < 128 := by
  obtain ⟨value, -, reads⟩ := Option.bind_eq_some_iff.1 reads
  rw [Field.textOf?] at reads
  split at reads
  · rename_i visible
    cases reads
    rw [String.toList_ofList, List.forall_mem_map]
    intro byte present
    have all : ∀ code < 128, (Char.ofNat code).toNat < 128 := by
      decide
    exact all _ (Field.toNat_lt_of_isVisible
      (List.all_eq_true.1 visible byte present))
  · cases reads

namespace Part

/-- A character of a path in ASCII is visible. -/
theorem visible_of_isPathChar {c : Char} (path : Uri.isPathChar c = true)
    (ascii : c.toNat < 128) : 0x20 ≤ c.toNat ∧ c.toNat ≤ 0x7E := by
  simp only [Uri.isPathChar, Bool.or_eq_true, decide_eq_true_eq] at path
  omega

/-- A part that was read from ASCII is written so that it is read again. -/
theorem written_of_parse {urlPath text : String} {part : Part}
    (read : parse urlPath text = .ok part)
    (ascii : ∀ c ∈ text.toList, c.toNat < 128) :
    ∃ written, part.written? urlPath = some written ∧
      (∀ c ∈ written.toList, 0x20 ≤ c.toNat ∧ c.toNat ≤ 0x7E) ∧
      parse urlPath written = .ok part := by
  cases part with
  | whole => exact absurd read (parse_ne_whole urlPath text)
  | piece => exact ⟨"partial", rfl, List.all_iff_forall_prop.1 rfl, rfl⟩
  | joined ids =>
      obtain ⟨listed, narrow⟩ := CanBeListed.of_parse read
      obtain ⟨written, writes, reads⟩ := listed.rejoins
      refine ⟨written, writes, ?_, reads⟩
      cases writes
      intro c present
      rw [String.toList_append, List.mem_append, toList_written] at present
      rcases present with kind | inside
      · have all : ∀ c ∈ "final;".toList, 0x20 ≤ c.toNat ∧ c.toNat ≤ 0x7E :=
          List.all_iff_forall_prop.1 rfl
        exact all c kind
      · rcases Blank.of_mem_intercalate inside with rfl | ⟨url, there, within⟩
        · decide
        · obtain ⟨id, among, rfl⟩ := List.mem_map.1 there
          exact visible_of_isPathChar (listed.plain id among c within).1
            (narrow ascii id among c within)

end Part

/-- The answer about an upload tells its part, if it can be written. -/
theorem Handling.values_answerInfo_part (service : Service)
    (silent : checked.response.headers.values HeaderName.uploadConcat = [])
    (length : Option Nat) (offset : Nat) (metadata : Option String)
    (part : Part) (expiry? : Option Instant) :
    (answerInfo service checked length offset metadata part
      expiry?).response.headers.values HeaderName.uploadConcat
      = (((part.written? service.config.urlPath).filter fun text =>
          (Bytes.ofString text).all Field.isWritable).map
            Bytes.ofString).toList := by
  obtain ⟨measured, silent, answers⟩ := answerInfo_eq service (by decide)
    silent length offset metadata part expiry?
  rw [answers, Exchange.values_answerFieldIf_of_ne (by decide)]
  exact Exchange.values_answerFieldIf_self
    ((Exchange.values_answerFieldIf_of_ne (by decide) _).trans silent) _

namespace Server

/--
On a server that began empty, whoever asks about an upload that takes part in a
concatenation, and is told how far it is, is told the part in a way in which it
is understood.
-/
theorem live_tells_part {start : Server} (quiet : start.IsQuiet)
    (empty : start.store = {}) (earlier : List Occurrence) {question : Visit}
    {id : String} (asks : question.request.AsksAbout start.service id)
    (unstopped : ∀ act ∈ (start.live earlier).acts question,
      act.stops = false) {response : Response}
    (answered : ((start.live earlier).visit question).1.response?
      = some response) (status : response.status = 200) :
    ∃ upload, (start.live earlier).store.find? id = some upload ∧
      (upload.part ≠ .whole → ∃ value,
        response.headers.values HeaderName.uploadConcat = [value] ∧
        ∀ headers : Headers,
          headers.first? HeaderName.uploadConcat = some value →
          Part.parse start.service.config.urlPath
            ((headers.text? HeaderName.uploadConcat).getD "")
            = .ok upload.part) := by
  have lives := quiet.live_succeeds earlier
  obtain ⟨after, ends⟩ := lives.quiet.play_of_response? answered
  rw [← lives.service] at asks
  rw [lives.quiet.acts_eq] at unstopped
  obtain ⟨upload, checked, part, found, silent, same, rfl⟩ :=
    Protocol.handle_head_answers asks unstopped ends status
  have found : (start.live earlier).store.find? id = some upload := found
  refine ⟨upload, found, fun takes => ?_⟩
  rw [lives.service] at same
  obtain ⟨supported, fields, read⟩ :=
    (live_hasRead quiet empty earlier found).resolve_left takes
  have ascii : ∀ c ∈ ((fields.text? HeaderName.uploadConcat).getD "").toList,
      c.toNat < 128 := by
    cases text : fields.text? HeaderName.uploadConcat with
    | none => exact nofun
    | some text => exact Headers.ascii_of_text? text
  obtain ⟨written, writes, visible, again⟩ :=
    Part.written_of_parse read ascii
  obtain ⟨shown, writable⟩ := Field.textOf?_ofString visible
  refine ⟨Bytes.ofString written, ?_, fun headers first => ?_⟩
  · rw [Handling.values_answerInfo_part _ (silent _ (by decide)),
      same supported, lives.service, writes, Option.filter_some,
      if_pos writable]
    rfl
  · rw [Headers.text?, first, Option.bind_some, shown]
    exact again

/--
A list of uploads is read from the text it is written as, with the same ids in
the same order and as often, if there are any, the base path is empty or begins
with a slash, only characters of a path occur and no address is too long.  And
whoever asks a server that began empty about an upload that others were joined
to is told these others in a text that names them again.
-/
theorem live_tells_joined (urlPath : String) :
    (∀ ids : List String, ids ≠ [] →
      (baseChars urlPath = [] ∨ (baseChars urlPath).head? = some '/') →
      (∀ id ∈ ids, Address.IsSegment id) →
      (∀ c ∈ urlPath.toList,
        Uri.isPathChar c = true ∧ Blank.isBlank c = false) →
      (∀ id ∈ ids, ∀ c ∈ id.toList,
        Uri.isPathChar c = true ∧ Blank.isBlank c = false) →
      (∀ id ∈ ids,
        Split.byteLength (addressOf urlPath id).toList ≤ Uri.maxLength) →
      ∃ text, (Part.joined ids).written? urlPath = some text ∧
        Part.parse urlPath text = .ok (.joined ids)) ∧
    ∀ (start : Server) (earlier : List Occurrence) (question : Visit)
      (id : String) (response : Response), start.IsQuiet → start.store = {} →
      start.service.config.urlPath = urlPath →
      question.request.AsksAbout start.service id →
      (∀ act ∈ (start.live earlier).acts question, act.stops = false) →
      ((start.live earlier).visit question).1.response? = some response →
      response.status = 200 →
      ∃ upload, (start.live earlier).store.find? id = some upload ∧
        ∀ ids, upload.part = .joined ids → ∃ value,
          response.headers.values HeaderName.uploadConcat = [value] ∧
          ∀ headers : Headers,
            headers.first? HeaderName.uploadConcat = some value →
            headers.NamesPieces start.service ids := by
  constructor
  · intro ids some rooted segments base chars short
    have listed : Part.CanBeListed urlPath ids := {
      some := some
      rooted := rooted
      segments := segments
      plain := by
        intro id present c inside
        rw [Address.toList_addressOf, List.mem_append, List.mem_cons] at inside
        rcases inside with before | rfl | within
        · obtain ⟨count, whole⟩ := Split.exists_eq_trimEnd_append '/'
            urlPath.toList
          exact base c (whole ▸ List.mem_append_left _ before)
        · decide
        · exact chars id present c within
      short := short }
    exact listed.rejoins
  · intro start earlier question id response quiet empty path asks unstopped
      answered status
    obtain ⟨upload, found, tells⟩ := live_tells_part quiet empty earlier asks
      unstopped answered status
    refine ⟨upload, found, fun ids joined => ?_⟩
    rw [joined] at tells
    exact tells nofun

/-- An upload is created and written, and is joined with itself. -/
def joiningItself : List Occurrence :=
  [.visit (.creating [(HeaderName.uploadLength, "2"),
      (HeaderName.uploadConcat, "partial")]),
    .visit (.writing "0" "ab" []),
    .visit (.creating
      [(HeaderName.uploadConcat, "final;/files/~0~ /files//~0~/")])]

/-- A visit that asks about the second upload of a store. -/
def askingSecond : Visit where
  request :=
    { method := .head
      path := "/files/~1~"
      headers := .ofTexts [(HeaderName.tusResumable, protocolVersion)] }

/-- So it is with a list that names one twice, and with the upload joined. -/
theorem live_tells_joined_twice :
    Part.parse "/files" "final;/files/a /files/b /files/a"
        = .ok (.joined ["a", "b", "a"]) ∧
      ∃ response value,
        ((live {} joiningItself).visit askingSecond).1.response?
          = some response ∧
        response.headers.values HeaderName.uploadConcat = [value] ∧
        ∀ headers : Headers,
          headers.first? HeaderName.uploadConcat = some value →
          headers.NamesPieces {} ["~0~", "~0~"] := by
  obtain ⟨lists, tells⟩ := live_tells_joined "/files"
  constructor
  · have letters : ∀ id ∈ ["a", "b", "a"], (id.toList.all fun c =>
        Uri.isPathChar c && !Blank.isBlank c) = true := by
      decide
    obtain ⟨text, written, read⟩ := lists ["a", "b", "a"] (by decide)
      (by decide) (by decide) (List.all_iff_forall_prop.1 rfl)
      (fun id present => by simpa using letters id present) (by decide)
    have same : text = "final;/files/a /files/b /files/a" := by
      cases written
      decide +kernel
    rwa [same] at read
  · have answered : ((live {} joiningItself).visit askingSecond).1.response?.map
        Response.status = some 200 := by
      decide +kernel
    obtain ⟨response, answered, status⟩ := Option.map_eq_some_iff.1 answered
    have unstopped : ∀ act ∈ (live {} joiningItself).acts askingSecond,
        act.stops = false := by
      decide +kernel
    have asks : askingSecond.request.AsksAbout {} "~1~" := by
      decide +kernel
    have joined : ((live {} joiningItself).store.find? "~1~").map Upload.part
        = some (.joined ["~0~", "~0~"]) := by
      decide +kernel
    obtain ⟨upload, found, told⟩ := tells {} joiningItself askingSecond "~1~"
      response ⟨rfl, fun _ => rfl⟩ rfl rfl asks unstopped answered status
    rw [found] at joined
    obtain ⟨value, values, again⟩ := told _ (Option.some.inj joined)
    exact ⟨response, value, answered, values, again⟩

end Server

end ResumableUpload
