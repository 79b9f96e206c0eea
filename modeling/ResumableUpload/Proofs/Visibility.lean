import ResumableUpload.Proofs.Traffic.Answers
/-!
# What others see of an upload that is written to

Who asks how far an upload is, and who joins uploads to a new one, needs no
lease and may do so while somebody writes.  So they may see bytes that have been
appended and have not been verified, and if the checksum does not agree, these
bytes are discarded: `Traffic.shows_and_discards`.

Nothing else that is seen is ever discarded.  Bytes of an upload that were not
on trial at the moment when they were read are what the upload begins with for
ever, and the offsets in answers that follow one another do not decrease:
`Traffic.run_showsWhatLasts`.  It is said of every interleaving of any number of
requests other than deletions.
-/

namespace ResumableUpload

/-- What a request has been answered. -/
def Passage.answer? (passage : Passage) : Option Response :=
  match passage.halt with
  | .finished (.ok (.respond response)) => some response
  | _ => none

/-- Who asked how far an upload is has been answered with an offset. -/
def Passage.Shows (service : Service) (id : String) (offset : Nat)
    (passage : Passage) : Prop :=
  Protocol.intentsOf service passage.request = [.fileInfo] ∧
    Protocol.addressed service passage.request = id ∧
    (passage.answer?.bind fun response =>
        response.headers.first? HeaderName.uploadOffset)
      = some (Bytes.ofString (toString offset))

instance (service : Service) (id : String) (offset : Nat) (passage : Passage) :
    Decidable (passage.Shows service id offset) :=
  inferInstanceAs (Decidable (_ ∧ _ ∧ _))

/-- A number is known by its decimal form. -/
theorem Bytes.ofString_toString_injective {number other : Nat}
    (same : ofString (toString number) = ofString (toString other)) :
    number = other := by
  have texts : toString number = toString other :=
    String.toByteArray_inj.1 (ByteArray.ext (Array.toList_inj.1 same))
  exact Store.idOf_injective (by rw [Store.idOf, texts, Store.idOf])

namespace Traffic

/--
At a moment when a request acted it found these bytes in an upload.  They were
on trial then, or they are still there.
-/
def Reveals (start : Traffic) (moves : List Move) (key : Nat) (id : String)
    (bytes : Bytes) : Prop :=
  ∃ earlier later, moves = earlier ++ .act key :: later ∧
    (start.run earlier).Finds key id bytes ∧
    ((start.run earlier).IsOnTrial id bytes ∨
      (start.run moves).server.store.Begins id bytes)

/--
What others see of an upload lasts, unless it was on trial when they saw it.
-/
structure ShowsWhatLasts (start : Traffic) (moves : List Move) : Prop where
  /-- The offset in an answer is how many bytes the request has found. -/
  answers : ∀ (key : Nat) (passage : Passage) (id : String) (offset : Nat),
    (start.run moves).passages[key]? = some passage →
    passage.Shows start.server.service id offset →
    ∃ bytes, bytes.length = offset ∧ start.Reveals moves key id bytes
  /-- A joined upload is gathered from the bytes that the request has found. -/
  joins : ∀ (key : Nat) (passage : Passage) (ids : List String)
    (metadata : Option String) (id : String),
    (start.run moves).passages[key]? = some passage →
    .called (.createJoined ids metadata) (.ok id) ∈ passage.past →
    ∃ earlier later content, moves = earlier ++ .act key :: later ∧
      (id, Upload.joining ids metadata content)
        ∈ (start.run (earlier ++ [.act key])).server.store.uploads ∧
      Gathers (start.Reveals moves key) ids content
  /--
  Who comes after an answer is not answered with less, unless the bytes that
  were counted first were on trial when they were found.
  -/
  successive : ∀ (earlier later : List Move), moves = earlier ++ later →
    ∀ (one other : Nat) (passage rival : Passage) (id : String)
      (first second : Nat),
    (start.run earlier).passages[one]? = some passage →
    passage.Shows start.server.service id first →
    (start.run earlier).passages.length ≤ other →
    (start.run moves).passages[other]? = some rival →
    rival.Shows start.server.service id second →
    first ≤ second ∨
      ∃ before after bytes, earlier = before ++ .act one :: after ∧
        (start.run before).Finds one id bytes ∧ bytes.length = first ∧
        (start.run before).IsOnTrial id bytes

variable {server : Server} {moves : List Move}

/-- Bytes that are found and are not on trial stay. -/
theorem Finds.begins (faultless : server.IsFaultless) {before later : List Move}
    (spares : ∀ move ∈ before ++ later, move.isLasting server.service = true)
    {key : Nat} {id : String} {bytes : Bytes}
    (finds : ((begin server).run before).Finds key id bytes)
    (free : ¬((begin server).run before).IsOnTrial id bytes) :
    ((begin server).run (before ++ later)).server.store.Begins id bytes := by
  rcases finds with ⟨-, upload, found, rfl⟩
  have secures : ((begin server).run before).Secures id upload.content :=
    ⟨⟨upload, found, List.prefix_rfl⟩, free⟩
  have lasting : ((begin server).run before).IsLasting :=
    run_isLasting faultless fun move present =>
      spares move (List.mem_append_left _ present)
  rw [run_append]
  refine (secures.run (run_isOrderly faultless before) lasting ?_).begins
  intro move present
  rw [service_run faultless]
  exact spares move (List.mem_append_right _ present)

theorem Reads.reveals (faultless : server.IsFaultless)
    (spares : ∀ move ∈ moves, move.isLasting server.service = true)
    {key : Nat} {id : String} {bytes : Bytes}
    (reads : (begin server).Reads moves key id bytes) :
    (begin server).Reveals moves key id bytes := by
  rcases reads with ⟨earlier, later, rfl, finds⟩
  refine ⟨earlier, later, rfl, finds, ?_⟩
  by_cases trial : ((begin server).run earlier).IsOnTrial id bytes
  · exact .inl trial
  · exact .inr (finds.begins faultless spares trial)

/-- The offset that is answered counts bytes that have been read. -/
theorem exists_reads_of_shows (faultless : server.IsFaultless)
    (spares : ∀ move ∈ moves, move.isLasting server.service = true) {key : Nat}
    {passage : Passage} {id : String} {offset : Nat}
    (present : ((begin server).run moves).passages[key]? = some passage)
    (shows : passage.Shows server.service id offset) :
    ∃ bytes, (begin server).Reads moves key id bytes ∧
      bytes.length = offset := by
  obtain ⟨asks, rfl, shown⟩ := shows
  rcases Option.bind_eq_some_iff.1 shown with ⟨response, answered, shown⟩
  have finished : passage.halt = .finished (.ok (.respond response)) := by
    rw [Passage.answer?] at answered
    split at answered
    · rename_i halt
      cases answered
      exact halt
    · cases answered
  rcases run_shows faultless present asks finished _ shown with
    ⟨stored, told, same⟩
  rw [Bytes.ofString_toString_injective same]
  exact (run_accounts faultless spares key passage present).offsets _ told _ _
    rfl

/-- Nobody who has come is forgotten. -/
theorem length_le_move (traffic : Traffic) (move : Move) :
    traffic.passages.length ≤ (traffic.move move).passages.length := by
  cases own : move.key? with
  | some key =>
      rw [move_of_key own, update]
      split
      · exact Nat.le_refl _
      · exact Nat.le_of_eq List.length_set.symm
  | none =>
      cases move with
      | arrive request client =>
          rw [Traffic.move, List.length_append]
          exact Nat.le_add_right _ _
      | elapse milliseconds => exact Nat.le_refl _
      | act | hear | leave => cases own

theorem length_le_run (traffic : Traffic) (moves : List Move) :
    traffic.passages.length ≤ (traffic.run moves).passages.length := by
  induction moves generalizing traffic with
  | nil => exact Nat.le_refl _
  | cons first later hypothesis =>
      exact Nat.le_trans (length_le_move traffic first)
        (hypothesis (traffic.move first))

/-- Who comes after an answer reads after it. -/
theorem Reads.exists_after {start : Traffic} {earlier later : List Move}
    {other : Nat} {id : String} {bytes : Bytes}
    (reads : start.Reads (earlier ++ later) other id bytes)
    (late : (start.run earlier).passages.length ≤ other) :
    ∃ between, (start.run (earlier ++ between)).Finds other id bytes ∧
      between <+: later := by
  rcases reads with ⟨before, after, all, finds⟩
  rcases List.append_eq_append_iff.1 all with
    ⟨between, rfl, rest⟩ | ⟨between, rfl, -⟩
  · exact ⟨between, finds, _, rest.symm⟩
  · have there := length_le_run (start.run before) between
    rw [← run_append] at there
    have absent := finds.1
    omega

/-- Who comes later finds all that was found before and was not on trial. -/
theorem Reads.successive (faultless : server.IsFaultless)
    {earlier later : List Move}
    (spares : ∀ move ∈ earlier ++ later, move.isLasting server.service = true)
    {one other : Nat} {id : String} {counted found : Bytes}
    (first : (begin server).Reads earlier one id counted)
    (second : (begin server).Reads (earlier ++ later) other id found)
    (late : ((begin server).run earlier).passages.length ≤ other) :
    counted.length ≤ found.length ∨
      ∃ before after, earlier = before ++ .act one :: after ∧
        ((begin server).run before).Finds one id counted ∧
        ((begin server).run before).IsOnTrial id counted := by
  rcases second.exists_after late with ⟨between, ⟨-, upload, found, rfl⟩, part⟩
  rcases first with ⟨before, after, rfl, finds⟩
  by_cases trial : ((begin server).run before).IsOnTrial id counted
  · exact .inr ⟨before, after, rfl, finds, trial⟩
  · have spared (move : Move)
        (present : move ∈ before ++ (.act one :: after ++ between)) :
        move.isLasting server.service = true := by
      refine spares move ?_
      rw [← List.append_assoc] at present
      rcases List.mem_append.1 present with present | present
      · exact List.mem_append_left _ present
      · exact List.mem_append_right _ (part.subset present)
    have begins := finds.begins faultless spared trial
    rw [← List.append_assoc] at begins
    rcases begins with ⟨again, same, begins⟩
    cases found.symm.trans same
    exact .inl begins.length_le

/--
Whatever requests other than deletions come to a server on which nothing fails,
and whatever the order in which they act: what others see of an upload lasts,
unless it was on trial when they saw it.
-/
theorem run_showsWhatLasts (faultless : server.IsFaultless)
    (undeleted : ∀ request client, .arrive request client ∈ moves →
      .deleteFile ∉ Protocol.intentsOf server.service request) :
    (begin server).ShowsWhatLasts moves := by
  have spares (move : Move) (present : move ∈ moves) :
      move.isLasting server.service = true := by
    cases move with
    | arrive request client =>
        have spared := undeleted request client present
        rw [Move.isLasting, Law.ofRequest, Bool.not_eq_true',
          beq_eq_false_iff_ne]
        intro first
        exact spared (List.mem_of_mem_head? first)
    | act | hear | leave | elapse => rfl
  constructor
  · intro key passage id offset present shows
    rcases exists_reads_of_shows faultless spares present shows with
      ⟨bytes, reads, long⟩
    exact ⟨bytes, long, reads.reveals faultless spares⟩
  · intro key passage ids metadata id present joined
    rcases (run_accounts faultless spares key passage present).joined _ joined
      ids metadata id rfl with ⟨earlier, later, content, all, gathers, there⟩
    refine ⟨earlier, later, content, all, there, gathers.mono ?_⟩
    intro id bytes reads
    have whole : moves = earlier ++ [.act key] ++ later := by
      rw [all, List.append_assoc]
      rfl
    exact (whole ▸ reads.append later).reveals faultless spares
  · rintro earlier later rfl one other passage rival id first second present
      shows late there again
    have before (move : Move) (present : move ∈ earlier) :
        move.isLasting server.service = true :=
      spares move (List.mem_append_left _ present)
    rcases exists_reads_of_shows faultless before present shows with
      ⟨counted, reads, rfl⟩
    rcases exists_reads_of_shows faultless spares there again with
      ⟨found, reads_again, rfl⟩
    rcases reads.successive faultless spares reads_again late with
      grows | ⟨before, after, all, finds, trial⟩
    · exact .inl grows
    · exact .inr ⟨before, after, counted, all, finds, rfl, trial⟩

/-! ## Bytes that do not last -/

/-- Who asked how far an upload is has been answered with an offset. -/
def HasShown (traffic : Traffic) (key : Nat) (id : String) (offset : Nat) :
    Prop :=
  ∃ passage ∈ traffic.passages[key]?,
    passage.answer?.map Response.status = some 200 ∧
    passage.Shows traffic.server.service id offset

instance (traffic : Traffic) (key : Nat) (id : String) (offset : Nat) :
    Decidable (traffic.HasShown key id offset) :=
  inferInstanceAs (Decidable (∃ passage ∈ _, _ ∧ _))

/-- An upload is created, of which nothing is there. -/
def creation : List Move :=
  let visit := Visit.creating [(HeaderName.uploadLength, "10")]
  .arrive visit.request visit.client :: List.replicate 6 (.act 0)

/-- Somebody comes to ask how far the upload is. -/
def inquiry : Move :=
  .arrive
    { method := .head
      path := "/files/~0~"
      headers := .ofTexts [(HeaderName.tusResumable, protocolVersion)] } {}

/--
Bytes are appended and a checksum is awaited that has been promised; meanwhile
somebody asks, and is answered.
-/
def showing : List Move :=
  let write := Visit.writing "0" "hello"
    [(HeaderName.trailer, "Upload-Checksum")]
  creation ++ .arrive { write.request with hasTrailers := true }
      { write.client with trailers := .awaited }
    :: List.replicate 10 (.act 1) ++ inquiry :: List.replicate 8 (.act 2)

/-- There is no checksum, the bytes are discarded, and somebody else asks. -/
def discarding : List Move :=
  .hear 1 (.trailers none) :: List.replicate 4 (.act 1)
    ++ inquiry :: List.replicate 8 (.act 3)

/-- Somebody asks; then bytes are appended, and who asks next is answered. -/
def overtaking : List Move :=
  let write := Visit.writing "0" "hello" []
  creation ++ inquiry :: List.replicate 6 (.act 1)
    ++ .arrive write.request write.client :: List.replicate 10 (.act 2)
    ++ inquiry :: List.replicate 8 (.act 3)

/--
Bytes are shown that are discarded afterwards, and an offset is answered that is
less than the offset answered before.  The latter also happens to who asks first
and is answered last, even if nothing is discarded.
-/
theorem shows_and_discards :
    ((begin {}).run showing).HasShown 2 "~0~" 5 ∧
      ((begin {}).run showing).passages.length ≤ 3 ∧
      ((begin {}).run (showing ++ discarding)).HasShown 3 "~0~" 0 ∧
      ((begin {}).run overtaking).HasShown 3 "~0~" 5 ∧
      ((begin {}).run overtaking).passages[1]?.map Passage.answer?
        = some none ∧
      ((begin {}).run (overtaking ++ [.act 1, .act 1])).HasShown 1 "~0~" 0 := by
  decide +kernel

theorem run_showsWhatLasts_discarding :
    ∃ before after bytes, showing = before ++ .act 2 :: after ∧
      ((begin {}).run before).Finds 2 "~0~" bytes ∧ bytes.length = 5 ∧
      ((begin {}).run before).IsOnTrial "~0~" bytes := by
  have faultless : ({} : Server).IsFaultless := fun _ => rfl
  have undeleted : ∀ request client,
      .arrive request client ∈ showing ++ discarding →
      .deleteFile ∉ Protocol.intentsOf {} request := by
    have all : (showing ++ discarding).all (fun
        | .arrive request _ =>
            !(Protocol.intentsOf {} request).contains .deleteFile
        | _ => true) = true := by decide +kernel
    intro request client present deletes
    have none := List.all_eq_true.1 all _ present
    simp [deletes] at none
  have lasts := run_showsWhatLasts faultless undeleted
  obtain ⟨passage, present, -, shows⟩ :
      ((begin {}).run showing).HasShown 2 "~0~" 5 := by
    decide +kernel
  obtain ⟨rival, there, -, again⟩ :
      ((begin {}).run (showing ++ discarding)).HasShown 3 "~0~" 0 := by
    decide +kernel
  have late : ((begin {}).run showing).passages.length ≤ 3 := by
    decide +kernel
  rw [service_run faultless] at shows again
  rcases lasts.successive showing discarding rfl 2 3 passage rival "~0~" 5 0
    present shows late there again with grows | found
  · omega
  · exact found

end Traffic

end ResumableUpload
