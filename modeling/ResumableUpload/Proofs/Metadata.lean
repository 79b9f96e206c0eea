import ResumableUpload.Proofs.Concatenations
import ResumableUpload.Proofs.Provenance
/-!
# Metadata is given back

What a client says of a new upload is kept with it, and whoever asks about the
upload is given it back as it was said, however much has happened since.  What
is kept can always be written into an answer and understood, since it was read
as text and understood before the upload was created.

`Server.live_gives_metadata` says so of every upload of a server that began
empty, whether it is whole, a piece or joined from others, and whatever the host
does; only the question itself must not be stopped by the host, for then the
answer is the host's own.
-/

namespace ResumableUpload

variable {service : Service} {exchange checked : Exchange}
  {scene after : Scene} {id : String} {upload : Upload}

/-! ## Texts in fields -/

namespace Field

theorem toNat_lt_of_isVisible {byte : UInt8} (visible : isVisible byte = true) :
    byte.toNat < 128 := by
  rw [isVisible, Bool.or_eq_true, Bool.and_eq_true, decide_eq_true_eq,
    decide_eq_true_eq, beq_iff_eq] at visible
  rcases visible with ⟨-, high⟩ | rfl
  · exact Nat.lt_of_le_of_lt (UInt8.le_iff_toNat_le.1 high) (by decide)
  · decide

/-- A visible character is one byte, and that byte. -/
theorem utf8EncodeChar_of_isVisible {byte : UInt8}
    (visible : isVisible byte = true) :
    String.utf8EncodeChar (Char.ofNat byte.toNat) = [byte] := by
  have all : ∀ value < 128,
      String.utf8EncodeChar (Char.ofNat value) = [UInt8.ofNat value] := by
    decide
  rw [all _ (toNat_lt_of_isVisible visible), UInt8.ofNat_toNat]

theorem isWritable_of_isVisible {byte : UInt8}
    (visible : isVisible byte = true) : isWritable byte = true := by
  rw [isVisible, Bool.or_eq_true, Bool.and_eq_true] at visible
  rw [isWritable, Bool.or_eq_true, Bool.and_eq_true]
  refine visible.imp_left ?_
  rintro ⟨low, high⟩
  refine ⟨low, bne_iff_ne.2 ?_⟩
  rintro rfl
  cases high

/-- A value that is read as text is the written form of the text. -/
theorem ofString_of_textOf? {value : Bytes} {text : String}
    (reads : textOf? value = some text) :
    Bytes.ofString text = value ∧ value.all isVisible = true := by
  rw [textOf?] at reads
  split at reads
  · rename_i visible
    cases reads
    refine ⟨?_, visible⟩
    rw [Bytes.ofString_eq_flatMap, String.toList_ofList]
    induction value with
    | nil => rfl
    | cons byte rest hypothesis =>
        rw [List.all_cons, Bool.and_eq_true] at visible
        rw [List.map_cons, List.flatMap_cons, hypothesis visible.2,
          utf8EncodeChar_of_isVisible visible.1]
        rfl
  · cases reads

end Field

namespace Exchange

theorem values_answerField_of_ne {name other : String} (apart : other ≠ name)
    (text : String) :
    (exchange.answerField name text).response.headers.values other
      = exchange.response.headers.values other :=
  Headers.values_putText_of_ne apart text

theorem values_answerFieldIf_of_ne {name other : String} (apart : other ≠ name)
    (text? : Option String) :
    (exchange.answerFieldIf name text?).response.headers.values other
      = exchange.response.headers.values other := by
  cases text? with
  | none => rfl
  | some text => exact values_answerField_of_ne apart text

/-- A text is put into an answer if there is one that can be written. -/
theorem values_answerFieldIf_self {name : String}
    (silent : exchange.response.headers.values name = [])
    (text? : Option String) :
    (exchange.answerFieldIf name text?).response.headers.values name
      = ((text?.filter fun text =>
          (Bytes.ofString text).all Field.isWritable).map
            Bytes.ofString).toList := by
  cases text? with
  | none => exact silent
  | some text =>
      change (exchange.response.headers.putText name text).values name = _
      rw [Headers.putText, Option.filter]
      split
      · rw [Headers.values_put_self]
        rfl
      · exact silent

end Exchange

/-- A response gives the metadata of an upload back, if there is any to give. -/
def Response.GivesMetadata (response : Response) (metadata? : Option String) :
    Prop :=
  response.headers.values HeaderName.uploadMetadata
    = (((metadata?.filter (· != "")).filter fun text =>
        (Bytes.ofString text).all Field.isWritable).map
          Bytes.ofString).toList

namespace Handling

/-- What is told of an upload besides its size comes last. -/
theorem answerInfo_eq (service : Service) {name : String}
    (apart : name ∉ [HeaderName.cacheControl, HeaderName.uploadLength,
      HeaderName.uploadDeferLength, HeaderName.uploadOffset])
    (silent : checked.response.headers.values name = [])
    (length : Option Nat) (offset : Nat) (metadata : Option String)
    (part : Part) (expiry? : Option Instant) :
    ∃ measured : Exchange, measured.response.headers.values name = [] ∧
      answerInfo service checked length offset metadata part expiry?
        = ((measured.answerFieldIf HeaderName.uploadMetadata
            (metadata.filter (· != ""))).answerFieldIf HeaderName.uploadConcat
              (part.written? service.config.urlPath)).answerFieldIf
                HeaderName.uploadExpires (expiry?.map Instant.headerText) := by
  simp only [List.mem_cons, List.not_mem_nil, or_false, not_or] at apart
  obtain ⟨cache, known, deferred, moved⟩ := apart
  have measured {measured : Exchange} (assembling : Bool)
      (silent : measured.response.headers.values name = []) :
      (if assembling = true then measured
        else measured.answerField HeaderName.uploadOffset
          (toString offset)).response.headers.values name = [] := by
    split
    · exact silent
    · exact (Exchange.values_answerField_of_ne moved _).trans silent
  have cached : ((checked.answerStatus 200).answerField
      HeaderName.cacheControl "no-store").response.headers.values name = [] :=
    (Exchange.values_answerField_of_ne cache _).trans silent
  refine ⟨_, measured _ ?_, answerInfo.eq_def ..⟩
  cases length with
  | some length =>
      exact (Exchange.values_answerField_of_ne known _).trans cached
  | none => exact (Exchange.values_answerField_of_ne deferred _).trans cached

/-- The answer about an upload gives its metadata. -/
theorem answerInfo_givesMetadata (service : Service)
    (silent : checked.response.headers.values HeaderName.uploadMetadata = [])
    (length : Option Nat) (offset : Nat) (metadata : Option String)
    (part : Part) (expiry? : Option Instant) :
    (answerInfo service checked length offset metadata part
      expiry?).response.GivesMetadata metadata := by
  obtain ⟨measured, silent, answers⟩ := answerInfo_eq service (by decide)
    silent length offset metadata part expiry?
  rw [Response.GivesMetadata, answers,
    Exchange.values_answerFieldIf_of_ne (by decide),
    Exchange.values_answerFieldIf_of_ne (by decide)]
  exact Exchange.values_answerFieldIf_self silent _

end Handling

/-- A request that asks how far an upload is. -/
def Request.AsksAbout (request : Request) (service : Service) (id : String) :
    Prop :=
  request.method.effective request.headers = .head ∧
    Address.uploadId? service.config.urlPath request.path = some id

instance (request : Request) (service : Service) (id : String) :
    Decidable (request.AsksAbout service id) :=
  inferInstanceAs (Decidable (_ ∧ _))

namespace Protocol

variable {intent : Intent} {handling : Handling} {request : Request}
  {response : Response}

/-- Who is told how far an upload is is told what the store knows of it. -/
theorem handleIntent_info_answers {done : Exchange}
    (passes : (handleIntent .fileInfo (.info service) exchange).Passes scene)
    (ends : (handleIntent .fileInfo (.info service) exchange).play scene
      = .finished (.ok done) after) (status : done.response.status = 200) :
    ∃ upload checked part, scene.store.find? exchange.fileId = some upload ∧
      checked.response = (versioned exchange).response ∧
      (service.terms.supports .concatenation = true → part = upload.part) ∧
      done = Handling.answerInfo service checked upload.length upload.offset
        upload.metadata part
        ((Lifetime.policy? service).bind fun _ => upload.expiry) := by
  have handled : Handling.ofIntent? service .fileInfo
      = some (.info service) := rfl
  obtain ⟨checked, outcome, asked, told, last, sight, checks, telling, works,
    left⟩ := handleIntent_done handled passes ends (by omega)
  have notes : (versioned exchange).Notes checked :=
    Handling.check_admits handled _ _ _ _ checks
  rcases Check.bind_ends_well checks with ⟨_, _, present, -⟩
  obtain ⟨⟨upload, found⟩, -⟩ := Requirement.exists_found_of_present present
  have about : checked.fileId = exchange.fileId := notes.fileId
  have there : told.store.find? checked.fileId = some upload := by
    rw [telling.store, about]
    exact found
  obtain ⟨part, same, plays⟩ := Handling.play_info service there
  rw [plays] at works
  cases works
  exact ⟨upload, checked, part, sight.store ▸ found, notes.response, same, rfl⟩

/-- A question about an upload that is answered is answered from the store. -/
theorem handle_head_answers (asks : request.AsksAbout service id)
    (passes : (handle service request).Passes scene)
    (ends : (handle service request).play scene
      = .finished (.ok (.respond response)) after)
    (status : response.status = 200) :
    ∃ upload checked part, scene.store.find? id = some upload ∧
      (∀ name, name ≠ HeaderName.tusResumable →
        checked.response.headers.values name = []) ∧
      (service.terms.supports .concatenation = true → part = upload.part) ∧
      response = (Handling.answerInfo service checked upload.length
        upload.offset upload.metadata part
        ((Lifetime.policy? service).bind fun _ =>
          upload.expiry)).response := by
  obtain ⟨method, named⟩ := asks
  rcases intentsOf_of_head method service with asked | asked
  · have about : (Exchange.ofRequest service request).fileId = id :=
      congrArg (Option.getD · "") named
    rw [play_handle_of_single asked rfl] at ends
    obtain ⟨done, handles, rfl⟩ := Played.respond_ends.1 ends
    obtain ⟨upload, checked, part, found, blank, same, answers⟩ :=
      handleIntent_info_answers (handle_passes_first asked rfl passes) handles
        status
    refine ⟨upload, checked, part, about ▸ found, fun name apart => ?_, same,
      congrArg Exchange.response answers⟩
    rw [blank]
    exact Exchange.values_answerField_of_ne apart _
  · rw [play_handle_of_notApplicable asked] at ends
    cases ends

/-- A question about an upload that is answered is given its metadata. -/
theorem handle_head_gives (asks : request.AsksAbout service id)
    (passes : (handle service request).Passes scene)
    (ends : (handle service request).play scene
      = .finished (.ok (.respond response)) after)
    (status : response.status = 200) :
    ∃ upload, scene.store.find? id = some upload ∧
      response.GivesMetadata upload.metadata := by
  obtain ⟨upload, checked, part, found, silent, -, rfl⟩ :=
    handle_head_answers asks passes ends status
  exact ⟨upload, found, Handling.answerInfo_givesMetadata service
    (silent _ (by decide)) _ _ _ _ _⟩

end Protocol

/-! ## Creations -/

/-- What checking has found out about the metadata that a request declares. -/
structure Exchange.Describes (service : Service) (exchange checked : Exchange) :
    Prop where
  text : checked.declared.metadataText = exchange.headers.metadataText?
  understood : exchange.headers.HasReadableMetadata service.config.strictness

/-- Neither the fields nor what was found out about metadata has changed. -/
def Exchange.KeepsText (exchange checked : Exchange) : Prop :=
  checked.headers = exchange.headers ∧
    checked.declared.metadataText = exchange.declared.metadataText

theorem Exchange.KeepsText.describes {middle : Exchange}
    (keeps : exchange.KeepsText middle)
    (describes : middle.Describes service checked) :
    exchange.Describes service checked :=
  ⟨keeps.1 ▸ describes.text, keeps.1 ▸ describes.understood⟩

namespace Requirement

theorem newLength_keepsText (service : Service) (exchange : Exchange) :
    Admits exchange.KeepsText (newLength service exchange) := by
  rw [newLength]
  split
  · exact ⟨rfl, rfl⟩
  · simp only
    split
    · exact trivial
    · split <;> exact trivial
    · split
      · exact trivial
      · split
        · exact ⟨rfl, rfl⟩
        · exact trivial
    · exact (lengthOf_admits _ _).bind fun _ _ => ⟨rfl, rfl⟩

theorem part_keepsText (service : Service) (exchange : Exchange) :
    (part service exchange).Admits exchange.KeepsText := by
  rw [part]
  split
  · exact .reject trivial
  · exact .andThen (partIsPossible_admits service exchange _) fun _ =>
      .pure ⟨rfl, rfl⟩

theorem metadata_describes (fresh : exchange.declared.metadataText = none)
    (service : Service) :
    Admits (exchange.Describes service) (metadata service exchange) := by
  rw [metadata]
  split
  · rename_i silent
    have none : exchange.headers.metadataText? = none := by
      rw [Headers.metadataText?, if_neg]
      simpa using silent
    refine ⟨fresh.trans none.symm, ?_⟩
    intro text declared
    rw [none] at declared
    cases declared
  · rename_i sent
    have some : exchange.headers.metadataText? = some
        ((exchange.headers.text? HeaderName.uploadMetadata).getD "") := by
      rw [Headers.metadataText?, if_pos]
      simpa using sent
    simp only
    split
    · rename_i metadata understood
      refine ⟨some.symm, ?_⟩
      intro text declared
      cases some.symm.trans declared
      exact ⟨metadata, understood⟩
    · exact trivial

/-- What a creation declares of itself describes its metadata. -/
theorem declared_describes (fresh : exchange.declared.metadataText = none)
    (service : Service) :
    Admits (exchange.Describes service)
      (newLength service exchange >>= metadata service) := by
  refine (newLength_keepsText service exchange).bind fun middle keeps => ?_
  exact (metadata_describes (keeps.2.trans fresh) service).mono
    fun _ => keeps.describes

end Requirement

/-- What is checked before a creation tells the metadata that is declared. -/
theorem Handling.check_describes {intent : Intent} {handling : Handling}
    (creates : intent.creates = true)
    (handled : ofIntent? service intent = some handling)
    (fresh : exchange.declared.metadataText = none) :
    (handling.check exchange).Admits (exchange.Describes service) := by
  cases intent with
  | createFile =>
      cases handled
      exact .ofExcept (Requirement.declared_describes fresh service)
  | concatenate =>
      cases handled
      refine .bind (Requirement.part_keepsText service exchange)
        fun middle keeps => ?_
      exact .ofExcept ((Requirement.declared_describes (keeps.2.trans fresh)
        service).mono fun _ => keeps.describes)
  | _ => cases creates

/-- The metadata of what is new in a store is as some fields declare it. -/
def Store.Brings (service : Service) (headers : Headers)
    (before after : Store) : Prop :=
  ∀ id upload, before.find? id = none → after.find? id = some upload →
    upload.metadata = headers.metadataText? ∧
      headers.HasReadableMetadata service.config.strictness

namespace Protocol

variable {intent : Intent} {handling : Handling} {request : Request}

/-- A creation brings an upload with the metadata that the request declares. -/
theorem handleIntent_brings (creates : intent.creates = true)
    (handled : Handling.ofIntent? service intent = some handling)
    (fresh : exchange.declared.metadataText = none)
    (numbered : scene.store.IsNumbered) :
    Store.Brings service exchange.headers scene.store
      ((handleIntent intent handling exchange).play scene).scene.store := by
  rcases handleIntent_store (Handling.asks_check handled (versioned exchange))
      intent scene with
    same | ⟨checked, asked, told, -, second, checks, left⟩
  · exact Store.Gains.of_eq same
  · have fresh : (versioned exchange).declared.metadataText = none := fresh
    have describes : (versioned exchange).Describes service checked :=
      Handling.check_describes creates handled fresh _ _ _ checks
    rw [← left, ← second.store]
    have numbered : told.store.IsNumbered := second.store ▸ numbered
    cases Handling.carryOut_begins creates handled numbered checked with
    | nothing same fails => exact Store.Gains.of_eq same
    | upload declared left calls =>
        rw [left]
        exact Store.Gains.insert
          ⟨declared.trans describes.text, describes.understood⟩

/-- Whatever is new after a request is as the request declares it. -/
theorem handle_brings (all : service.AccommodatesAll scene.store)
    (request : Request) :
    Store.Brings service request.headers scene.store
      ((handle service request).play scene).scene.store := by
  refine handle_gains (fun earlier later grows declared => ?_) all request
    fun intent handling rest asked handled creates => ?_
  · rwa [grows.metadata]
  · exact handleIntent_brings creates handled rfl all.numbered

end Protocol

namespace Headers

variable {headers : Headers}

/-- A readable value is the text that is declared. -/
theorem metadataText?_of_text? {text : String}
    (reads : headers.text? HeaderName.uploadMetadata = some text) :
    headers.metadataText? = some text := by
  have present : headers.has HeaderName.uploadMetadata = true := by
    rw [text?] at reads
    obtain ⟨value, first, -⟩ := Option.bind_eq_some_iff.1 reads
    rw [has, List.any_eq_true]
    obtain ⟨field, found, -⟩ := Option.map_eq_some_iff.1 first
    have named := List.find?_some found
    exact ⟨field, List.mem_of_find?_eq_some found, named⟩
  rw [metadataText?, if_pos present, reads]
  rfl

end Headers

namespace Response

variable {response : Response}

/-- A text that was read and is not empty is given back as it is. -/
theorem GivesMetadata.values {value : Bytes} {text : String}
    (gives : response.GivesMetadata (some text))
    (reads : Field.textOf? value = some text) (nonempty : text ≠ "") :
    response.headers.values HeaderName.uploadMetadata = [value] := by
  obtain ⟨written, visible⟩ := Field.ofString_of_textOf? reads
  have writable : (Bytes.ofString text).all Field.isWritable = true := by
    rw [written, List.all_eq_true]
    intro byte present
    exact Field.isWritable_of_isVisible (List.all_eq_true.1 visible byte
      present)
  rw [gives, ← written]
  simp [Option.filter, writable, nonempty]

end Response

namespace Server

/--
On a server that began empty, whoever asks about an upload and is told how far
it is, without being stopped by the host, is given the metadata back with which
the upload was created, byte by byte, and it is understood; if none was declared
then none is given.  What has happened since then does not matter.
-/
theorem live_gives_metadata {start : Server} (quiet : start.IsQuiet)
    (empty : start.store = {}) (earlier : List Occurrence) (creation : Visit)
    (since : List Occurrence) (question : Visit) {id : String}
    (absent : (start.live earlier).store.find? id = none)
    (created : ((start.live earlier).visit creation).2.2.store.has id = true)
    (asks : question.request.AsksAbout start.service id)
    (unstopped : ∀ act ∈ (start.live (earlier ++ .visit creation :: since)).acts
      question, act.stops = false)
    {response : Response}
    (answered : ((start.live (earlier ++ .visit creation :: since)).visit
      question).1.response? = some response)
    (status : response.status = 200) :
    (∀ value text,
      creation.request.headers.first? HeaderName.uploadMetadata = some value →
      Field.textOf? value = some text → text ≠ "" →
      response.headers.values HeaderName.uploadMetadata = [value] ∧
        ∃ metadata, Metadata.parse start.service.config.strictness text
          = .ok metadata) ∧
    (creation.request.headers.has HeaderName.uploadMetadata = false →
      response.headers.values HeaderName.uploadMetadata = []) := by
  have all : start.service.AccommodatesAll start.store :=
    empty ▸ .empty start.service
  have before := quiet.live_succeeds earlier
  have begun := before.trans (before.quiet.visit_succeeds creation)
  rw [live_append, live_cons, undergo] at unstopped answered
  generalize kept : ((start.live earlier).visit creation).2.2 = server
    at created begun unstopped answered
  have later := begun.quiet.live_succeeds since
  obtain ⟨upload, found⟩ := Store.exists_find?_of_has created
  obtain ⟨metadata, understood⟩ : upload.metadata
        = creation.request.headers.metadataText? ∧
      creation.request.headers.HasReadableMetadata
        start.service.config.strictness := by
    have within : start.service.AccommodatesAll ((start.live earlier).scene
      creation.client creation.news).store := all.deeds before.deeds
    rw [← before.service] at within ⊢
    rw [← kept, before.quiet.visit_store] at found
    exact Protocol.handle_brings within creation.request id upload absent found
  obtain ⟨written, there, gives⟩ : ∃ written,
      (server.live since).store.find? id = some written ∧
        response.GivesMetadata written.metadata := by
    obtain ⟨after, ends⟩ := later.quiet.play_of_response? answered
    rw [← begun.service, ← later.service] at asks
    rw [later.quiet.acts_eq] at unstopped
    exact Protocol.handle_head_gives asks unstopped ends status
  have same : written.metadata = upload.metadata := by
    have within := all.deeds begun.deeds
    rw [← begun.service] at within
    exact (later.deeds.grows within found there).metadata
  rw [same, metadata] at gives
  constructor
  · intro value text first reads nonempty
    have declared : creation.request.headers.metadataText? = some text :=
      Headers.metadataText?_of_text? (by rw [Headers.text?, first]; exact reads)
    rw [declared] at gives
    exact ⟨gives.values reads nonempty, understood text declared⟩
  · intro silent
    have none : creation.request.headers.metadataText? = none := by
      rw [Headers.metadataText?, silent]
      rfl
    rw [none] at gives
    exact gives

/-- A visit that asks about the first upload of a store. -/
def asking : Visit where
  request :=
    { method := .head
      path := "/files/~0~"
      headers := .ofTexts [(HeaderName.tusResumable, protocolVersion)] }

/-- A visit that creates a piece of a file with a name. -/
def creatingNamed : Visit :=
  .creating [(HeaderName.uploadLength, "5"),
    (HeaderName.uploadConcat, "partial"),
    (HeaderName.uploadMetadata, "filename d29ybGQ=")]

/-- So it is with the name of a piece that is written to. -/
theorem live_gives_metadata_of_piece :
    ∃ response,
      ((live {} [.visit creatingNamed, .visit (.writing "0" "hel" [])]).visit
        asking).1.response? = some response ∧
      response.headers.values HeaderName.uploadMetadata
        = [Bytes.ofString "filename d29ybGQ="] := by
  have answered : ((live {} [.visit creatingNamed,
      .visit (.writing "0" "hel" [])]).visit asking).1.response?.map
        Response.status = some 200 := by
    decide +kernel
  obtain ⟨response, answered, status⟩ := Option.map_eq_some_iff.1 answered
  have unstopped : ∀ act ∈ (live {} [.visit creatingNamed,
      .visit (.writing "0" "hel" [])]).acts asking, act.stops = false := by
    decide +kernel
  have asks : asking.request.AsksAbout {} "~0~" := by
    decide +kernel
  have quiet : IsQuiet {} := ⟨rfl, fun _ => rfl⟩
  have gives := live_gives_metadata quiet rfl [] creatingNamed
    [.visit (.writing "0" "hel" [])] asking rfl (by decide +kernel) asks
    unstopped answered status
  exact ⟨response, answered, (gives.1 (Bytes.ofString "filename d29ybGQ=")
    "filename d29ybGQ=" (by decide +kernel) (by decide +kernel)
    (by decide)).1⟩

/-- A server whose host answers whoever comes second. -/
def hosted : Server where
  hooks hook :=
    if hook = .authorize then
      some [.verdict .proceed,
        .verdict (Verdict.proceed.fail (some 200) "later")]
    else none

/-- What the host answers tells nothing of an upload. -/
theorem live_gives_metadata_unless_stopped :
    ((hosted.live [.visit creatingNamed]).store.find? "~0~").map
        Upload.metadata = some (some "filename d29ybGQ=") ∧
      asking.request.AsksAbout hosted.service "~0~" ∧
      (((hosted.live [.visit creatingNamed]).visit asking).1.response?.map
        fun response => (response.status,
          response.headers.values HeaderName.uploadMetadata))
        = some (200, []) := by
  decide +kernel

end Server

end ResumableUpload
