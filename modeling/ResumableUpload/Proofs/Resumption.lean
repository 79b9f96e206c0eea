import ResumableUpload.Proofs.Solo.Acceptance
import ResumableUpload.Proofs.Solo.Creation
import ResumableUpload.Proofs.Solo.Leases
/-!
# Sending a file piece by piece

A client creates an upload with the length of a file, and then writes to it, as
often as it takes: each time from where the upload ends, and with some of the
bytes that come next in the file, however the body is cut into reads and
whatever cuts it short.  In between it may write at wrong offsets, and ask how
far the upload is.  `Server.resumed_begins` says that the upload always has the
first bytes of the file and no others, and that every write is accepted that
begins where the upload ends, as long as it is not complete.

For this the host has to agree, lives must have no end, and there must be
memory for the buffers of a copy: without it a write collapses before it has
begun.
-/

namespace ResumableUpload

variable {service : Service} {scene : Scene} {id : String} {upload : Upload}
  {file : Bytes} {offset : Nat}

/-! ## Requests for an upload -/

/-- A request that writes to an upload at an offset, and gives nothing else. -/
structure Request.WritesAt (request : Request) (service : Service)
    (id : String) (offset : Nat) : Prop where
  method : request.method.effective request.headers = .patch
  address : Address.ofPath service.config.urlPath request.path = .upload id
  plain : request.headers.WriteAt offset

instance (request : Request) (service : Service) (id : String) (offset : Nat) :
    Decidable (request.WritesAt service id offset) :=
  decidable_of_iff
    (request.method.effective request.headers = .patch ∧
      Address.ofPath service.config.urlPath request.path = .upload id ∧
      request.headers.WriteAt offset)
    ⟨fun ⟨method, address, plain⟩ => ⟨method, address, plain⟩,
      fun ⟨method, address, plain⟩ => ⟨method, address, plain⟩⟩

namespace Request.WritesAt

variable {request : Request}

theorem fileId_eq (writes : request.WritesAt service id offset) :
    (Exchange.ofRequest service request).fileId = id := by
  rw [Exchange.fileId, Exchange.ofRequest, Address.uploadId?, writes.address]
  rfl

theorem intentsOf_eq (writes : request.WritesAt service id offset) :
    Protocol.intentsOf service request = [.writeFile] := by
  have versioned : request.headers.has HeaderName.tusResumable = true :=
    Headers.has_of_text? writes.plain.version
  rw [Protocol.intentsOf, writes.method, Intent.ofRequest, versioned,
    writes.address]
  rfl

/--
A write that does not begin where the upload ends, or whose upload is complete,
leaves the store as it was.
-/
theorem play_handle_store_of_refused
    (writes : request.WritesAt service id offset)
    (found : scene.store.find? id = some upload)
    (refused : offset ≠ upload.offset ∨ upload.isComplete = true) :
    ((Protocol.handle service request).play scene).scene.store
      = scene.store := by
  have handled : Handling.ofIntent? service .writeFile
      = some (Handling.write service) := rfl
  rw [Protocol.play_handle_store_of_single writes.intentsOf_eq handled]
  rcases Protocol.handleIntent_store (Handling.asks_check handled
      (Protocol.versioned (.ofRequest service request))) .writeFile scene with
      same | ⟨checked, asked, later, first, -, checks, -⟩
  · exact same
  · rcases Handling.write_check_ends_well checks with ⟨other, there, may⟩
    have here : (Protocol.versioned (.ofRequest service request)).fileId = id :=
      writes.fileId_eq
    rw [first.store, here, found] at there
    cases there
    rcases refused with astray | complete
    · have plain : (Protocol.versioned (.ofRequest service
        request)).headers.WriteAt offset := writes.plain
      have given := may.offset
      rw [plain.offset_eq] at given
      cases given
      exact absurd rfl astray
    · rw [may.incomplete] at complete
      cases complete

end Request.WritesAt

/-- The question how far an upload is leaves the store as it was. -/
theorem Protocol.play_handle_store_of_head {request : Request}
    (method : request.method.effective request.headers = .head)
    (service : Service) (scene : Scene) :
    ((handle service request).play scene).scene.store = scene.store := by
  have handled : Handling.ofIntent? service .fileInfo
      = some (Handling.info service) := rfl
  rcases intentsOf_of_head method service with asked | asked
  · rw [play_handle_store_of_single asked handled]
    rcases handleIntent_store (Handling.asks_check handled (versioned
        (.ofRequest service request))) .fileInfo scene with
        same | ⟨checked, asked, later, -, second, -, left⟩
    · exact same
    · rw [← left, (Handling.info_carryOut_inquires service checked).asks later,
        second.store]
  · rw [play_handle_of_notApplicable asked]
    rfl

/-! ## Servers that are sent a file -/

/-- Nothing but what it requires stands in the way of a write to an upload. -/
structure Server.IsReadyFor (server : Server) (id : String) : Prop where
  quiet : server.IsQuiet
  agrees : (server.scene {} []).HostAgrees
  unlimited : server.service.config.expiration = none
  allocatable :
    (Handling.route server.service).isAllocatable server.settings = true
  free : server.locks.isLocked id = false

theorem LockTable.isLocked_of_subset {before after : LockTable}
    (free : before.isLocked id = false)
    (within : ∀ lease ∈ after.held, lease ∈ before.held) :
    after.isLocked id = false := by
  rw [isLocked, holder?, Option.isSome_eq_false_iff, Option.isNone_iff_eq_none,
    List.find?_eq_none] at free ⊢
  exact fun lease present => free lease (within lease present)

namespace Server

variable {server : Server}

/-- Whatever a visit asks for, it does not get in the way of later writes. -/
theorem IsReadyFor.visit (ready : server.IsReadyFor id) (visit : Visit) :
    (server.visit visit).2.2.IsReadyFor id := by
  rcases ready.quiet.visit_depicts visit with ⟨-, quiet, news, seen⟩
  have succeeds := ready.quiet.visit_succeeds visit
  have agrees := ready.quiet.visit_agrees ready.agrees visit
  have leases := Protocol.handle_givesBack server.service visit.request
    (server.scene visit.client visit.news)
  change ∀ lease ∈ ((Protocol.program server.service visit.request).play
    (server.scene visit.client visit.news)).left.locks.held, _ at leases
  rw [← seen] at leases
  refine ⟨quiet, agrees, ?_, ?_, LockTable.isLocked_of_subset ready.free leases⟩
  · rw [succeeds.service]
    exact ready.unlimited
  · rw [succeeds.service, succeeds.settings]
    exact ready.allocatable

end Server

/-- The record of an upload that has the first bytes of a file. -/
structure Upload.Begins (file : Bytes) (upload : Upload) : Prop where
  length : upload.length = some file.length
  within : upload.content <+: file
  apart : upload.part.isJoined = false
  immortal : upload.expiry = none

namespace Upload.Begins

/-- A blank record begins every file of its length. -/
theorem of_blank (blank : upload.IsBlank file.length) : upload.Begins file where
  length := blank.length
  within := by
    rw [blank.content]
    exact List.nil_prefix
  apart := blank.apart
  immortal := blank.immortal

theorem content_eq (begins : upload.Begins file) :
    upload.content = file.take upload.offset :=
  List.prefix_iff_eq_take.1 begins.within

variable {bytes : Bytes}

/-- The bytes that come next in the file may be appended. -/
theorem appended (begins : upload.Begins file)
    (next : bytes <+: file.drop upload.offset) :
    (upload.appended bytes).Begins file where
  length := begins.length
  within := by
    have all := (List.prefix_append_right_inj (file.take upload.offset)).2 next
    rw [List.take_append_drop, ← begins.content_eq] at all
    exact all
  apart := begins.apart
  immortal := begins.immortal

/-- There is room for them. -/
theorem not_exceeds (begins : upload.Begins file)
    (next : bytes <+: file.drop upload.offset) :
    ¬upload.Exceeds bytes.length := by
  rintro ⟨length, known, beyond⟩
  have within := (begins.appended next).within.length_le
  rw [begins.length] at known
  cases known
  rw [Upload.appended, List.length_append] at within
  exact absurd within (Nat.not_le_of_lt beyond)

end Upload.Begins

namespace Server

variable {server : Server} {bytes : Bytes}

/--
A visit that writes the bytes which come next in the file is accepted, if the
upload is not complete.
-/
theorem IsReadyFor.visit_accepts (ready : server.IsReadyFor id)
    (found : server.store.find? id = some upload)
    (begins : upload.Begins file) {visit : Visit}
    (writes : visit.request.WritesAt server.service id upload.offset)
    (delivers : visit.client.delivers? server.settings
      (Handling.route server.service) visit.news = some bytes)
    (next : bytes <+: file.drop upload.offset)
    (lacking : upload.isComplete = false) :
    (∃ response, (server.visit visit).1.response? = some response ∧
      response.Accepts (upload.offset + bytes.length)) ∧
    (server.visit visit).2.2.store.find? id
      = some (upload.appended bytes) := by
  have welcomes : (server.scene visit.client visit.news).Welcomes
      server.service (.ofRequest server.service visit.request) upload bytes :=
    { agrees := ready.agrees
      unlimited := ready.unlimited
      unchecked := .ofRequest server.service visit.request
      plain := writes.plain
      found := by
        rw [writes.fileId_eq]
        exact found
      immortal := begins.immortal
      apart := begins.apart
      lacking := lacking
      room := begins.not_exceeds next
      allocatable := ready.allocatable
      delivers := delivers }
  have free : (server.scene visit.client visit.news).locks.isLocked
      (Exchange.ofRequest server.service visit.request).fileId = false := by
    rw [writes.fileId_eq]
    exact ready.free
  rcases Protocol.handleIntent_write_accepts welcomes free with
      ⟨done, after, ends, accepts, left⟩
  have handled : (Protocol.handle server.service visit.request).play
      (server.scene visit.client visit.news)
        = .finished (.ok (.respond done.response)) after := by
    rw [Protocol.play_handle_of_single writes.intentsOf_eq rfl, ends]
    rfl
  refine ⟨⟨done.response, ready.quiet.visit_response? handled, accepts⟩, ?_⟩
  rw [ready.quiet.visit_store, handled, ← writes.fileId_eq]
  exact left

/-- A visit as a client makes it that sends a file to an upload. -/
inductive Resumes (server : Server) (id : String) (file : Bytes)
    (visit : Visit) : Prop where
  /-- It writes some of the bytes that come next. -/
  | next {upload : Upload} {bytes : Bytes}
      (found : server.store.find? id = some upload)
      (writes : visit.request.WritesAt server.service id upload.offset)
      (delivers : visit.client.delivers? server.settings
        (Handling.route server.service) visit.news = some bytes)
      (next : bytes <+: file.drop upload.offset)
  /-- It writes something somewhere else. -/
  | astray {upload : Upload} {offset : Nat}
      (found : server.store.find? id = some upload)
      (writes : visit.request.WritesAt server.service id offset)
      (apart : offset ≠ upload.offset)
  /-- It asks how far an upload is. -/
  | asks (method :
      visit.request.method.effective visit.request.headers = .head)

/-- What becomes of a server by such visits, while time passes. -/
inductive Resumed (server : Server) (id : String) (file : Bytes) :
    Server → Prop where
  | begins : Resumed server id file server
  | visited {current : Server} {visit : Visit}
      (earlier : Resumed server id file current)
      (resumes : current.Resumes id file visit) :
      Resumed server id file (current.visit visit).2.2
  | elapsed {current : Server} (earlier : Resumed server id file current)
      (milliseconds : Int) :
      Resumed server id file (current.undergo (.elapse milliseconds))

/-- A server that is ready for an upload which has the first bytes of a file. -/
def HasBegun (server : Server) (id : String) (file : Bytes) : Prop :=
  server.IsReadyFor id ∧
    ∃ upload, server.store.find? id = some upload ∧ upload.Begins file

/-- Every such visit leaves the upload with the first bytes of the file. -/
theorem HasBegun.visit (begun : server.HasBegun id file) {visit : Visit}
    (resumes : server.Resumes id file visit) :
    (server.visit visit).2.2.HasBegun id file := by
  rcases begun with ⟨ready, upload, found, begins⟩
  refine ⟨ready.visit visit, ?_⟩
  cases resumes with
  | next there writes delivers next =>
      rw [found] at there
      cases there
      -- Nothing comes next in a file that is complete; such a write is refused.
      cases lacking : upload.isComplete with
      | false =>
          exact ⟨_, (ready.visit_accepts found begins writes delivers next
            lacking).2, begins.appended next⟩
      | true =>
          refine ⟨upload, ?_, begins⟩
          rw [ready.quiet.visit_store,
            writes.play_handle_store_of_refused found (.inr lacking)]
          exact found
  | astray there writes apart =>
      rw [found] at there
      cases there
      refine ⟨upload, ?_, begins⟩
      rw [ready.quiet.visit_store,
        writes.play_handle_store_of_refused found (.inl apart)]
      exact found
  | asks method =>
      refine ⟨upload, ?_, begins⟩
      rw [ready.quiet.visit_store, Protocol.play_handle_store_of_head method]
      exact found

theorem Resumed.hasBegun {later : Server} (begun : server.HasBegun id file)
    (resumed : server.Resumed id file later) : later.HasBegun id file := by
  induction resumed with
  | begins => exact begun
  | visited earlier resumes hypothesis => exact hypothesis.visit resumes
  | elapsed earlier milliseconds hypothesis =>
      rcases hypothesis with ⟨ready, upload, found, begins⟩
      exact ⟨⟨⟨ready.quiet.idle, ready.quiet.faultless⟩, ready.agrees,
        ready.unlimited, ready.allocatable, ready.free⟩, upload, found, begins⟩

/-- A creation that has a length and no body begins every file of the length. -/
theorem IsReadyFor.hasBegun_of_created (ready : server.IsReadyFor id)
    {creation : Visit}
    (method :
      creation.request.method.effective creation.request.headers = .post)
    (given : creation.request.headers.lengthGiven?
      = some (file.length : Int))
    (bodiless : creation.client.body = [])
    (absent : server.store.has id = false)
    (created : (server.visit creation).2.2.store.has id = true) :
    (server.visit creation).2.2.HasBegun id file := by
  rcases Store.exists_find?_of_has created with ⟨upload, found⟩
  refine ⟨ready.visit creation, upload, found, .of_blank ?_⟩
  rw [ready.quiet.visit_store] at found
  have nothing : server.store.IsBlankAt id file.length := by
    intro upload found
    rw [Store.find?_eq_none_of_not_has absent] at found
    cases found
  have empty : (server.scene creation.client creation.news).client.body = [] :=
    bodiless
  exact Protocol.handle_blank ready.unlimited method given empty nothing _ found

/--
A file that is sent piece by piece: an upload of its length is created without
a body, and then written to any number of times.  At every time the upload has
the first bytes of the file, up to its offset and no others; and as long as it
is not complete, a write of bytes that come next is accepted, with the number
of bytes that were delivered.  There has to be memory for the buffers.
-/
theorem resumed_begins (quiet : server.IsQuiet)
    (agrees : (server.scene {} []).HostAgrees)
    (unlimited : server.service.config.expiration = none)
    (allocatable :
      (Handling.route server.service).isAllocatable server.settings = true)
    (free : server.locks.isLocked id = false) {creation : Visit}
    (method :
      creation.request.method.effective creation.request.headers = .post)
    (given : creation.request.headers.lengthGiven?
      = some (file.length : Int))
    (bodiless : creation.client.body = [])
    (absent : server.store.has id = false)
    (created : (server.visit creation).2.2.store.has id = true)
    {later : Server}
    (resumed : (server.visit creation).2.2.Resumed id file later) :
    ∃ upload, later.store.find? id = some upload ∧
      upload.length = some file.length ∧
      upload.content = file.take upload.offset ∧
      ∀ visit bytes,
        visit.request.WritesAt later.service id upload.offset →
        visit.client.delivers? later.settings (Handling.route later.service)
          visit.news = some bytes →
        bytes <+: file.drop upload.offset → upload.isComplete = false →
        ∃ response, (later.visit visit).1.response? = some response ∧
          response.Accepts (upload.offset + bytes.length) := by
  have ready : server.IsReadyFor id :=
    ⟨quiet, agrees, unlimited, allocatable, free⟩
  have begun :=
    ready.hasBegun_of_created method given bodiless absent created
  rcases resumed.hasBegun begun with ⟨ready, upload, found, begins⟩
  refine ⟨upload, found, begins.length, begins.content_eq, ?_⟩
  intro visit bytes writes delivers next lacking
  exact (ready.visit_accepts found begins writes delivers next lacking).1

/-- A server on which an upload of five bytes has been created. -/
def awaitingFive (settings : BufferSettings) : Server :=
  (Server.visit { settings := settings }
    (.creating [(HeaderName.uploadLength, "5")])).2.2

/-- A file of five bytes is sent in two pieces, and the second is accepted. -/
theorem resumed_begins_in_two_pieces :
    ∃ response,
      (((awaitingFive {}).visit (.writing "0" "hel" [])).2.2.visit
        (.writing "3" "lo" [])).1.response? = some response ∧
      response.Accepts 5 := by
  have quiet : ({} : Server).IsQuiet := ⟨rfl, fun _ => rfl⟩
  have agrees : (({} : Server).scene {} []).HostAgrees :=
    Scene.hostAgrees_of_unwatched fun _ => rfl
  have method : (Visit.creating
      [(HeaderName.uploadLength, "5")]).request.method.effective
        (Visit.creating [(HeaderName.uploadLength, "5")]).request.headers
      = .post := by decide +kernel
  have found : (awaitingFive {}).store.find? "~0~"
      = some { length := some 5 } := by decide +kernel
  have writes : (Visit.writing "0" "hel" []).request.WritesAt
      (awaitingFive {}).service "~0~" 0 := by decide +kernel
  have delivers : (Visit.writing "0" "hel" []).client.delivers?
      (awaitingFive {}).settings (Handling.route (awaitingFive {}).service) []
      = some (Bytes.ofString "hel") := by decide +kernel
  have resumes : (awaitingFive {}).Resumes "~0~" (Bytes.ofString "hello")
      (.writing "0" "hel" []) := .next found writes delivers (by decide +kernel)
  obtain ⟨upload, left, -, -, accepts⟩ := resumed_begins quiet agrees rfl
    (by decide) rfl method (by decide +kernel) rfl rfl (by decide +kernel)
    (.visited .begins resumes)
  have begun : ((awaitingFive {}).visit
      (.writing "0" "hel" [])).2.2.store.find? "~0~"
      = some (Upload.appended { length := some 5 } (Bytes.ofString "hel")) := by
    decide +kernel
  cases begun.symm.trans left
  exact accepts (.writing "3" "lo" []) (Bytes.ofString "lo") (by decide +kernel)
    (by decide +kernel) (by decide +kernel) (by decide +kernel)

/-- Sizes of buffers for which there is no memory. -/
def vast : BufferSettings where
  readSize := Budget.ceiling

/--
Where there is no memory for the buffers, a write of the bytes that come next
is not accepted, although everything else is as it should be.
-/
theorem next_collapses_without_memory :
    (awaitingFive vast).store.find? "~0~" = some { length := some 5 } ∧
      (Visit.writing "0" "hello" []).request.WritesAt
        (awaitingFive vast).service "~0~" 0 ∧
      (Visit.writing "0" "hello" []).client.delivers? vast
        (Handling.route (awaitingFive vast).service) []
          = some (Bytes.ofString "hello") ∧
      ((awaitingFive vast).visit (.writing "0" "hello" [])).1.response?
        = none := by
  refine ⟨?_, ?_, ?_, ?_⟩ <;> decide +kernel

end Server

end ResumableUpload
