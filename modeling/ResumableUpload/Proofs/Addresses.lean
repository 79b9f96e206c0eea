import ResumableUpload.Proofs.Responses
import ResumableUpload.Proofs.Text.Places
/-!
# Addresses are found again

A request reaches an upload if its path is the base path, a slash and the id,
with the base path in any case and any number of slashes at either end:
`Address.uploadId?_eq_some_iff`.  Reading a path cuts it at the length of the
base path, but only where a character ends.

A creation is answered with an address, and under this address the new upload
is found: `Server.paths_lead_back`.  The host may object to what has been
created, and the address is told all the same; only where the host answers
before anything is created there is none.
-/

namespace ResumableUpload

/-! ## What a path names -/

namespace Address

variable {base path start rest : List Char}

instance (id : String) : Decidable (IsSegment id) :=
  inferInstanceAs (Decidable (_ ∧ _))

/-- What is below a base path is what follows a beginning that is the same. -/
theorem below?_eq_some_iff :
    below? base path = some rest ↔
      ∃ start, path = start ++ rest ∧ Ascii.same start base = true := by
  rw [below?]
  constructor
  · intro below
    split at below
    · rename_i cut
      split at below
      · rename_i alike
        cases below
        exact ⟨_, (Split.atByte?_eq_some_iff.1 cut).1, alike⟩
      · cases below
    · cases below
  · rintro ⟨start, rfl, alike⟩
    rw [Split.atByte?_eq_some_iff.2 ⟨rfl, Ascii.byteLength_of_same alike⟩]
    exact if_pos alike

/-- A path names an upload exactly if its address ends it, slashes apart. -/
theorem ofPath_eq_upload_iff {urlPath path id : String} :
    ofPath urlPath path = .upload id ↔
      IsSegment id ∧ ∃ start,
        Split.trimEnd '/' path.toList = start ++ '/' :: id.toList ∧
          Ascii.same start (baseChars urlPath) = true := by
  rw [ofPath]
  constructor
  · intro named
    split at named
    · cases named
    · split at named
      · rename_i rest below
        split at named
        · rename_i whole
          cases named
          rcases below?_eq_some_iff.1 below with ⟨start, split, alike⟩
          rw [IsSegment, String.toList_ofList]
          simp only [Bool.and_eq_true, Bool.not_eq_true',
            List.isEmpty_eq_false_iff, List.contains_eq_mem,
            decide_eq_false_iff_not] at whole
          exact ⟨whole, start, split, alike⟩
        · cases named
      · cases named
  · rintro ⟨⟨present, free⟩, start, trimmed, alike⟩
    have longer : Ascii.same (start ++ '/' :: id.toList) (baseChars urlPath)
        = false := by
      refine Bool.eq_false_iff.2 fun other => ?_
      have length := Ascii.length_of_same other
      rw [← Ascii.length_of_same alike, List.length_append] at length
      simp at length
    have below : below? (baseChars urlPath) (start ++ '/' :: id.toList)
        = some ('/' :: id.toList) :=
      below?_eq_some_iff.2 ⟨start, rfl, alike⟩
    have whole : (!id.toList.isEmpty && !id.toList.contains '/') = true := by
      simp [present, free]
    simp only [trimmed, longer, below, Bool.false_eq_true, if_false]
    rw [if_pos whole, String.ofList_toList]

theorem uploadId?_eq_some_iff {urlPath path id : String} :
    uploadId? urlPath path = some id ↔
      IsSegment id ∧ ∃ start,
        Split.trimEnd '/' path.toList = start ++ '/' :: id.toList ∧
          Ascii.same start (baseChars urlPath) = true := by
  rw [← ofPath_eq_upload_iff, uploadId?]
  split
  · rename_i other named
    rw [named, Option.some.injEq, upload.injEq]
  · rename_i nameless
    exact iff_of_false (Option.some_ne_none id).symm (nameless id)

example : uploadId? "/files/" "/FILES/a//" = some "a" := by
  decide +kernel

/-- The base path ends inside the last letter. -/
example : uploadId? "/fi" "/fé" = none := by
  decide +kernel

/--
What the path of a request names, found by cutting the path twice: once to
compare its beginning, where a cut may be impossible, and once to read on, where
it must not be.
-/
def ofPathInCuts? (urlPath path : String) : Option Address :=
  let base := baseChars urlPath
  let path := Split.trimEnd '/' path.toList
  let cut? := Split.atByte? (Split.byteLength base) path
  if Ascii.same path base then some .base
  else if !cut?.any fun cut => Ascii.same cut.1 base then some .elsewhere
  else cut?.map fun cut =>
    match cut.2 with
    | '/' :: id =>
        if !id.isEmpty && !id.contains '/' then .upload (String.ofList id)
        else .elsewhere
    | _ => .elsewhere

/-- The second cut is possible wherever it is made. -/
theorem ofPathInCuts?_eq (urlPath path : String) :
    ofPathInCuts? urlPath path = some (ofPath urlPath path) := by
  rw [ofPathInCuts?, ofPath]
  split
  · rfl
  · rw [below?]
    cases cut : Split.atByte? (Split.byteLength (baseChars urlPath))
        (Split.trimEnd '/' path.toList) with
    | none => rfl
    | some parts =>
        rcases parts with ⟨start, rest⟩
        cases alike : Ascii.same start (baseChars urlPath) with
        | false => simp [alike]
        | true =>
            simp only [Option.any_some, alike, Bool.not_true, Option.map_some,
              Bool.false_eq_true, if_false, if_true]
            cases rest with
            | nil => rfl
            | cons c later =>
                by_cases slash : c = '/'
                · subst slash
                  rfl
                · simp [slash]

end Address

/-! ## Where a new upload is -/

variable {service : Service} {exchange checked done : Exchange}
  {scene after : Scene} {intent : Intent} {handling : Handling}

/-- The host stops a creation before anything has been created. -/
def Act.forestalls (act : Act) : Bool :=
  act.stops && match act.action with
    | .tell (.authorize intent _ _ _) => intent.creates
    | .tell (.beforeCreate _ _ _ _ _) => true
    | _ => false

/-- A response tells the address of the one upload that a store has more. -/
structure Response.Locates (service : Service) (before after : Store)
    (response : Response) : Prop where
  ids : after.ids = before.ids ++ [Store.idOf before.created]
  location : response.headers.first? HeaderName.location
    = some (Bytes.ofString (addressOf service.config.urlPath
        (Store.idOf before.created)))

namespace Protocol

/-- What would forestall a creation does not stop it, if nothing does. -/
theorem not_failed_of_tell {event : Event} {verdict : Verdict}
    (unstopped : ∀ act ∈ (Attempt.tell event).actsOn scene,
      act.forestalls = false)
    (early : ∀ reply? store, Act.forestalls ⟨.tell event, reply?, store⟩
      = Act.stops ⟨.tell event, reply?, store⟩)
    (ends : (Attempt.tell event).play scene = .finished (.ok verdict) after) :
    verdict.failed = false := by
  rw [Attempt.actsOn_tell] at unstopped
  have passed := unstopped _ (List.mem_singleton_self _)
  rw [early] at passed
  rw [Attempt.play_tell] at ends
  cases told : scene.tell event with
  | finished given last =>
      rw [told] at ends passed
      cases ends
      exact passed
  | waiting last | collapsed last =>
      rw [told] at ends
      cases ends

section Locates

variable (creates : intent.creates = true)
  (handled : Handling.ofIntent? service intent = some handling)
  (numbered : scene.store.IsNumbered)
  (plain : ∀ c ∈ service.config.urlPath.toList, Field.isPlain c = true)

include creates handled numbered plain

/-- A creation that is carried out is located, whatever the host says then. -/
theorem carryOut_locates
    (ends : (carryOut handling checked).play scene
      = .finished (.ok done) after) :
    done.response.Locates service scene.store after.store := by
  rcases Attempt.bind_ends ends with
    ⟨failure, contrary, -⟩ | ⟨⟨answered, outcome⟩, middle, works, ends, -⟩
  · cases contrary
  rcases Attempt.bind_ends ends with
    ⟨failure, contrary, -⟩ | ⟨verdict, told, tells, ends, -⟩
  · cases contrary
  have only := tellOutcome_onlyTells answered outcome middle
  rw [tells] at only
  have same : told.store = middle.store := only.store
  have creation := Handling.carryOut_creation creates handled numbered checked
  rw [works] at creation
  have objects (given : Exchange) :
      (if verdict.failed then given.refuse verdict
        else given).response.headers = given.response.headers := by
    split <;> rfl
  cases ends
  cases creation with
  | @created upload _ born =>
      refine ⟨?_, ?_⟩
      · rw [same]
        exact Store.ids_insert upload
      · rw [objects]
        exact Handling.location_answerCreated plain checked _ _

/-- So it is with a creation that is executed and answered with 201. -/
theorem execute_locates
    (unstopped : ∀ act ∈ (execute handling exchange).actsOn scene,
      act.forestalls = false)
    (ends : (execute handling exchange).play scene
      = .finished (.ok done) after) (status : done.response.status = 201) :
    done.response.Locates service scene.store after.store := by
  have before (checked : Exchange) :
      handling.before checked = Handling.beforeCreate checked := by
    cases intent with
    | createFile | concatenate =>
        cases handled
        rfl
    | _ => cases creates
  have asks := Handling.asks_check handled exchange scene
  rw [actsOn_execute] at unstopped
  rw [play_execute] at ends
  rcases Played.andThen_ends ends with ⟨result, middle, checks, ends⟩
  rw [checks] at asks unstopped
  have same : middle = scene := asks
  subst same
  rcases result with failure | rejection | checked
  · cases ends
  · cases ends
    have bad : 400 ≤ rejection.status := rejection.le_status
    have status : rejection.status = 201 := status
    omega
  · have later : ∀ act ∈ (afterCheck handling exchange (.ok checked)).actsOn
        middle, act.forestalls = false :=
      fun act present => unstopped act (List.mem_append_right _ present)
    rw [Attempt.orFailure_ok, afterCheck] at ends
    rw [afterCheck] at later
    rcases Attempt.bind_ends ends with
      ⟨failure, contrary, -⟩ | ⟨verdict, told, tells, ends, acts⟩
    · cases contrary
    have only := tellBefore_onlyTells (handling.before checked) middle
    rw [tells] at only
    have same : told.store = middle.store := only.store
    rw [acts] at later
    -- The host is asked once more; had it objected, nothing would be stored.
    rw [before, Handling.beforeCreate, tellBefore] at tells later
    have proceeds := not_failed_of_tell (List.forall_mem_append.1 later).1
      (fun _ _ => Bool.and_true _) tells
    rw [if_neg (by rw [proceeds]; exact Bool.false_ne_true)] at ends
    rw [← same] at numbered ⊢
    exact carryOut_locates creates handled numbered plain ends

theorem executeSettled_locates
    (unstopped : ∀ act ∈ (executeSettled handling exchange).actsOn scene,
      act.forestalls = false)
    (ends : (executeSettled handling exchange).play scene
      = .finished (.ok done) after) (status : done.response.status = 201) :
    done.response.Locates service scene.store after.store := by
  rw [actsOn_executeSettled] at unstopped
  rw [play_executeSettled] at ends
  rcases Played.andThen_ends ends with ⟨result, last, executes, ends⟩
  cases result with
  | ok given =>
      cases ends
      exact execute_locates creates handled numbered plain unstopped executes
        status
  | error failure =>
      have bad := status_of_settle_error (Played.finished.inj ends).1
      omega

/-- So it is with an intent, which the host is asked about first. -/
theorem handleIntent_locates
    (unstopped : ∀ act ∈ (handleIntent intent handling exchange).actsOn scene,
      act.forestalls = false)
    (ends : (handleIntent intent handling exchange).play scene
      = .finished (.ok done) after) (status : done.response.status = 201) :
    done.response.Locates service scene.store after.store := by
  rw [handleIntent] at unstopped ends
  rcases Attempt.bind_ends ends with
    ⟨failure, contrary, -⟩ | ⟨verdict, told, tells, ends, acts⟩
  · cases contrary
  rw [acts, List.forall_mem_append] at unstopped
  have only := Attempt.OnlyTells.tell (.authorize intent exchange.method
    exchange.id exchange.headers) scene
  rw [tells] at only
  have same : told.store = scene.store := only.store
  have proceeds := not_failed_of_tell unstopped.1 (fun _ _ => by
    simp [Act.forestalls, creates]) tells
  have unstopped := unstopped.2
  have goes : ¬verdict.failed = true := by
    rw [proceeds]
    exact Bool.false_ne_true
  rw [if_neg goes] at unstopped ends
  have leaseless : ¬intent.needsLease = true := by
    cases intent <;> first | exact Bool.false_ne_true | cases creates
  by_cases version : versionOf exchange = protocolVersion
  · rw [executeVersioned_of_version version, if_neg leaseless]
      at unstopped ends
    rw [← same] at numbered ⊢
    exact executeSettled_locates creates handled numbered plain unstopped ends
      status
  · have asks : intent ≠ .options := by
      rintro rfl
      cases creates
    rw [executeVersioned_of_not_version intent asks version] at ends
    cases ends
    have bad := (Rejection.version (versionOf exchange)).le_status
    have status : (Rejection.version (versionOf exchange)).status = 201 :=
      status
    omega

end Locates

/-- So it is with a request, whatever becomes of a body that it brings. -/
theorem handle_locates {request : Request} {response : Response}
    (creates : (intentsOf service request).head?.any Intent.creates = true)
    (numbered : scene.store.IsNumbered)
    (plain : ∀ c ∈ service.config.urlPath.toList, Field.isPlain c = true)
    (unstopped : ∀ act ∈ (handle service request).actsOn scene,
      act.forestalls = false)
    (ends : (handle service request).play scene
      = .finished (.ok (.respond response)) after)
    (status : response.status = 201) :
    response.Locates service scene.store after.store := by
  have first {intent : Intent} {handling : Handling} {rest : List Intent}
      (asked : intentsOf service request = intent :: rest)
      (handled : Handling.ofIntent? service intent = some handling) :
      intent.creates = true ∧ ∀ act ∈ (handleIntent intent handling
        (.ofRequest service request)).actsOn scene,
        act.forestalls = false := by
    rw [asked] at creates
    rw [handle, asked] at unstopped
    simp only [handled] at unstopped
    rw [Attempt.actsOn_bind, List.forall_mem_append] at unstopped
    exact ⟨creates, unstopped.1⟩
  have handles := handle_handles service request scene
  generalize (handle service request).play scene = played at handles ends
  cases handles with
  | passed => cases ends
  | @first intent handling rest asked handled =>
      obtain ⟨creates, unstopped⟩ := first asked handled
      rcases Played.andThen_ends ends with ⟨result, last, here, ends⟩
      cases result with
      | error failure => cases ends
      | ok done =>
          cases ends
          exact handleIntent_locates creates handled numbered plain unstopped
            here status
  | @both intent handling done middle id asked _ handled here created
      identified =>
      obtain ⟨creates, unstopped⟩ := first asked handled
      have located := handleIntent_locates creates handled numbered plain
        unstopped here created
      rcases Played.andThen_ends ends with ⟨result, last, writes, ends⟩
      cases result with
      | error failure => cases ends
      | ok answer =>
          cases ends
          obtain ⟨ids, rfl | ⟨second, rfl⟩⟩ := handleBody_ends writes
          · exact ⟨ids.trans located.ids, located.location⟩
          · exact ⟨ids.trans located.ids,
              (location_adopt _ _).trans located.location⟩

end Protocol

namespace Server

/--
A path names an upload exactly if, without the slashes at its end, it is the
base path without those at its end, in whatever case, then a slash, and then the
id; and finding that out never cuts a path inside a character.  So an upload
that has just been created is found at the address with which its creation is
answered, unless the host answers instead before anything is created.
-/
theorem paths_lead_back (urlPath : String) :
    (∀ path, Address.ofPathInCuts? urlPath path
      = some (Address.ofPath urlPath path)) ∧
    (∀ path id, Address.uploadId? urlPath path = some id ↔
      Address.IsSegment id ∧ ∃ start,
        Split.trimEnd '/' path.toList = start ++ '/' :: id.toList ∧
          Ascii.same start (baseChars urlPath) = true) ∧
    ∀ (server : Server) (visit : Visit) (response : Response),
      server.IsQuiet → server.store.IsNumbered →
      server.service.config.urlPath = urlPath →
      (∀ c ∈ urlPath.toList, Field.isPlain c = true) →
      ((Protocol.intentsOf server.service visit.request).head?.any
        Intent.creates) = true →
      (∀ act ∈ server.acts visit, act.forestalls = false) →
      (server.visit visit).1.response? = some response →
      response.status = 201 →
      ∃ id text,
        (server.visit visit).2.2.store.ids = server.store.ids ++ [id] ∧
        response.headers.first? HeaderName.location
          = some (Bytes.ofString text) ∧
        Address.uploadId? urlPath text = some id := by
  refine ⟨Address.ofPathInCuts?_eq urlPath,
    fun _ _ => Address.uploadId?_eq_some_iff, ?_⟩
  rintro server visit response quiet numbered rfl plain creates unstopped
    answered status
  obtain ⟨after, ends⟩ := quiet.play_of_response? answered
  rw [quiet.acts_eq] at unstopped
  have numbered : (server.scene visit.client visit.news).store.IsNumbered :=
    numbered
  have located := Protocol.handle_locates creates numbered plain unstopped ends
    status
  refine ⟨Store.idOf server.store.created, _, ?_, located.location,
    Address.uploadId?_addressOf (Store.idOf_isSegment _) _⟩
  rw [quiet.visit_store, ends]
  exact located.ids

/-- A server whose host objects to what has been created. -/
def objecting : Server where
  service := { config := { urlPath := "/Dateien/ü//" } }
  hooks hook :=
    if hook = .createComplete then
      some [.verdict (Verdict.proceed.fail (some 201) "already")]
    else none

/-- A visit that creates an upload there. -/
def creatingThere : Visit where
  request :=
    { method := .post
      path := "/DATEIEN/ü/"
      headers := .ofTexts [(HeaderName.tusResumable, protocolVersion),
        (HeaderName.uploadLength, "5")] }

/-- So it is where the host objects, under a path with an umlaut and slashes. -/
theorem paths_lead_back_of_objecting :
    ∃ response id text,
      (objecting.visit creatingThere).1.response? = some response ∧
      response.message = some "already" ∧
      (objecting.visit creatingThere).2.2.store.ids = [id] ∧
      response.headers.first? HeaderName.location
        = some (Bytes.ofString text) ∧
      Address.uploadId? "/Dateien/ü//" text = some id := by
  have answered : (objecting.visit creatingThere).1.response?.map
      (fun response => (response.status, response.message))
        = some (201, some "already") := by
    decide +kernel
  obtain ⟨response, answered, same⟩ := Option.map_eq_some_iff.1 answered
  have unstopped : ∀ act ∈ objecting.acts creatingThere,
      act.forestalls = false := by
    decide +kernel
  have creates : (Protocol.intentsOf objecting.service
      creatingThere.request).head?.any Intent.creates = true := by
    decide +kernel
  obtain ⟨-, -, leads⟩ := paths_lead_back "/Dateien/ü//"
  obtain ⟨id, text, ids, location, back⟩ := leads objecting creatingThere
    response ⟨rfl, fun _ => rfl⟩ .empty rfl (List.all_eq_true.1 rfl)
    creates unstopped answered (congrArg Prod.fst same)
  exact ⟨response, id, text, answered, congrArg Prod.snd same, ids, location,
    back⟩

/-- A server whose host answers before anything is created. -/
def forestalling : Server where
  hooks hook :=
    if hook = .beforeCreate then
      some [.verdict (Verdict.proceed.fail (some 201) "elsewhere")]
    else none

/-- What the host answers itself tells no address, whatever its status is. -/
theorem paths_lead_back_unless_forestalled :
    forestalling.store.ids = [] ∧
      ((forestalling.visit (.creating
        [(HeaderName.uploadLength, "5")])).1.response?.map fun response =>
          (response.status, response.headers.first? HeaderName.location))
        = some (201, none) ∧
      (forestalling.visit (.creating
        [(HeaderName.uploadLength, "5")])).2.2.store.ids = [] := by
  decide +kernel

end Server

end ResumableUpload
