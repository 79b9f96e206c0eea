import ResumableUpload.Digest.Algorithm
import ResumableUpload.Failure
import ResumableUpload.Store.Basic
/-!
# Calls to a store

What a server asks of its store, one question or change at a time.  A call
says what it is and what is answered; `Store.answer` is how the store in
memory answers once the records that the call needs are free.  Appends are no
calls, because they take part of a body with them.
-/

namespace ResumableUpload

/-- What a server asks of its store. -/
inductive Call where
  | has (id : String)
  | length (id : String)
  | offset (id : String)
  | metadata (id : String)
  | part (id : String)
  | expiry (id : String)
  | read (id : String)
  | create (length : Option Nat) (metadata : Option String)
  /-- A new upload that is to be joined with others. -/
  | createPiece (length : Option Nat) (metadata : Option String)
  /-- A new upload that joins others. -/
  | createJoined (ids : List String) (metadata : Option String)
  | delete (id : String)
  | setLength (id : String) (length : Nat)
  | setExpiry (id : String) (expiry : Instant)
  | algorithms
  /-- Whether the last append to an upload has a digest; if not, it is undone. -/
  | verify (id : String) (algorithm : String) (hash : Bytes)
  /-- The uploads whose life is over and which are not complete. -/
  | expired
  /-- No more such uploads; the answer is their number. -/
  | removeExpired
  deriving DecidableEq, Repr

namespace Call

/-- The type of the answer to a call. -/
abbrev Reply : Call → Type
  | .has _ => Bool
  | .length _ => Option Nat
  | .offset _ => Nat
  | .metadata _ => Option String
  | .part _ => Part
  | .expiry _ => Option Instant
  | .read _ => Option StoredFile
  | .create _ _ => String
  | .createPiece _ _ => String
  | .createJoined _ _ => String
  | .delete _ => Unit
  | .setLength _ _ => Unit
  | .setExpiry _ _ => Unit
  | .algorithms => List String
  | .verify _ _ _ => Bool
  | .expired => List String
  | .removeExpired => Nat

/-- The means of the store that a call makes use of, beyond the core. -/
def means? : Call → Option Means
  | .has _ | .length _ | .offset _ | .metadata _ => none
  | .part _ | .createPiece _ _ | .createJoined _ _ => some .concatenation
  | .expiry _ | .setExpiry _ _ | .expired | .removeExpired => some .expiration
  | .read _ => some .readable
  | .create _ _ => some .creation
  | .delete _ => some .termination
  | .setLength _ _ => some .creationDeferLength
  | .algorithms | .verify _ _ _ => some .checksum

/-- Whether a call changes something or verifies. -/
def isNotable : Call → Bool
  | .create _ _ | .createPiece _ _ | .createJoined _ _ | .delete _
  | .setLength _ _ | .setExpiry _ _ | .verify _ _ _ | .removeExpired => true
  | _ => false

/-- The upload whose record a call uses, if it uses just one. -/
def record? : Call → Option String
  | .length id | .offset id | .metadata id | .part id | .expiry id | .read id
  | .setLength id _ | .setExpiry id _ | .verify id _ _ => some id
  | .has _ | .create _ _ | .createPiece _ _ | .createJoined _ _ | .delete _
  | .algorithms | .expired | .removeExpired => none

/-- The uploads of a store whose records a call uses, in order. -/
def records (store : Store) : Call → List String
  | .createJoined ids _ => ids
  | .expired | .removeExpired => store.uploads.map Prod.fst
  | call => call.record?.toList

/-- Whether a call compares instants with the present. -/
def looksAtClock : Call → Bool
  | .expired | .removeExpired => true
  | _ => false

end Call

namespace Store

/-- What is to be answered about an upload, if it is there. -/
def ask {α : Type} (store : Store) (id : String) (answer : Upload → α) :
    Except Failure α × Store :=
  match store.find? id with
  | some upload => (.ok (answer upload), store)
  | none => (.error (.missing id), store)

/-- Changes an upload, if it is there. -/
def change (store : Store) (id : String) (change : Upload → Upload) :
    Except Failure Unit × Store :=
  if store.has id then (.ok (), store.modify id change)
  else (.error (.missing id), store)

/-- A new upload, and its id as the answer. -/
def create (store : Store) (upload : Upload) : Except Failure String × Store :=
  let (id, store) := store.insert upload
  (.ok id, store)

/-- Joins uploads to a new one, if they are all there. -/
def createJoined (store : Store) (ids : List String)
    (metadata : Option String) : Except Failure String × Store :=
  match store.joined? ids with
  | .error id => (.error (.missing id), store)
  | .ok content => store.create (.joining ids metadata content)

/-- Fixes the length of an upload whose length is not known. -/
def setLength (store : Store) (id : String) (length : Nat) :
    Except Failure Unit × Store :=
  match store.find? id with
  | none => (.error (.missing id), store)
  | some upload =>
      if upload.length.isSome then (.error (.refused .lengthKnown), store)
      else
        (.ok (), store.modify id fun upload =>
          { upload with length := some length })

/--
Whether the last append to an upload has a digest.  If it has not, or if there
is no such algorithm, its bytes are discarded.  An append is verified once;
after that there is nothing to verify but the empty rest of the content.
-/
def verify (store : Store) (id algorithm : String) (hash : Bytes) :
    Except Failure Bool × Store :=
  match store.find? id with
  | none => (.error (.missing id), store)
  | some upload =>
      let start := upload.chunkStart.getD upload.content.length
      let agrees :=
        match Algorithm.ofName? algorithm with
        | some algorithm => algorithm.agrees (upload.content.drop start) hash
        | none => false
      (.ok agrees, store.modify id (Upload.endChunk start agrees))

/-- How the store in memory answers a call at a given time. -/
def answer (store : Store) (now : Instant) :
    (call : Call) → Except Failure call.Reply × Store
  | .has id => (.ok (store.has id), store)
  | .length id => store.ask id Upload.length
  | .offset id => store.ask id Upload.offset
  | .metadata id => store.ask id Upload.metadata
  | .part id => store.ask id Upload.part
  | .expiry id => store.ask id Upload.expiry
  | .read id =>
      (.ok ((store.find? id).map fun upload =>
        ⟨id, upload.metadata, upload.content⟩), store)
  | .create length metadata =>
      store.create { length := length, metadata := metadata }
  | .createPiece length metadata =>
      store.create { length := length, metadata := metadata, part := .piece }
  | .createJoined ids metadata => store.createJoined ids metadata
  | .delete id =>
      if store.has id then (.ok (), store.erase id)
      else (.error (.missing id), store)
  | .setLength id length => store.setLength id length
  | .setExpiry id expiry =>
      store.change id fun upload => { upload with expiry := some expiry }
  | .algorithms => (.ok (Algorithm.all.map Algorithm.name), store)
  | .verify id algorithm hash => store.verify id algorithm hash
  | .expired => (.ok (store.dead now), store)
  | .removeExpired => (.ok (store.dead now).length, store.sweep now)

end Store

end ResumableUpload
