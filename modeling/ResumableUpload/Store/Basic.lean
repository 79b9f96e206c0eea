import ResumableUpload.Upload
/-!
# Stores

A store keeps uploads under ids of its own making.  The ids number the uploads
in the order of their creation, so an id is never given twice.
-/

namespace ResumableUpload

/-- The uploads of a store. -/
structure Store where
  /-- The uploads with their ids, in the order of their creation. -/
  uploads : List (String × Upload) := []
  /-- The number of uploads ever created. -/
  created : Nat := 0
  deriving DecidableEq, Repr

namespace Store

/-- The id of an upload, given how many were created before it. -/
def idOf (number : Nat) : String :=
  "~" ++ toString number ++ "~"

def find? (store : Store) (id : String) : Option Upload :=
  (store.uploads.find? (·.1 == id)).map Prod.snd

/-- Whether there is an upload with an id. -/
def has (store : Store) (id : String) : Bool :=
  store.uploads.any (·.1 == id)

/-- The store with one upload more, and the id of that upload. -/
def insert (store : Store) (upload : Upload) : String × Store :=
  let id := idOf store.created
  (id,
    { uploads := store.uploads ++ [(id, upload)]
      created := store.created + 1 })

/-- The store with the upload of an id changed, if there is one. -/
def modify (store : Store) (id : String) (change : Upload → Upload) : Store :=
  { store with
    uploads := store.uploads.map fun entry =>
      if entry.1 == id then (entry.1, change entry.2) else entry }

/-- The store without the upload of an id. -/
def erase (store : Store) (id : String) : Store :=
  { store with uploads := store.uploads.filter (·.1 != id) }

/-- The ids of the uploads whose life is over and which are not complete. -/
def dead (store : Store) (now : Instant) : List String :=
  (store.uploads.filter (·.2.isDead now)).map Prod.fst

/-- The store without the uploads whose life is over and which are not complete. -/
def sweep (store : Store) (now : Instant) : Store :=
  { store with uploads := store.uploads.filter (!·.2.isDead now) }

/--
The contents of the listed uploads one after another, or the first id that is
not there.
-/
def joined? (store : Store) : List String → Except String Bytes
  | [] => .ok []
  | id :: rest =>
      match store.find? id with
      | none => .error id
      | some upload => (store.joined? rest).map (upload.content ++ ·)

end Store

end ResumableUpload
