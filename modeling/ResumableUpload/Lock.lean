/-!
# Leases on uploads

A request that changes an upload holds a lease on it, so that two requests do
not change one upload at once.  Nobody waits for a lease: it is granted or
refused at once.  Leases are numbered, and giving back a lease that is no
longer the current one of its upload changes nothing.
-/

namespace ResumableUpload

/-- A lease on an upload, as it is given to the holder. -/
structure Lease where
  id : String
  number : Nat
  deriving DecidableEq, Repr

/-- The leases in force. -/
structure LockTable where
  /-- The leases in force, at most one for an upload. -/
  held : List Lease := []
  /--
  The number of the next lease.  It has no bound here; a call adds one to it at
  most, so a count of 64 bits does not wrap in fewer than 2^64 calls.
  -/
  next : Nat := 0
  deriving DecidableEq, Repr

namespace LockTable

/-- The lease in force on an upload. -/
def holder? (table : LockTable) (id : String) : Option Lease :=
  table.held.find? (·.id == id)

/-- Whether there is a lease on an upload. -/
def isLocked (table : LockTable) (id : String) : Bool :=
  (table.holder? id).isSome

/-- Grants a lease on an upload, unless there is one already. -/
def acquire (table : LockTable) (id : String) : Option Lease × LockTable :=
  if table.isLocked id then (none, table)
  else
    let lease : Lease := ⟨id, table.next⟩
    (some lease, { held := lease :: table.held, next := table.next + 1 })

/-- Ends a lease, if it is in force. -/
def release (table : LockTable) (lease : Lease) : LockTable :=
  { table with held := table.held.filter (· != lease) }

end LockTable

/--
A lease in the care of a guard, which gives it back once, whether it is told to
or is dropped.
-/
structure LeaseGuard where
  /-- The lease, until it has been given back. -/
  lease? : Option Lease
  deriving DecidableEq, Repr

namespace LeaseGuard

def holding (lease : Lease) : LeaseGuard := ⟨some lease⟩

/-- The guarded upload; nothing once the lease has been given back. -/
def id (guarded : LeaseGuard) : String :=
  (guarded.lease?.map Lease.id).getD ""

/-- Gives the lease back, if that has not been done. -/
def giveBack (guarded : LeaseGuard) (table : LockTable) :
    LeaseGuard × LockTable :=
  match guarded.lease? with
  | some lease => (⟨none⟩, table.release lease)
  | none => (guarded, table)

end LeaseGuard

end ResumableUpload
