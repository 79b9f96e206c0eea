import ResumableUpload.Exchange.Protocol
/-!
# Servers

The surroundings of a request: a store with the lines for its records, a table
of leases, a clock, and a host that watches.  Stores and lock tables may fail,
and hosts may break off, so a server carries a plan of what will fail and of
how the host will react.  It also keeps a log of what was asked of its store
and what the host was told.
-/

namespace ResumableUpload

/-- What may fail, one for each way to ask the store or the lock table. -/
inductive Operation where
  | has
  | length
  | offset
  | metadata
  | part
  | expiry
  | read
  | create
  | createPiece
  | createJoined
  | delete
  | setLength
  | setExpiry
  | algorithms
  | verify
  | expired
  | removeExpired
  | appendBuffered
  | appendStreamed
  | acquire
  | release
  deriving DecidableEq, Repr

def Call.operation : Call → Operation
  | .has _ => .has
  | .length _ => .length
  | .offset _ => .offset
  | .metadata _ => .metadata
  | .part _ => .part
  | .expiry _ => .expiry
  | .read _ => .read
  | .create _ _ => .create
  | .createPiece _ _ => .createPiece
  | .createJoined _ _ => .createJoined
  | .delete _ => .delete
  | .setLength _ _ => .setLength
  | .setExpiry _ _ => .setExpiry
  | .algorithms => .algorithms
  | .verify _ _ _ => .verify
  | .expired => .expired
  | .removeExpired => .removeExpired

def Route.operation : Route → Operation
  | .buffered => .appendBuffered
  | .streamed _ => .appendStreamed

/-- What the log of a server tells. -/
inductive LogEntry where
  | called (asked : Call)
  | appended (id : String) (route : Route)
  /--
  The host was told of an event.  When an upload is complete, the host reads
  it back.
  -/
  | told (event : Event) (file : Except Failure (Option StoredFile))

/-- The surroundings of a request. -/
structure Server where
  service : Service := {}
  settings : BufferSettings := {}
  store : Store := {}
  locks : LockTable := {}
  clock : Instant := { seconds := 0 }
  /--
  How the host will react at each point, event by event; after that it lets
  requests go on.  At a point without a list the host does not watch.
  -/
  hooks : Hook → Option (List Reaction) := fun _ => none
  /-- What will fail, time by time; after that nothing will. -/
  faults : Operation → List (Option Failure) := fun _ => []
  /-- Whether a lease that is dropped is given back at once and without fail. -/
  dropsAtOnce : Bool := true
  /-- Who uses records of uploads or waits for them. -/
  line : Line := {}
  /-- The records that have left the store while somebody was in line for them. -/
  withdrawn : Store := {}
  /-- What was asked and told, the last first. -/
  log : List LogEntry := []

namespace Server

def note (server : Server) (entry : LogEntry) : Server :=
  { server with log := entry :: server.log }

/-- What was asked and told after a number of entries, in order. -/
def notedAfter (server : Server) (count : Nat) : List LogEntry :=
  (server.log.take (server.log.length - count)).reverse

def nextFault (server : Server) (operation : Operation) :
    Option Failure × Server :=
  match server.faults operation with
  | [] => (none, server)
  | fault :: later =>
      (fault,
        { server with
          faults := fun other =>
            if other = operation then later else server.faults other })

/-- How the host reacts at a point this time, if it watches there. -/
def nextReaction (server : Server) (hook : Hook) :
    Option Reaction × Server :=
  match server.hooks hook with
  | none => (none, server)
  | some [] => (some (.verdict .proceed), server)
  | some (reaction :: later) =>
      (some reaction,
        { server with
          hooks := fun other =>
            if other = hook then some later else server.hooks other })

/-- Gives a lease back, unless that fails this time. -/
def giveBack (server : Server) (lease : Lease) : Server :=
  match server.nextFault .release with
  | (some _, server) => server
  | (none, server) => { server with locks := server.locks.release lease }

/-- Gives back a lease that nobody cares for any more. -/
def dropLease (server : Server) : Option Lease → Server
  | none => server
  | some lease =>
      if server.dropsAtOnce then
        { server with locks := server.locks.release lease }
      else server.giveBack lease

/-- Asks for a lease, unless that fails this time. -/
def askLease (server : Server) (id : String) :
    Except Failure (Option Lease) × Server :=
  match server.nextFault .acquire with
  | (some failure, server) => (.error failure, server)
  | (none, server) =>
      let (lease, locks) := server.locks.acquire id
      (.ok lease, { server with locks := locks })

/-- Whether there is an upload and its record is in use. -/
def isUsed (server : Server) (id : String) : Bool :=
  server.store.has id && server.line.isUsed id

/--
The server with another store.  The records that the new store does not have
are kept for those who are in line for them.
-/
def withStore (server : Server) (store : Store) : Server :=
  let lost := server.store.uploads.filter fun entry =>
    server.line.isUsed entry.1 && !store.has entry.1
  { server with
    store := store
    withdrawn :=
      { server.withdrawn with uploads := server.withdrawn.uploads ++ lost } }

def join (server : Server) (id : String) : Turn × Server :=
  let (turn, line) := server.line.join id
  (turn, { server with line := line })

/-- Ends a turn, if there is one. -/
def leave (server : Server) : Option Turn → Server
  | none => server
  | some turn => { server with line := server.line.leave turn }

/-- The record of an upload that is in the store or has left it. -/
def record? (server : Server) (id : String) : Option Upload :=
  (server.store.find? id).or (server.withdrawn.find? id)

/-- Changes the record of an upload that is in the store or has left it. -/
def changeRecord (server : Server) (id : String) (change : Upload → Upload) :
    Server :=
  { server with
    store := server.store.modify id change
    withdrawn := server.withdrawn.modify id change }

/-- The answer of the store to a call. -/
def answer (server : Server) (asked : Call) :
    Except Failure asked.Reply × Server :=
  let (reply, store) := server.store.answer server.clock asked
  (reply, server.withStore store)

/--
The answer to a call about a record that may have left the store since the call
came.
-/
def answerInTurn (server : Server) (turn : Turn) (asked : Call) :
    Except Failure asked.Reply × Server :=
  if server.store.has turn.id then server.answer asked
  else
    let (reply, withdrawn) := server.withdrawn.answer server.clock asked
    (reply, { server with withdrawn := withdrawn })

end Server

end ResumableUpload
