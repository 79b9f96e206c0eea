/-!
# Lines for records

The record of an upload is used by one at a time.  Whoever finds it in use
waits in line, and a record passes from hand to hand in the order in which its
users came: the first in line has it, even before he has noticed.  A use that
does not have to wait takes no turn.
-/

namespace ResumableUpload

/-- A turn at the record of an upload. -/
structure Turn where
  id : String
  /-- The number of the turn, which no other turn in line has. -/
  number : Nat
  deriving DecidableEq, Repr

/-- The users of all records and those who wait for them. -/
structure Line where
  /-- Their turns, in the order in which they came. -/
  turns : List Turn := []
  deriving DecidableEq, Repr

namespace Line

/-- The turn of the user of a record. -/
def first? (line : Line) (id : String) : Option Turn :=
  line.turns.find? (·.id == id)

/-- Whether the record of an upload is in use. -/
def isUsed (line : Line) (id : String) : Bool :=
  (line.first? id).isSome

def hasCome (line : Line) (turn : Turn) : Bool :=
  line.first? turn.id == some turn

/-- A number greater than those of all turns in line. -/
def nextNumber (line : Line) : Nat :=
  (line.turns.map fun turn => turn.number + 1).foldr max 0

def join (line : Line) (id : String) : Turn × Line :=
  let turn : Turn := ⟨id, line.nextNumber⟩
  (turn, ⟨line.turns ++ [turn]⟩)

/-- Ends a turn, whether it has come or not. -/
def leave (line : Line) (turn : Turn) : Line :=
  ⟨line.turns.filter (· != turn)⟩

end Line

end ResumableUpload
