import ResumableUpload.Calendar
import ResumableUpload.Text.Blank
import ResumableUpload.Text.Quoted
import ResumableUpload.Text.Split
/-!
# Expiration

An unfinished upload may have a limited life.  Its end is a number of seconds
after its creation, or after its last write, as the policy says.
-/

namespace ResumableUpload

/-- How long unfinished uploads live. -/
inductive Policy where
  /-- A number of seconds from the creation on. -/
  | absolute (timeout : Nat)
  /-- A number of seconds from the last write on. -/
  | sliding (timeout : Nat)
  deriving DecidableEq, Repr

namespace Policy

/-- The length of the life in seconds. -/
def timeout : Policy → Nat
  | .absolute seconds | .sliding seconds => seconds

/-- Whether a write prolongs the life. -/
def isSliding : Policy → Bool
  | .sliding _ => true
  | .absolute _ => false

/-- Why there is no end of life. -/
inductive Overflow where
  /-- The timeout is no signed number of 64 bits. -/
  | timeout
  | calendar
  deriving DecidableEq, Repr

def Overflow.message : Overflow → String
  | .timeout => "expiration timeout is too large"
  | .calendar => "expiration overflows the calendar"

/-- The longest span, in seconds, whose milliseconds are a signed number of 64 bits. -/
def maxSpan : Nat := (Decimal.signedBound - 1) / 1000

/-- The end of the life of an upload that was touched at an instant. -/
def endFrom (policy : Policy) (now : Instant) : Except Overflow Instant :=
  if Decimal.signedBound ≤ policy.timeout then .error .timeout
  else
    let expiry := now.addSeconds policy.timeout
    if policy.timeout ≤ maxSpan && expiry.inCalendar then .ok expiry
    else .error .calendar

def written : Policy → String
  | .absolute seconds => "absolute:" ++ toString seconds
  | .sliding seconds => "sliding:" ++ toString seconds

/-- The policy that a text stands for: its kind, a colon and its seconds. -/
def parse? (text : String) : Option Policy := do
  let (kind, seconds) ← Split.atFirst? ':' (Blank.trimmed text.toList)
  let timeout ← Decimal.unsigned? (Blank.trimmed seconds)
  let kind := Blank.trimmed kind
  if Ascii.same kind "absolute".toList then some (.absolute timeout)
  else if Ascii.same kind "sliding".toList then some (.sliding timeout)
  else none

/-- What is said of a text that is no policy. -/
def invalidMessage (text : String) : String :=
  "invalid expiration policy " ++ Quoted.quote text
    ++ ", expected absolute:<secs> or sliding:<secs>"

end Policy

end ResumableUpload
