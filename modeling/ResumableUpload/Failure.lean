import ResumableUpload.Expiration
import ResumableUpload.Extension
import ResumableUpload.Copy.Transfer
/-!
# Failures

What can go wrong with a store or a lock, apart from what a request itself
does wrong.  Refusals of the store and missing uploads become answers to the
client; the other failures are handed to the host.
-/

namespace ResumableUpload

/-- Why a store refuses an operation. -/
inductive Refusal where
  | excess (found : Excess)
  | lengthKnown
  /-- A reason of the store's own. -/
  | other (message : String)
  deriving DecidableEq, Repr

def Refusal.message : Refusal → String
  | .excess found => found.message
  | .lengthKnown => "Upload-Length cannot be changed once it has been set"
  | .other message => message

/-- What can go wrong with a store or a lock. -/
inductive Failure where
  /-- The store lacks the means, or the server may not use them. -/
  | unsupported (means : Means)
  | refused (cause : Refusal)
  | missing (id : String)
  | storage (message : String)
  /-- The end of a life cannot be computed. -/
  | overflow (cause : Policy.Overflow)
  | internal (message : String)
  deriving DecidableEq, Repr

namespace Failure

def message : Failure → String
  | .unsupported means =>
      "The store does not implement the " ++ means.name ++ " role"
  | .refused cause => cause.message
  | .missing id => "The specified upload does not exist: " ++ id
  | .storage text => "storage I/O failure: " ++ text
  | .overflow cause => cause.message
  | .internal text => text

def ofCopyError : CopyError → Failure
  | .excess found => .refused (.excess found)
  | .sink reason => .storage reason.message

end Failure

end ResumableUpload
