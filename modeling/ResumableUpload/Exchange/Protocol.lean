import ResumableUpload.Exchange.Handling
/-!
# The protocol

How a request is handled from its arrival to its answer.  For each of its
intents the host is asked first; then the version is checked and, where the
intent needs it, a lease is taken; then the requirements are checked, the host
is told, the work is done, and the host is told again.  A lease is given back
whatever has happened.
-/

namespace ResumableUpload.Protocol

/-- What the host is told after an upload was created. -/
def tellCreated (exchange : Exchange) (id : String) (length : Option Nat)
    (complete : Bool) : Attempt Verdict := do
  let verdict ← Attempt.tell
    (.createComplete id length exchange.metadata exchange.part exchange.headers)
  if verdict.failed || !complete then return verdict
  else Attempt.tell (.fileComplete id)

/-- What the host is told after something was done. -/
def tellOutcome (exchange : Exchange) : Outcome → Attempt Verdict
  | .created id length complete => tellCreated exchange id length complete
  | .written id complete =>
      if complete then Attempt.tell (.fileComplete id)
      else pure .proceed
  | .deleted id => Attempt.tell (.deleteComplete id)
  | .settled => pure .proceed

/-- What the host is told before anything is done. -/
def tellBefore (event? : Option Event) : Attempt Verdict :=
  match event? with
  | some event => Attempt.tell event
  | none => pure .proceed

/-- Does what is to be done, and tells the host. -/
def carryOut (handling : Handling) (exchange : Exchange) :
    Attempt Exchange := do
  let (exchange, outcome) ← handling.carryOut exchange
  let verdict ← tellOutcome exchange outcome
  return if verdict.failed then exchange.refuse verdict else exchange

/-- Checks the requirements, and does what is to be done. -/
def execute (handling : Handling) (exchange : Exchange) :
    Attempt Exchange := do
  match ← (handling.check exchange).caught with
  | .error rejection => return exchange.reject rejection
  | .ok checked =>
      let verdict ← tellBefore (handling.before checked)
      if verdict.failed then return checked.refuse verdict
      else carryOut handling checked

/--
A result in which what the store refuses, and uploads that have vanished, are
answers to the client.
-/
def settle (exchange : Exchange) :
    Except Failure Exchange → Except Failure Exchange
  | .error (.refused cause) => .ok (exchange.answerMessage 400 cause.message)
  | .error (.missing _) => .ok (exchange.reject .notFound)
  | result => result

/-- Executes a handling and settles its result. -/
def executeSettled (handling : Handling) (exchange : Exchange) :
    Attempt Exchange :=
  ExceptT.mk (settle exchange <$> (execute handling exchange).caught)

/-- Executes a handling with a lease on the upload, and gives the lease back. -/
def executeLeased (handling : Handling) (exchange : Exchange) :
    Attempt Exchange := do
  match ← Attempt.acquire exchange.fileId with
  | none => return exchange.reject (.leased exchange.fileId)
  | some lease =>
      ExceptT.mk do
        let result ← (executeSettled handling exchange).caught
        Program.perform (.release lease)
        return result

/-- The version of the protocol that a request follows. -/
def versionOf (exchange : Exchange) : String :=
  (exchange.headers.text? HeaderName.tusResumable).getD ""

/-- Executes a handling, if the request follows the right version. -/
def executeVersioned (intent : Intent) (handling : Handling)
    (exchange : Exchange) : Attempt Exchange :=
  let exchange := exchange.answerField HeaderName.tusResumable protocolVersion
  if intent != .options && versionOf exchange != protocolVersion then
    return (exchange.answerField HeaderName.tusVersion protocolVersion).reject
      (.version (versionOf exchange))
  else if intent.needsLease then executeLeased handling exchange
  else executeSettled handling exchange

/-- Handles one intent. -/
def handleIntent (intent : Intent) (handling : Handling)
    (exchange : Exchange) : Attempt Exchange := do
  let verdict ← Attempt.tell
    (.authorize intent exchange.method exchange.id exchange.headers)
  if verdict.failed then
    return { exchange with response := {} }.refuse verdict
  else executeVersioned intent handling exchange

/--
The answer to a creation that was followed by a write: the place where the
upload ends and the end of its life are as the write left them.
-/
def adopt (first second : Response) : Response :=
  let take (headers : Headers) (name : String) : Headers :=
    match second.headers.first? name with
    | some value => headers.put name value
    | none => headers
  { first with
    headers :=
      [HeaderName.uploadOffset, HeaderName.uploadExpires].foldl take
        first.headers }

/--
Writes the body to the upload that was created.  Whatever becomes of the
write, the request is answered as a creation.
-/
def handleBody (intent : Intent) (handling : Handling) (exchange : Exchange)
    (id : String) : Attempt Response := do
  let result ← ExceptT.lift
    (handleIntent intent handling (exchange.continueWith id)).caught
  return match result with
    | .ok written => adopt exchange.response written.response
    | .error _ => exchange.response

/-- The second intent of a request whose first intent has been handled. -/
def handleSecond (service : Service) (exchange : Exchange)
    (second? : Option Intent) : Attempt Response :=
  match second?, second?.bind (Handling.ofIntent? service), exchange.id with
  | some intent, some handling, some id =>
      if exchange.response.status = 201 then
        handleBody intent handling exchange id
      else pure exchange.response
  | _, _, _ => pure exchange.response

/-- What a request asks for, in order. -/
def intentsOf (service : Service) (request : Request) : List Intent :=
  Intent.ofRequest service.terms service.config.urlPath
    (request.method.effective request.headers) request.path request.headers

/-- Handles a request. -/
def handle (service : Service) (request : Request) : Attempt Answer :=
  match intentsOf service request with
  | [] => return .passOn
  | first :: rest =>
      match Handling.ofIntent? service first with
      | none => return .passOn
      | some handling => do
          let exchange ← handleIntent first handling
            (Exchange.ofRequest service request)
          return .respond (← handleSecond service exchange rest.head?)

/-- Handles a request; a failure that is nobody's answer is a value. -/
def program (service : Service) (request : Request) :
    Program (Except Failure Answer) :=
  (handle service request).caught

/-- Removes the uploads whose life is over and which are not complete. -/
def sweep (service : Service) : Attempt Nat :=
  service.call .removeExpired

end ResumableUpload.Protocol
