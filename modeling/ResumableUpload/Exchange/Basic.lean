import ResumableUpload.Checksum
import ResumableUpload.Exchange.Rejection
import ResumableUpload.Program
/-!
# Exchanges

An exchange is a request under way: what was asked, what its header fields
have been found to declare, and the answer as far as it stands.  Checking an
exchange is a program that may end in a rejection.
-/

namespace ResumableUpload

/-- What a client asks. -/
structure Request where
  method : Method
  path : String
  headers : Headers := []
  /-- Whether fields may follow the body. -/
  hasTrailers : Bool := false
  deriving DecidableEq, Repr

/-- What a client is answered. -/
structure Response where
  status : Nat := 200
  headers : Headers := []
  message : Option String := none
  deriving DecidableEq, Repr

/-- What becomes of a request. -/
inductive Answer where
  /-- It is none of the server's business and goes on as it came. -/
  | passOn
  | respond (response : Response)
  deriving DecidableEq, Repr

/-- A server's configuration and the means of its store. -/
structure Service where
  config : Config := {}
  /-- The means of the store. -/
  offers : Means → Bool := fun _ => true

/-- What was agreed between the store and the configuration. -/
def Service.terms (service : Service) : Terms :=
  ⟨service.offers, service.config.allowed⟩

/-- What header fields have been found to declare. -/
structure Declared where
  length : Option Nat := none
  /-- Whether the length follows later. -/
  deferred : Bool := false
  /-- Where the body is to be appended. -/
  offset : Option Nat := none
  metadata : Option Metadata := none
  /-- The metadata as it was sent. -/
  metadataText : Option String := none
  part : Option Part := none
  deriving DecidableEq, Repr

/-- The checksum that the body has to have. -/
inductive Pledge where
  | none
  /-- One that came before the body. -/
  | given (checksum : Checksum)
  /-- One that is to follow the body. -/
  | announced
  deriving DecidableEq, Repr

/-- A request under way. -/
structure Exchange where
  method : Method
  headers : Headers
  id : Option String
  hasTrailers : Bool
  /-- The answer as far as it stands. -/
  response : Response := {}
  /-- What the header fields have been found to declare. -/
  declared : Declared := {}
  /-- The checksum that the body has to have. -/
  pledge : Pledge := .none
  deriving DecidableEq, Repr

namespace Exchange

def ofRequest (service : Service) (request : Request) : Exchange :=
  { method := request.method.effective request.headers
    headers := request.headers
    id := Address.uploadId? service.config.urlPath request.path
    hasTrailers := request.hasTrailers }

/-- The upload the exchange is about, or the empty id. -/
def fileId (exchange : Exchange) : String :=
  exchange.id.getD ""

/-- The length that a new upload is to have, if it is declared. -/
def newLength (exchange : Exchange) : Option Nat :=
  if exchange.declared.deferred then none else exchange.declared.length

def metadata (exchange : Exchange) : Metadata :=
  exchange.declared.metadata.getD .empty

def part (exchange : Exchange) : Part :=
  exchange.declared.part.getD .whole

def answerField (exchange : Exchange) (name text : String) : Exchange :=
  { exchange with
    response :=
      { exchange.response with
        headers := exchange.response.headers.putText name text } }

/-- Puts a field into the answer, if there is something to put. -/
def answerFieldIf (exchange : Exchange) (name : String)
    (text? : Option String) : Exchange :=
  match text? with
  | some text => exchange.answerField name text
  | none => exchange

def answerStatus (exchange : Exchange) (status : Nat) : Exchange :=
  { exchange with response := { exchange.response with status := status } }

/-- Gives the answer its status and its words. -/
def answerMessage (exchange : Exchange) (status : Nat)
    (message? : Option String) : Exchange :=
  { exchange with
    response :=
      { exchange.response with status := status, message := message? } }

def reject (exchange : Exchange) (rejection : Rejection) : Exchange :=
  exchange.answerMessage rejection.status rejection.message?

/-- Answers with a verdict of the host. -/
def refuse (exchange : Exchange) (verdict : Verdict) : Exchange :=
  exchange.answerMessage (verdict.status.getD 400) (some verdict.message)

/-- The exchange as a write of the body to the upload it has created. -/
def continueWith (exchange : Exchange) (id : String) : Exchange :=
  { method := exchange.method
    headers :=
      (exchange.headers.remove HeaderName.uploadLength).put
        HeaderName.uploadOffset (Bytes.ofString "0")
    id := some id
    hasTrailers := exchange.hasTrailers }

end Exchange

/-- A program that may end in a rejection or in a failure. -/
abbrev Check := ExceptT Rejection Attempt

namespace Check

def reject {α : Type} (rejection : Rejection) : Check α :=
  ExceptT.mk (pure (.error rejection))

/-- A program that ends in no rejection. -/
def attempt {α : Type} (attempt : Attempt α) : Check α :=
  ExceptT.lift attempt

def call (asked : Call) : Check asked.Reply :=
  attempt (Attempt.call asked)

/-- A result that may be a rejection. -/
def ofExcept {α : Type} (result : Except Rejection α) : Check α :=
  ExceptT.mk (pure result)

/-- What the program ends in, with a rejection as a value. -/
def caught {α : Type} (check : Check α) : Attempt (Except Rejection α) :=
  check.run

end Check

/-- Ends in a failure unless the means may be used. -/
def Service.require (service : Service) (means : Means) : Attempt Unit :=
  if service.terms.grants means then pure () else .fail (.unsupported means)

/-- Ends in a failure unless what a call makes use of may be used. -/
def Service.permit (service : Service) (asked : Call) : Attempt Unit :=
  match asked.means? with
  | some means => service.require means
  | none => pure ()

/-- A call that makes use of means which may have to be refused. -/
def Service.call (service : Service) (asked : Call) : Attempt asked.Reply := do
  service.permit asked
  Attempt.call asked

end ResumableUpload
