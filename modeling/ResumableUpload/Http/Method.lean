import ResumableUpload.Text.Blank
import ResumableUpload.Http.Header
/-!
# Methods

A method is a token.  Five methods have a meaning in the protocol; the method
of a request may be replaced by a header field, for clients that can send only
some methods.
-/

namespace ResumableUpload

/-- The method of a request. -/
inductive Method where
  | options
  | head
  | post
  | patch
  | delete
  | other (token : String)
  deriving DecidableEq, Repr

namespace Method

/-- The method with a name; names differ by the case of their letters. -/
def ofName : String → Method
  | "OPTIONS" => .options
  | "HEAD" => .head
  | "POST" => .post
  | "PATCH" => .patch
  | "DELETE" => .delete
  | token => .other token

def name : Method → String
  | .options => "OPTIONS"
  | .head => "HEAD"
  | .post => "POST"
  | .patch => "PATCH"
  | .delete => "DELETE"
  | .other token => token

/-- Whether a character may stand in a token. -/
def isTokenChar (c : Char) : Bool :=
  Ascii.isLetter c || Ascii.isDigit c
    || ['!', '#', '$', '%', '&', '\'', '*', '+', '-', '.', '^', '_', '\x60',
        '|', '~'].contains c

/-- The method that a text names, if the text is a token. -/
def ofToken? (text : String) : Option Method :=
  if !text.isEmpty && text.toList.all isTokenChar then some (ofName text)
  else none

/--
The method a request asks for: the one in the overriding field, in upper case,
if that field is readable and holds a token, and otherwise the one it was sent
with.
-/
def effective (method : Method) (headers : Headers) : Method :=
  ((headers.text? HeaderName.methodOverride).bind fun text =>
    ofToken? (Ascii.toUpper (Blank.trim text))).getD method

end Method

end ResumableUpload
