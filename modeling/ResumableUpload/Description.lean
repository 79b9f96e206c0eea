import ResumableUpload.Server.Run
/-!
# Descriptions

Texts that show people where a host watches, what a request is, and what a
store offers.  They name the fields of what they show and leave out what has
no text.
-/

namespace ResumableUpload.Description

def truth (value : Bool) : String :=
  if value then "true" else "false"

def hookName : Hook → String
  | .authorize => "authorize"
  | .beforeCreate => "before_create"
  | .createComplete => "create_complete"
  | .beforeWrite => "before_write"
  | .beforeDelete => "before_delete"
  | .deleteComplete => "delete_complete"
  | .fileComplete => "file_complete"

def hookOfName? (text : String) : Option Hook :=
  Hook.all.find? fun hook => hookName hook == text

def hooks (watched : List Hook) : String :=
  let fields := Hook.all.map fun hook =>
    hookName hook ++ ": " ++ truth (watched.contains hook)
  "Events \x7b " ++ Split.join ", " fields ++ " \x7d"

/-- A byte of a header value, as it stands between quotes. -/
def valueByte (byte : UInt8) : List Char :=
  if byte == 0x22 then ['\\', '"']
  else if Field.isVisible byte then [Char.ofNat byte.toNat]
  else ['\\', 'x'] ++ Quoted.hexadecimal byte.toNat

def value (bytes : Bytes) : String :=
  String.ofList ('"' :: bytes.flatMap valueByte ++ ['"'])

/-- Header fields, with all values of a name together. -/
def headers (fields : Headers) : String :=
  let shown := fields.grouped.map fun field =>
    Quoted.quote field.name ++ ": " ++ value field.value
  "\x7b" ++ Split.join ", " shown ++ "\x7d"

def request (request : Request) (cancelled : Bool) : String :=
  "TusRequest \x7b method: " ++ request.method.name ++ ", path: "
    ++ Quoted.quote request.path ++ ", headers: " ++ headers request.headers
    ++ ", has_trailers: " ++ truth request.hasTrailers ++ ", cancelled: "
    ++ truth cancelled ++ ", .. \x7d"

def layout : Layout → String
  | .contiguous => "Original"
  | .bucketed => "NonConsecutiveBuckets"

def settings (settings : BufferSettings) : String :=
  "BufferSettings \x7b read_buffer_size: " ++ toString settings.readSize
    ++ ", write_buffer_size: " ++ toString settings.writeSize
    ++ ", strategy: " ++ layout settings.layout ++ " \x7d"

/-- A store in memory, and what was agreed about it. -/
def store (terms : Terms) (store : Store) (buffers : BufferSettings) :
    String :=
  "StoreAdapter \x7b store: InMemoryStore \x7b upload_count: "
    ++ toString store.uploads.length ++ ", buffer: " ++ settings buffers
    ++ " \x7d, extensions: " ++ Quoted.quote terms.extensions.written
    ++ ", features: " ++ terms.featureText ++ " \x7d"

end ResumableUpload.Description
