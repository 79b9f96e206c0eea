import ResumableUpload.Text.Base64
import ResumableUpload.Text.Ascii
import ResumableUpload.Text.Blank
import ResumableUpload.Text.Split
/-!
# Metadata

A client may say about an upload what it likes, as pairs of a key and a value.
On the wire the pairs are separated by commas, and the value of a pair follows
its key after one blank, in base64.  Keys that differ only in the case of ASCII
letters are the same key, and a key occurs once.  The pairs are kept in the
order of their keys, so each map has one written form.
-/

namespace ResumableUpload

/-- Pairs of keys and values in the order of the keys. -/
structure Metadata where
  entries : List (String × Bytes) := []
  deriving DecidableEq, Repr

namespace Metadata

def empty : Metadata := {}

/-- The value of a key, whatever the case of its ASCII letters. -/
def get? (metadata : Metadata) (key : String) : Option Bytes :=
  let chars := key.toList
  (metadata.entries.find? fun entry => Ascii.same entry.1.toList chars).map
    Prod.snd

/-- Whether a key occurs, whatever the case of its ASCII letters. -/
def has (metadata : Metadata) (key : String) : Bool :=
  (metadata.get? key).isSome

def size (metadata : Metadata) : Nat :=
  metadata.entries.length

/-- The pairs with one pair more at its place in the order of the keys. -/
def place (key : String) (value : Bytes) :
    List (String × Bytes) → List (String × Bytes)
  | [] => [(key, value)]
  | entry :: rest =>
      if key < entry.1 then (key, value) :: entry :: rest
      else entry :: place key value rest

/-- One pair more, unless its key occurs already. -/
def insert? (metadata : Metadata) (key : String) (value : Bytes) :
    Option Metadata :=
  if metadata.has key then none
  else some ⟨place key value metadata.entries⟩

/-- One pair as it is written; an empty value leaves the key alone. -/
def writtenEntry (entry : String × Bytes) : String :=
  if entry.2.isEmpty then entry.1
  else entry.1 ++ " " ++ String.ofList (Base64.encode entry.2)

def written (metadata : Metadata) : String :=
  Split.join "," (metadata.entries.map writtenEntry)

/-- How strictly written metadata is read. -/
inductive Strictness where
  /-- Every key carries a value. -/
  | valuesRequired
  /-- A key alone stands for a key with the empty value. -/
  | valuesOptional
  deriving DecidableEq, Repr

/-- Why a text is not written metadata. -/
inductive ParseError where
  | emptyKey
  | missingValue (key : String)
  /-- A pair has more than one blank. -/
  | malformedPair
  /-- A value is not canonical base64. -/
  | invalidBase64 (key : String)
  | duplicateKey
  deriving DecidableEq, Repr

def ParseError.message : ParseError → String
  | .emptyKey => "Header Upload-Metadata: Key must not be empty"
  | .missingValue key =>
      "Header Upload-Metadata: Key " ++ key ++ " must have a value"
  | .malformedPair =>
      "Header Upload-Metadata: Key and value must be separated by a single space"
  | .invalidBase64 key =>
      "Header Upload-Metadata: Value for " ++ key
        ++ " is not properly encoded using base64"
  | .duplicateKey => "Header Upload-Metadata: Duplicate keys are not allowed"

/-- The value of a key, given what follows the key. -/
def parseValue (strictness : Strictness) (key : String) :
    Option (List Char) → Except ParseError Bytes
  | none | some [] =>
      match strictness with
      | .valuesRequired => .error (.missingValue key)
      | .valuesOptional => .ok []
  | some encoded =>
      match Base64.decode encoded with
      | some value => .ok value
      | none => .error (.invalidBase64 key)

/-- The key and value of one piece between commas. -/
def parsePair (strictness : Strictness) (piece : List Char) :
    Except ParseError (String × Bytes) :=
  match Split.pieces ' ' (Blank.trimmed piece) with
  | _ :: _ :: _ :: _ => .error .malformedPair
  | [] | [] :: _ => .error .emptyKey
  | key :: rest => do
      let value ← parseValue strictness (String.ofList key) rest.head?
      return (String.ofList key, value)

/-- The pairs of the pieces, added to the pairs read before them. -/
def parsePieces (strictness : Strictness) (metadata : Metadata) :
    List (List Char) → Except ParseError Metadata
  | [] => .ok metadata
  | piece :: rest => do
      let (key, value) ← parsePair strictness piece
      match metadata.insert? key value with
      | some metadata => parsePieces strictness metadata rest
      | none => .error .duplicateKey

/-- The metadata that a text is the written form of. -/
def parse (strictness : Strictness) (text : String) :
    Except ParseError Metadata :=
  if (Blank.trimmed text.toList).isEmpty then .ok empty
  else parsePieces strictness empty (Split.pieces ',' text.toList)

end Metadata

end ResumableUpload
