/-!
# Structured documents

Configurations are written as documents of the JSON data model.  Numbers are
whole numbers or not; a configuration uses only whole ones.
-/

namespace ResumableUpload

/-- A value of the JSON data model. -/
inductive Document where
  | null
  | boolean (value : Bool)
  /-- A number written without fraction and exponent. -/
  | integer (value : Int)
  | fractional
  | text (value : String)
  | list (items : List Document)
  | object (fields : List (String × Document))
  deriving Inhabited

namespace Document

def unsigned? : Document → Option Nat
  | .integer value =>
      if 0 ≤ value ∧ value < 18446744073709551616 then some value.toNat
      else none
  | _ => none

def boolean? : Document → Option Bool
  | .boolean value => some value
  | _ => none

def text? : Document → Option String
  | .text value => some value
  | _ => none

def items? : Document → Option (List Document)
  | .list items => some items
  | _ => none

/-- What `null` stands for is nothing; anything else is read by `read`. -/
def optional? {α : Type} (read : Document → Option α) :
    Document → Option (Option α)
  | .null => some none
  | document => (read document).map some

/-- The first field of an object with a name. -/
def field? (document : Document) (name : String) : Option Document :=
  match document with
  | .object fields => (fields.find? fun field => field.1 == name).map Prod.snd
  | _ => none

/--
The values of a record's fields, given their names in order and whether each
may be left out.  A record is written as an object, where other fields are
passed over, or as the list of all its values in order.
-/
def record? (names : List (String × Bool)) :
    Document → Option (List Document)
  | .object fields =>
      names.mapM fun (name, mayBeAbsent) =>
        match field? (.object fields) name with
        | some value => some value
        | none => if mayBeAbsent then some .null else none
  | .list items => if items.length = names.length then some items else none
  | _ => none

/--
The name of an alternative without contents: the name itself, or an object
that gives it the contents `null`.
-/
def alternative? : Document → Option String
  | .text name => some name
  | .object [(name, .null)] => some name
  | _ => none

end Document

end ResumableUpload
