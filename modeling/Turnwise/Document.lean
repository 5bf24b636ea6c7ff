import Turnwise.Text.Decimal

/-!
# Documents

Reports, sessions and settings are stored as documents: trees of texts, numbers,
lists and records.  A number is either an integer or is kept as it was written.

A structure is stored as a record of its fields.  It can be read from a record in
any order of keys, where keys that it does not have are ignored, and from a list of
exactly its fields in their order.
-/

namespace Turnwise

/-- A tree of data. -/
inductive Document where
  /-- No value. -/
  | null
  /-- A truth value. -/
  | boolean (value : Bool)
  /-- An integer. -/
  | integer (value : Int)
  /-- A number with a fraction or an exponent, as it is written. -/
  | decimal (written : Text)
  /-- A text. -/
  | text (value : Text)
  /-- A list. -/
  | list (items : List Document)
  /-- A record, as pairs of keys and values. -/
  | record (fields : List (Text × Document))
  deriving Repr

namespace Document

/-- The document of a natural number. -/
def natural (value : Nat) : Document :=
  .integer value

/-- The document of a literal text. -/
def word (value : String) : Document :=
  .text value.toList

/-- The document of a list of texts. -/
def texts (values : List Text) : Document :=
  .list (values.map .text)

/-- The document of a value that may be missing. -/
def optional (encode : α → Document) : Option α → Document
  | some value => encode value
  | none => .null

/-- A record with literal keys. -/
def recordOf (fields : List (String × Document)) : Document :=
  .record (fields.map fun field => (field.1.toList, field.2))

/-- The value of a key in a list of fields. -/
def lookup? (key : Text) (fields : List (Text × Document)) : Option Document :=
  (fields.find? (·.1 == key)).map (·.2)

/-- The value of a key in a record. -/
def get? (key : String) : Document → Option Document
  | .record fields => lookup? key.toList fields
  | _ => none

/-- The truth value that a document is. -/
def boolean? : Document → Option Bool
  | .boolean value => some value
  | _ => none

/-- The natural number below a bound that a document is. -/
def natural? (bound : Nat) : Document → Option Nat
  | .integer (.ofNat value) => if value < bound then some value else none
  | _ => none

/-- The text that a document is. -/
def text? : Document → Option Text
  | .text value => some value
  | _ => none

/-- The list that a document is. -/
def list? : Document → Option (List Document)
  | .list items => some items
  | _ => none

/-- The list of texts that a document is. -/
def texts? (document : Document) : Option (List Text) := do
  (← document.list?).mapM text?

/-- The list of values that a document is. -/
def listOf? (decode : Document → Option α) (document : Document) : Option (List α) := do
  (← document.list?).mapM decode

/-- The value that a document is, or nothing for the document of no value. -/
def optional? (decode : Document → Option α) : Document → Option (Option α)
  | .null => some none
  | document => (decode document).map some

/-- The name that a document stands for: a text, or a record of one key without a
value. -/
def name? : Document → Option Text
  | .text name => some name
  | .record [(name, .null)] => some name
  | _ => none

/-- The values of the named fields, in order, from a record or from a list of
exactly these fields.  A record may lack the keys that are optional. -/
def fields? (keys optionalKeys : List String) : Document → Option (List Document)
  | .record fields =>
      keys.mapM fun key =>
        match lookup? key.toList fields with
        | some value => some value
        | none => if key ∈ optionalKeys then some .null else none
  | .list items => if items.length = keys.length then some items else none
  | _ => none

end Document
end Turnwise
