import SiteWeave.Json.Basic

/-!
# Record types

A record type lists the fields of a record in their order, with what each may hold and whether it
may be left out, and says what happens to members that are no fields. Reading a record gives the
members that were there, each with a value its field may hold.

## Main definitions

* `FieldKind`, `Field`, `Others`, `RecordType`: the description of a record.
* `Members`: the members of a record that was read.
* `Members.text`, `Members.textOrNull?`, `Members.flag`, `Members.texts?`: their values.
-/

namespace SiteWeave

/-- What a field may hold. -/
inductive FieldKind where
  | text
  | flag
  | textOrNull
  | textList
deriving DecidableEq, Repr

/-- One field of a record. -/
structure Field where
  /-- The key of the field. -/
  key : String
  /-- What the field may hold. -/
  kind : FieldKind
  /-- Whether the field must be there. -/
  required : Bool
deriving DecidableEq, Repr

/-- What happens to a member that is no field. -/
inductive Others where
  | ignored
  | kept
  | refused
deriving DecidableEq, Repr

/-- The description of a record. -/
structure RecordType where
  /-- The name of the record in messages. -/
  name : String
  /-- The fields in their order. -/
  fields : List Field
  /-- What happens to other members. -/
  others : Others
  /-- Whether the record may be written as the list of its fields' values. -/
  asList : Bool
deriving DecidableEq, Repr

namespace RecordType

/-- The field with a key. -/
def field? (type : RecordType) (key : String) : Option Field :=
  type.fields.find? fun field => field.key = key

/-- The keys of all fields. -/
def keys (type : RecordType) : List String :=
  type.fields.map Field.key

/-- What a value of the type is called where another was found. -/
def title (type : RecordType) : String :=
  "struct " ++ type.name

/-- What a list of the right length is called. -/
def listTitle (type : RecordType) : String :=
  type.title ++ " with " ++ toString type.fields.length ++ " elements"

/-- The first required field that is not among `keys`. -/
def missing? (type : RecordType) (keys : List String) : Option Field :=
  type.fields.find? fun field => field.required && !keys.contains field.key

end RecordType

/-- The members of a record, in the order in which they were read. -/
abbrev Members := List (String × Json)

namespace Members

/-- The text of a field, empty where the field was left out. -/
def text (members : Members) (key : String) : String :=
  match Json.find? key members with
  | some (.string value) => value
  | _ => ""

/-- The text of a field, if it was there and not null. -/
def textOrNull? (members : Members) (key : String) : Option String :=
  match Json.find? key members with
  | some (.string value) => some value
  | _ => none

/-- Whether a flag was set. -/
def flag (members : Members) (key : String) : Bool :=
  match Json.find? key members with
  | some (.bool value) => value
  | _ => false

/-- The texts of a list, if the field was there. -/
def texts? (members : Members) (key : String) : Option (List String) :=
  match Json.find? key members with
  | some (.array items) => some (items.filterMap fun
    | .string value => some value
    | _ => none)
  | _ => none

end Members

end SiteWeave
