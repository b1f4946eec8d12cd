import SiteWeave.Json.Reader
import SiteWeave.Record.Basic

/-!
# Records in JSON

A record is read either from a text, member by member as the text goes on, or from a value that was
read before. In a text the first fault in reading order is reported, be it one of syntax or of
shape; a fault of the record as a whole is reported where its brackets close.

## Main definitions

* `Reader.readRecord`, `Reader.readRecords`: a record, or a list of records, in a text.
* `Json.toRecord`, `Json.toRecords`: a record, or a list of records, in a value.
-/

namespace SiteWeave

/-- What a number is called where something else was expected. -/
def JsonNumber.found : JsonNumber → Found
  | .integer value => .integer value
  | .float value => .floating value

namespace Reader

variable {α : Type}

/-- Stop at the unread text because of a value's shape. -/
def wrongType (found : Found) (expected : String) : Reader α :=
  stop (.shape (.wrongType found expected)) 0

/-- Stop because the next value is not what was expected; lists and objects are not read for it. -/
def mismatch (expected : String) : Reader α := do
  match ← peekToken? with
  | some 'n' => advance *> readWord ['u', 'l', 'l'] *> wrongType .nothing expected
  | some 't' => advance *> readWord ['r', 'u', 'e'] *> wrongType (.boolean true) expected
  | some 'f' => advance *> readWord ['a', 'l', 's', 'e'] *> wrongType (.boolean false) expected
  | some '"' => do
    advance
    wrongType (.text (← readText)) expected
  | some '-' => do
    advance
    wrongType (← readNumber true).found expected
  | some '[' => wrongType .sequence expected
  | some '{' => wrongType .map expected
  | some c =>
    if c.isDigit then do wrongType (← readNumber false).found expected else stopAt .noValue
  | none => stop .unfinishedValue 0

/-- Stop because of the shape of a record, where `close` leaves the text. -/
def wrongRecord (close : Reader Unit) (error : ShapeError) : Reader α := fun unread =>
  let rest := match close unread with
    | .ok (_, rest) => rest
    | .error stop => stop.unread
  .error ⟨.shape error, rest, 0⟩

/-- Read a string. -/
def readString : Reader Json := do
  match ← peekToken? with
  | some '"' => advance *> Json.string <$> readText
  | _ => mismatch "a string"

/-- Read a list; `depth` bounds its nesting. -/
def readList (depth : Nat) (item : Nat → Reader α) : Reader (List α) := do
  match ← peekToken? with
  | some '[' =>
    if depth ≤ 1 then stopAt .tooDeep
    else
      advance
      let items ← readItems (item (depth - 1)) (← get) true
      closeList
      pure items
  | _ => mismatch "a sequence"

/-- Read what a field may hold. -/
def readField (depth : Nat) : FieldKind → Reader Json
  | .text => readString
  | .flag => do
    match ← peekToken? with
    | some 't' => advance *> readWord ['r', 'u', 'e'] *> pure (.bool true)
    | some 'f' => advance *> readWord ['a', 'l', 's', 'e'] *> pure (.bool false)
    | _ => mismatch "a boolean"
  | .textOrNull => do
    match ← peekToken? with
    | some 'n' => advance *> readWord ['u', 'l', 'l'] *> pure .null
    | _ => readString
  | .textList => Json.array <$> readList depth fun _ => readString

/-- Read the members of a record; a text as long as the unread one bounds their number, and `seen`
holds those read before, the last one first. -/
def readFields (type : RecordType) (depth : Nat) : Text → Bool → Members → Reader Members
  | [], _, _ => stop .unfinishedObject 0
  | _ :: bound, isFirst, seen => do
    match ← nextKey isFirst with
    | none =>
      match type.missing? (seen.map Prod.fst) with
      | some field => wrongRecord closeObject (.missingField field.key)
      | none => pure seen.reverse
    | some key =>
      match type.field? key, type.others with
      | some field, _ =>
        if (Json.find? key seen).isSome then wrongRecord closeObject (.duplicateField key)
        else
          colon
          let value ← readField depth field.kind
          readFields type depth bound false ((key, value) :: seen)
      | none, .ignored =>
        colon
        skipValue
        readFields type depth bound false seen
      | none, .kept =>
        colon
        let value ← readValue depth
        readFields type depth bound false ((key, value) :: seen)
      | none, .refused => wrongRecord closeObject (.unknownField key type.keys)

/-- Read the values of a record that is written as a list; the list may end only where all fields
left may be missing. -/
def readListed (type : RecordType) (depth : Nat) : Nat → List Field → Reader Members
  | _, [] => pure []
  | index, field :: fields => do
    if ← nextItem (index = 0) then
      let value ← readField depth field.kind
      return (field.key, value) :: (← readListed type depth (index + 1) fields)
    else if field.required then wrongRecord closeList (.wrongLength index type.listTitle)
    else readListed type depth (index + 1) fields

/-- Read a record. -/
def readRecord (type : RecordType) (depth : Nat) : Reader Members := do
  match ← peekToken? with
  | none => stop .unfinishedValue 0
  | some '{' =>
    if depth ≤ 1 then stopAt .tooDeep
    else
      advance
      let members ← readFields type (depth - 1) (← get) true []
      closeObject
      pure members
  | some '[' =>
    if !type.asList then mismatch type.title
    else if depth ≤ 1 then stopAt .tooDeep
    else
      advance
      let members ← readListed type (depth - 1) 0 type.fields
      closeList
      pure members
  | some _ => mismatch type.title

/-- Read a list of records. -/
def readRecords (type : RecordType) (depth : Nat) : Reader (List Members) :=
  readList depth (readRecord type)

end Reader

namespace Json

/-- What a value is called where something else was expected. -/
def found : Json → Found
  | null => .nothing
  | bool value => .boolean value
  | number value => value.found
  | string value => .text value
  | array _ => .sequence
  | object _ => .map

/-- A value as a string. -/
def toText : Json → Except ShapeError Json
  | string value => .ok (string value)
  | value => .error (.wrongType value.found "a string")

/-- A value as what a field may hold. -/
def toField (kind : FieldKind) (value : Json) : Except ShapeError Json :=
  match kind, value with
  | .text, value => value.toText
  | .flag, bool value => .ok (bool value)
  | .flag, value => .error (.wrongType value.found "a boolean")
  | .textOrNull, null => .ok null
  | .textOrNull, value => value.toText
  | .textList, array items => array <$> items.mapM toText
  | .textList, value => .error (.wrongType value.found "a sequence")

/-- One member of an object as a member of a record, if the record has it. -/
def toMember (type : RecordType) (key : String) (value : Json) :
    Except ShapeError (Option (String × Json)) :=
  match type.field? key, type.others with
  | some field, _ => (fun value => some (key, value)) <$> value.toField field.kind
  | none, .ignored => .ok none
  | none, .kept => .ok (some (key, value))
  | none, .refused => .error (.unknownField key type.keys)

/-- The values of a list as those of a record's fields, from the field with number `index` on. -/
def toListed (type : RecordType) (length : Nat) :
    Nat → List Field → List Json → Except ShapeError Members
  | _, [], [] => .ok []
  | _, [], _ :: _ => .error (.wrongLength length "fewer elements in array")
  | index, field :: fields, [] =>
    if field.required then .error (.wrongLength index type.listTitle)
    else toListed type length (index + 1) fields []
  | index, field :: fields, item :: items => do
    let value ← item.toField field.kind
    return (field.key, value) :: (← toListed type length (index + 1) fields items)

/-- A value as a record. -/
def toRecord (type : RecordType) : Json → Except ShapeError Members
  | object members => do
    let members ← members.filterMapM fun (key, value) => toMember type key value
    match type.missing? (members.map Prod.fst) with
    | some field => .error (.missingField field.key)
    | none => pure members
  | array items =>
    if type.asList then toListed type items.length 0 type.fields items
    else .error (.wrongType .sequence type.title)
  | value => .error (.wrongType value.found type.title)

/-- A value as a list of records. -/
def toRecords (type : RecordType) : Json → Except ShapeError (List Members)
  | array items => items.mapM (toRecord type)
  | value => .error (.wrongType value.found "a sequence")

end Json

end SiteWeave
