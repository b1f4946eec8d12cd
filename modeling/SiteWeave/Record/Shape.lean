import SiteWeave.Decimal.Layout
import SiteWeave.Text.Quoted

/-!
# Values of the wrong shape

A record is read from a data format that knows more kinds of values than the record has fields for.
This file names what was found and what is wrong with it.

## Main definitions

* `Found`: what stands in the data.
* `Wording`: the words of one data format for it.
* `ShapeError`: why data is not a record, with its message.
-/

namespace SiteWeave

/-- What was found where something else was expected. -/
inductive Found where
  | nothing
  | boolean (value : Bool)
  | integer (value : Int)
  /-- An integer that needs more than 64 bits. -/
  | wideInteger (value : Int)
  | floating (value : Float)
  | text (value : String)
  | sequence
  | map

/-- The words of a data format for what was found. -/
structure Wording where
  /-- The word for a missing value. -/
  nothing : String
  /-- How doubles are written. -/
  floats : FloatLayout

/-- A text between backticks. -/
def backticked (text : String) : String :=
  "`" ++ text ++ "`"

/-- What was found, in the words of a data format. -/
def Found.describe (wording : Wording) : Found → String
  | .nothing => wording.nothing
  | .boolean value => "boolean " ++ backticked (if value then "true" else "false")
  | .integer value => "integer " ++ backticked (toString value)
  | .wideInteger value =>
    "integer " ++ backticked (toString value) ++ (if value < 0 then " as i128" else " as u128")
  | .floating value => "floating point " ++ backticked (wording.floats.write value)
  | .text value => "string " ++ quoted value
  | .sequence => "sequence"
  | .map => "map"

/-- Why data does not have the shape of a record. -/
inductive ShapeError where
  /-- A value of another type. -/
  | wrongType (found : Found) (expected : String)
  /-- A value of the right type that is not one of those expected. -/
  | wrongValue (found : Found) (expected : String)
  /-- A list of the wrong length. -/
  | wrongLength (length : Nat) (expected : String)
  | missingField (name : String)
  | duplicateField (name : String)
  | unknownField (name : String) (known : List String)

/-- The field names that would have been known. -/
def ShapeError.expectedNames : List String → String
  | [] => "there are no fields"
  | [name] => "expected " ++ backticked name
  | [name, other] => "expected " ++ backticked name ++ " or " ++ backticked other
  | names => "expected one of " ++ String.intercalate ", " (names.map backticked)

/-- The message of a shape error, in the words of a data format. -/
def ShapeError.message (wording : Wording) : ShapeError → String
  | .wrongType found expected =>
    "invalid type: " ++ found.describe wording ++ ", expected " ++ expected
  | .wrongValue found expected =>
    "invalid value: " ++ found.describe wording ++ ", expected " ++ expected
  | .wrongLength length expected =>
    "invalid length " ++ toString length ++ ", expected " ++ expected
  | .missingField name => "missing field " ++ backticked name
  | .duplicateField name => "duplicate field " ++ backticked name
  | .unknownField name known => "unknown field " ++ backticked name ++ ", " ++ expectedNames known

end SiteWeave
