import SiteWeave.Json.Record
import SiteWeave.Settings.Basic
import SiteWeave.Yaml.Value

/-!
# Reading settings

Settings are written in JSON or in YAML. A text is read as JSON first; if it is no settings record,
it is read as YAML, and what is wrong with it is said in the words of YAML.

## Main definitions

* `Settings.ofJson?`, `Settings.ofYaml`: the settings of a text in one of the formats.
* `SettingsError`: why a text is refused, with its message.
* `Settings.parse`: the settings of a text.
-/

namespace SiteWeave

/-- Why a text is refused as settings: what is wrong with it as YAML. -/
abbrev SettingsError := Yaml.DocumentError

/-- The message of an error. -/
def SettingsError.describe (error : SettingsError) : String :=
  "Configuration error: Invalid configuration format: " ++ error.message ++ "."

namespace Settings

/-- The settings of a JSON text. -/
def ofJson? (text : Text) : Option Settings :=
  match Reader.run (Reader.readRecord recordType Reader.maxDepth) text with
  | .ok members => some (ofMembers members)
  | .error _ => none

open Yaml NodeReader in
/-- Read the value of a field, whose key is its path. -/
def readField (kind : FieldKind) (path : String) : NodeReader Json :=
  match kind with
  | .textList => do return .array ((← NodeReader.texts path).map .string)
  | _ => Json.string <$> NodeReader.text path

open Yaml in
/-- Read the members of settings up to the end of their mapping, which starts at a place. `seen`
holds those read before, the last one first, and `fuel` bounds their number. -/
def readFields (since : Mark) : Nat → Members → NodeReader Members
  | 0, seen => return seen.reverse
  | fuel + 1, seen => do
    let piece ← NodeReader.peek
    match piece.content with
    | .mappingEnd => NodeReader.next *> pure seen.reverse
    | _ =>
      let path := match piece.content with
        | .scalar _ text _ => text
        | _ => "?"
      let (key, mark) ← NodeReader.placedText "" "field identifier"
      match recordType.field? key with
      | none => throw (.shape (.unknownField key recordType.keys) "" mark)
      | some field =>
        if (Json.find? key seen).isSome then throw (.shape (.duplicateField key) "" since)
        let value ← readField field.kind path
        readFields since fuel ((key, value) :: seen)

open Yaml in
/-- Read settings. -/
def readSettings : NodeReader Settings :=
  NodeReader.throughAlias fun piece => do
    match piece.content with
    | .mappingStart _ =>
      return ofMembers (← readFields piece.mark ((← get).pieces.length + 1) [])
    | _ =>
      if NodeReader.isEmptyCollection piece then return {}
      else NodeReader.mismatch "" piece recordType.title

/-- The settings of a YAML text. -/
def ofYaml (text : Text) : Except SettingsError Settings :=
  Yaml.NodeReader.run readSettings text

/-- The settings of a text. -/
def parse (text : Text) : Except SettingsError Settings :=
  match ofJson? text with
  | some settings => .ok settings
  | none => ofYaml text

end Settings

end SiteWeave
