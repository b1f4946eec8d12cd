import SiteWeave.Json.Basic
import SiteWeave.Decimal.Layout

/-!
# The compact text of a JSON value

There are no spaces between tokens. In a string only the quote, the backslash and the control
characters below U+0020 are escaped.

## Main definitions

* `JsonNumber.layout`: doubles are written positionally from `1e-5` up to `1e16`.
* `JsonNumber.write`: the text of a number.
* `Json.quoteString`: the text of a string.
* `Json.compact`: the text of a value.
-/

namespace SiteWeave

namespace JsonNumber

/-- Doubles with a decimal exponent from -5 to 15 are written positionally. -/
def layout : FloatLayout := ⟨some (-5), some 16⟩

/-- The text of a number. -/
def write : JsonNumber → String
  | .integer value => toString value
  | .float value => layout.write value

end JsonNumber

namespace Json

/-- How a character is written in a string. -/
def escapeChar (c : Char) : List Char :=
  match c with
  | '"' => ['\\', '"']
  | '\\' => ['\\', '\\']
  | '\x08' => ['\\', 'b']
  | '\t' => ['\\', 't']
  | '\n' => ['\\', 'n']
  | '\x0c' => ['\\', 'f']
  | '\r' => ['\\', 'r']
  | c =>
    if c.toNat < 0x20 then
      ['\\', 'u', '0', '0', Nat.digitChar (c.toNat / 16), Nat.digitChar (c.toNat % 16)]
    else [c]

/-- The text of a string. -/
def quoteString (text : String) : String :=
  String.ofList ('"' :: text.toList.flatMap escapeChar ++ ['"'])

mutual

/-- The compact text of a value. -/
def compact : Json → String
  | .null => "null"
  | .bool value => if value then "true" else "false"
  | .number value => value.write
  | .string value => quoteString value
  | .array items => "[" ++ String.intercalate "," (compactItems items) ++ "]"
  | .object members => "\x7b" ++ String.intercalate "," (compactMembers members) ++ "\x7d"

/-- The compact texts of several values. -/
def compactItems : List Json → List String
  | [] => []
  | item :: rest => item.compact :: compactItems rest

/-- The compact texts of several members. -/
def compactMembers : List (String × Json) → List String
  | [] => []
  | (key, value) :: rest => (quoteString key ++ ":" ++ value.compact) :: compactMembers rest

end

end Json

end SiteWeave
