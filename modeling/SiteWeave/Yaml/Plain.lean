import SiteWeave.Record.Shape
import SiteWeave.Text.Radix
import SiteWeave.Yaml.Event

/-!
# What YAML scalars mean

A plain scalar without a tag is nothing, a boolean, an integer or a double if it is written like
one, and a text otherwise. Quoted scalars and block scalars are texts. A tag may ask for one kind.

## Main definitions

* `Yaml.integer?`, `Yaml.double?`: the numbers that are written plainly.
* `Yaml.plainMeaning`: what a plain scalar means.
* `Yaml.scalarMeaning`: what a scalar with a tag means.
-/

namespace SiteWeave.Yaml

/-- Whether a plain scalar is written like nothing. -/
def isNothing (text : Text) : Bool :=
  ["null", "Null", "NULL", "~"].contains (String.ofList text)

/-- The boolean that is written plainly. -/
def boolean? (text : Text) : Option Bool :=
  let word := String.ofList text
  if ["true", "True", "TRUE"].contains word then some true
  else if ["false", "False", "FALSE"].contains word then some false
  else none

/-- The text without a plus sign at its front. -/
def dropPlus : Text → Text
  | '+' :: rest => rest
  | text => text

/-- Whether a text is a zero and further digits, perhaps with a sign; this is not written like a
number. -/
def isPaddedDigits (text : Text) : Bool :=
  let digits := match text with
    | '-' :: rest => rest
    | text => dropPlus text
  match digits with
  | '0' :: rest => !rest.isEmpty && rest.all Char.isDigit
  | _ => false

/-- The number in digits of a radix that is named by a letter. -/
def prefixed? : Text → Option Nat
  | '0' :: 'x' :: digits => Text.toNat? 16 digits
  | '0' :: 'o' :: digits => Text.toNat? 8 digits
  | '0' :: 'b' :: digits => Text.toNat? 2 digits
  | _ => none

/-- The integer that is written plainly, of any size. -/
def integer? (text : Text) : Option Int :=
  let magnitude? (digits : Text) : Option Nat :=
    match prefixed? digits with
    | some value => some value
    | none => if isPaddedDigits text then none else Text.toNat? 10 digits
  match text with
  | '-' :: digits => (magnitude? digits).map fun value => -(value : Int)
  | text => (magnitude? (dropPlus text)).map Int.ofNat

/-- The double with decimal digits and a decimal exponent, if it is finite. -/
def doubleOfDecimal? (digits : Text) (exponent : Int) : Option Float :=
  let digits := digits.dropWhile (· = '0')
  let magnitude : Int := digits.length + exponent
  if digits.isEmpty || magnitude < -400 then some 0
  else if 400 < magnitude then none
  else
    let value :=
      Float.ofScientific ((Text.toNat? 10 digits).getD 0) (exponent < 0) exponent.natAbs
    if value.isFinite then some value else none

/-- The exponent of a double behind its digits. -/
def exponent? : Text → Option Int
  | [] => some 0
  | c :: rest =>
    if c ≠ 'e' ∧ c ≠ 'E' then none
    else
      match rest with
      | '-' :: digits => (Text.toNat? 10 digits).map fun value => -(value : Int)
      | digits => (Text.toNat? 10 (dropPlus digits)).map Int.ofNat

/-- The finite double that is written without a sign. -/
def unsignedDouble? (text : Text) : Option Float := do
  let whole := text.takeWhile Char.isDigit
  let rest := text.dropWhile Char.isDigit
  let (fraction, rest) := match rest with
    | '.' :: rest => (rest.takeWhile Char.isDigit, rest.dropWhile Char.isDigit)
    | rest => ([], rest)
  guard !(whole ++ fraction).isEmpty
  doubleOfDecimal? (whole ++ fraction) ((← exponent? rest) - fraction.length)

/-- The double that is written plainly. -/
def double? (text : Text) : Option Float :=
  match text with
  | '-' :: rest =>
    if [".inf", ".Inf", ".INF"].contains (String.ofList rest) then some (-1.0 / 0.0)
    else (unsignedDouble? rest).map fun value => -value
  | _ =>
    if [".nan", ".NaN", ".NAN"].contains (String.ofList text) then some (0.0 / 0.0)
    else if [".inf", ".Inf", ".INF"].contains (String.ofList (dropPlus text)) then some (1.0 / 0.0)
    else unsignedDouble? (dropPlus text)

/-- What an integer of any size is called. -/
def integerMeaning? (value : Int) : Option Found :=
  if -Nat.pow 2 63 ≤ value ∧ value < Nat.pow 2 64 then some (.integer value)
  else if -Nat.pow 2 127 ≤ value ∧ value < Nat.pow 2 128 then some (.wideInteger value)
  else none

/-- What a plain scalar means. -/
def plainMeaning (text : Text) : Found :=
  if text.isEmpty || isNothing text then .nothing
  else
    match boolean? text with
    | some value => .boolean value
    | none =>
      match (integer? text).bind integerMeaning? with
      | some found => found
      | none =>
        match if isPaddedDigits text then none else double? text with
        | some value => .floating value
        | none => .text (String.ofList text)

/-- A tag of the standard kinds. -/
def standardTag (name : String) : Tag :=
  Bytes.ofString ("tag:yaml.org,2002:" ++ name)

/-- What a scalar means. A tag of a standard kind asks for a scalar that is written like one; a
local tag changes nothing. -/
def scalarMeaning (tag : Option Tag) (text : String) (isPlain : Bool) :
    Except ShapeError Found :=
  let chars := text.toList
  let orWrong (found : Option Found) (expected : String) : Except ShapeError Found :=
    match found with
    | some found => .ok found
    | none => .error (.wrongValue (.text text) expected)
  let untagged := if isPlain then plainMeaning chars else .text text
  match tag with
  | none => .ok untagged
  | some tag =>
    if tag = standardTag "bool" then orWrong ((boolean? chars).map .boolean) "a boolean"
    else if tag = standardTag "int" then
      orWrong ((integer? chars).bind integerMeaning?) "an integer"
    else if tag = standardTag "float" then orWrong ((double? chars).map .floating) "a float"
    else if tag = standardTag "null" then
      orWrong (if isNothing chars then some .nothing else none) "null"
    else if tag.head? = some 0x21 then .ok untagged
    else .ok (.text text)

end SiteWeave.Yaml
