import SiteWeave.Json.Error
import SiteWeave.Text.Radix

/-!
# Reading JSON texts

A reader consumes the front of a text or stops with a cause. The readers of this file are those of
the tokens and of whole values; a value that nobody asks for is skipped, which is more lenient about
its numbers and escapes and bounds its depth not at all.

## Main definitions

* `Reader`: a function from a text to a result and the unread rest.
* `Reader.readText`, `Reader.readNumber`, `Reader.readWord`: the readers of tokens.
* `Reader.nextItem`, `Reader.nextKey`, `Reader.colon`, `Reader.closeList`, `Reader.closeObject`: the
  punctuation of lists and objects.
* `Reader.readValue`, `Reader.skipValue`: any value, kept or not.
* `Json.parse`: the value of a whole text.
-/

namespace SiteWeave

/-- A reader takes a text to its result and the rest of the text, or stops. -/
abbrev Reader (α : Type) := StateT Text (Except Stop) α

namespace Reader

variable {α : Type}

/-- Stop in front of the unread text, of which `skipped` bytes count as read. -/
def stop (error : JsonError) (skipped : Nat) : Reader α := fun unread =>
  .error ⟨error, unread, skipped⟩

/-- Stop at the next character, whose first byte counts as read. -/
def stopAt (error : JsonError) : Reader α := fun unread =>
  .error ⟨error, unread, if unread.isEmpty then 0 else 1⟩

/-- Whether a character may stand between tokens. -/
def isSpace (c : Char) : Bool :=
  c = ' ' || c = '\n' || c = '\t' || c = '\r'

/-- The text without its first character. -/
def advance : Reader Unit := modify List.tail

/-- The next character. -/
def peek? : Reader (Option Char) := fun unread => .ok (unread.head?, unread)

/-- The next character behind any spaces. -/
def peekToken? : Reader (Option Char) := do
  modify fun unread => unread.dropWhile isSpace
  peek?

/-! ### Words -/

/-- Read the characters of a word. -/
def readWord : List Char → Reader Unit
  | [] => pure ()
  | c :: word => do
    match ← peek? with
    | none => stop .unfinishedValue 0
    | some d => if c = d then advance *> readWord word else stop .badWord 1

/-! ### Strings -/

/-- Read the four hexadecimal digits of an escape. -/
def readHex : Reader Nat := do
  let unread ← get
  let front := unread.take 4
  if Text.byteCount front < 4 then
    set ([] : Text)
    stop .unfinishedString 0
  else
    match if front.length = 4 then Text.toNat? 16 front else none with
    | some value => set (unread.drop 4) *> pure value
    | none => stop .badEscape 4

/-- The character of a one-letter escape. -/
def shortEscape? : Char → Option Char
  | '"' => some '"'
  | '\\' => some '\\'
  | '/' => some '/'
  | 'b' => some '\x08'
  | 'f' => some '\x0c'
  | 'n' => some '\n'
  | 'r' => some '\r'
  | 't' => some '\t'
  | _ => none

/-- Read one character that the second half of a surrogate pair needs. -/
def readPairMark (mark : Char) : Reader Unit := do
  match ← peek? with
  | none => stop .unfinishedString 0
  | some c => if c = mark then advance else stop .unfinishedSurrogate 1

/-- Read the character behind `\u`: a pair of surrogates stands for one character, and half a pair
for none. -/
def readUnicode : Reader Char := do
  let unit ← readHex
  if 0xDC00 ≤ unit ∧ unit ≤ 0xDFFF then stop .loneSurrogate 0
  else if 0xD800 ≤ unit ∧ unit ≤ 0xDBFF then
    readPairMark '\\'
    readPairMark 'u'
    let low ← readHex
    if low < 0xDC00 ∨ 0xDFFF < low then stop .loneSurrogate 0
    else pure (Char.ofNat (0x10000 + (unit - 0xD800) * 0x400 + (low - 0xDC00)))
  else pure (Char.ofNat unit)

/-- Read the rest of an escape. -/
def readEscape : Reader Char := do
  match ← peek? with
  | none => stop .unfinishedString 0
  | some 'u' => advance *> readUnicode
  | some c =>
    match shortEscape? c with
    | some escaped => advance *> pure escaped
    | none => stop .badEscape 1

/-- Read the rest of a string after its opening quote; a text as long as the unread one bounds the
number of steps. -/
def readTextFrom : Text → Reader (List Char)
  | [] => stop .unfinishedString 0
  | _ :: bound => do
    match ← peek? with
    | none => stop .unfinishedString 0
    | some '"' => advance *> pure []
    | some '\\' => do
      advance
      let c ← readEscape
      return c :: (← readTextFrom bound)
    | some c =>
      if c.toNat < 0x20 then stop .controlCharacter 1
      else do
        advance
        return c :: (← readTextFrom bound)

/-- Read a string after its opening quote. -/
def readText : Reader String := do
  return String.ofList (← readTextFrom (← get))

/-- Skip the rest of an escape; which characters the digits stand for does not matter. -/
def skipEscape : Reader Unit := do
  match ← peek? with
  | none => stop .unfinishedString 0
  | some 'u' => do
    advance
    let _ ← readHex
  | some c => if (shortEscape? c).isSome then advance else stop .badEscape 1

/-- Skip the rest of a string; a text as long as the unread one bounds the number of steps. -/
def skipTextFrom : Text → Reader Unit
  | [] => stop .unfinishedString 0
  | _ :: bound => do
    match ← peek? with
    | none => stop .unfinishedString 0
    | some '"' => advance
    | some '\\' => advance *> skipEscape *> skipTextFrom bound
    | some c =>
      if c.toNat < 0x20 then stop .controlCharacter 0 else advance *> skipTextFrom bound

/-- Skip a string after its opening quote. -/
def skipText : Reader Unit := do
  skipTextFrom (← get)

/-! ### Numbers -/

/-- The digits at the front of the unread text. -/
def takeDigits : Reader (List Char) := do
  let unread ← get
  set (unread.dropWhile Char.isDigit)
  return unread.takeWhile Char.isDigit

/-- Append digits to a significand as long as it fits 64 bits; the number of digits left over comes
with it. -/
def appendDigits (limit : Nat) : Nat → List Char → Nat × Nat
  | significand, [] => (significand, 0)
  | significand, c :: digits =>
    let next := significand * 10 + (c.toNat - '0'.toNat)
    if limit < next then (significand, digits.length + 1) else appendDigits limit next digits

/-- The largest 64-bit number. -/
def maxWord : Nat := Nat.pow 2 64 - 1

/-- A significand times a power of ten: a product for a positive power, which may be out of range,
and repeated quotients for a negative one. -/
def scale : Nat → Float → Int → Option Float
  | 0, x, _ => some x
  | fuel + 1, x, e =>
    if 308 < e then if x == 0.0 then some x else none
    else if 0 ≤ e then
      let product := x * Float.ofScientific 1 false e.toNat
      if product.isInf then none else some product
    else if -308 ≤ e then some (x / Float.ofScientific 1 false e.natAbs)
    else if x == 0.0 then some x
    else scale fuel (x / Float.ofScientific 1 false 308) (e + 308)

/-- The number with a significand and a power of ten. -/
def assemble (negative : Bool) (significand : Nat) (e : Int) : Reader JsonNumber := do
  match scale 4 (UInt64.ofNat significand).toFloat e with
  | some x => pure (.float (if negative then -x else x))
  | none => stop .numberOutOfRange 0

/-- Read the exponent behind its letter, and finish the number. -/
def readExponent (negative : Bool) (significand : Nat) (e : Int) : Reader JsonNumber := do
  let sign ← peek?
  if sign = some '+' ∨ sign = some '-' then advance
  match ← peek? with
  | none => stop .unfinishedValue 0
  | some c =>
    if !c.isDigit then stop .badNumber 1
    else
      let before ← get
      let digits ← takeDigits
      let (exponent, left) := appendDigits (Nat.pow 2 31 - 1) 0 digits
      if left = 0 then
        assemble negative significand (if sign = some '-' then e - exponent else e + exponent)
      else if significand ≠ 0 ∧ sign ≠ some '-' then do
        set (before.drop (digits.length - left + 1))
        stop .numberOutOfRange 0
      else pure (.float (if negative then -0.0 else 0.0))

/-- Read the fraction behind the point, and finish the number. -/
def readFraction (negative : Bool) (significand : Nat) (e : Int) : Reader JsonNumber := do
  let digits ← takeDigits
  if digits.isEmpty then
    match ← peek? with
    | none => stop .unfinishedValue 0
    | some _ => stopAt .badNumber
  else
    let (significand, left) := appendDigits maxWord significand digits
    let e := e - (digits.length - left : Nat)
    match ← peek? with
    | some 'e' | some 'E' => advance *> readExponent negative significand e
    | _ => assemble negative significand e

/-- Read a number after its sign. An integer that does not fit 64 bits becomes a double, as does a
negative zero. -/
def readNumber (negative : Bool) : Reader JsonNumber := do
  let digits ← takeDigits
  match digits, ← get with
  | [], [] => stop .unfinishedValue 0
  | [], _ => stop .badNumber 1
  | '0' :: c :: rest, unread => do
    set (c :: rest ++ unread)
    stopAt .badNumber
  | _, unread =>
    let (significand, left) := appendDigits maxWord 0 digits
    match unread.head? with
    | some '.' => advance *> readFraction negative significand left
    | some 'e' | some 'E' => advance *> readExponent negative significand left
    | _ =>
      if left ≠ 0 then assemble negative significand left
      else if !negative then pure (.integer significand)
      else if significand = 0 ∨ Nat.pow 2 63 < significand then
        pure (.float (-(UInt64.ofNat significand).toFloat))
      else pure (.integer (-(significand : Int)))

/-- Skip digits, at least one of them. -/
def skipDigits (missing : Reader Unit) : Reader Unit := do
  let digits ← takeDigits
  if digits.isEmpty then missing

/-- Skip the exponent behind its letter. -/
def skipExponent : Reader Unit := do
  let sign ← peek?
  if sign = some '+' ∨ sign = some '-' then advance
  skipDigits (stopAt .badNumber)

/-- Skip a number after its sign. -/
def skipNumber : Reader Unit := do
  match ← takeDigits with
  | [] => stopAt .badNumber
  | '0' :: c :: rest => do
    modify fun unread => c :: rest ++ unread
    stopAt .badNumber
  | _ =>
    if (← peek?) = some '.' then
      advance
      skipDigits (stopAt .badNumber)
    match ← peek? with
    | some 'e' | some 'E' => advance *> skipExponent
    | _ => pure ()

/-! ### Punctuation -/

/-- Whether another item of a list follows; a comma in front of it is read. -/
def nextItem (isFirst : Bool) : Reader Bool := do
  match ← peekToken? with
  | none => stop .unfinishedList 0
  | some ']' => pure false
  | some ',' =>
    if isFirst then pure true
    else do
      advance
      match ← peekToken? with
      | none => stop .unfinishedValue 0
      | some ']' => stopAt .trailingComma
      | some _ => pure true
  | some _ => if isFirst then pure true else stopAt .missingListComma

/-- Read the end of a list. -/
def closeList : Reader Unit := do
  match ← peekToken? with
  | none => stop .unfinishedList 0
  | some ']' => advance
  | some ',' => do
    advance
    match ← peekToken? with
    | some ']' => stopAt .trailingComma
    | _ => stopAt .trailingCharacters
  | some _ => stopAt .trailingCharacters

/-- The key of the next member of an object, if there is one; a comma in front of it is read. -/
def nextKey (isFirst : Bool) : Reader (Option String) := do
  match ← peekToken? with
  | none => stop .unfinishedObject 0
  | some '}' => pure none
  | some ',' =>
    if isFirst then stopAt .keyNotString
    else do
      advance
      match ← peekToken? with
      | none => stop .unfinishedValue 0
      | some '}' => stopAt .trailingComma
      | some '"' => advance *> some <$> readText
      | some _ => stopAt .keyNotString
  | some c =>
    if !isFirst then stopAt .missingObjectComma
    else if c = '"' then advance *> some <$> readText
    else stopAt .keyNotString

/-- Read the colon between a key and its value. -/
def colon : Reader Unit := do
  match ← peekToken? with
  | none => stop .unfinishedObject 0
  | some ':' => advance
  | some _ => stopAt .missingColon

/-- Read the end of an object. -/
def closeObject : Reader Unit := do
  match ← peekToken? with
  | none => stop .unfinishedObject 0
  | some '}' => advance
  | some ',' => stopAt .trailingComma
  | some _ => stopAt .trailingCharacters

/-! ### Values -/

/-- Read the items of a list; a text as long as the unread one bounds their number. -/
def readItems (item : Reader α) : Text → Bool → Reader (List α)
  | [], _ => stop .unfinishedList 0
  | _ :: bound, isFirst => do
    if ← nextItem isFirst then
      let value ← item
      return value :: (← readItems item bound false)
    else pure []

/-- Read the members of an object; a text as long as the unread one bounds their number. -/
def readMembers (value : Reader Json) : Text → Bool → Reader (List (String × Json))
  | [], _ => stop .unfinishedObject 0
  | _ :: bound, isFirst => do
    match ← nextKey isFirst with
    | none => pure []
    | some key =>
      colon
      let member ← value
      return (key, member) :: (← readMembers value bound false)

/-- Read a value in which lists and objects nest less than `depth` deep. -/
def readValue : Nat → Reader Json
  | 0 => stopAt .tooDeep
  | depth + 1 => do
    match ← peekToken? with
    | none => stop .unfinishedValue 0
    | some 'n' => advance *> readWord ['u', 'l', 'l'] *> pure .null
    | some 't' => advance *> readWord ['r', 'u', 'e'] *> pure (.bool true)
    | some 'f' => advance *> readWord ['a', 'l', 's', 'e'] *> pure (.bool false)
    | some '"' => advance *> Json.string <$> readText
    | some '-' => advance *> Json.number <$> readNumber true
    | some '[' =>
      if depth = 0 then stopAt .tooDeep
      else
        advance
        let items ← readItems (readValue depth) (← get) true
        closeList
        pure (.array items)
    | some '{' =>
      if depth = 0 then stopAt .tooDeep
      else
        advance
        let members ← readMembers (readValue depth) (← get) true
        closeObject
        pure (Json.ofMembers members)
    | some c => if c.isDigit then Json.number <$> readNumber false else stopAt .noValue

/-- The two kinds of brackets. -/
inductive Bracket where
  | list
  | object
deriving DecidableEq

/-- Skip the key and the colon of a member. -/
def skipKey : Reader Unit := do
  match ← peekToken? with
  | none => stop .unfinishedObject 0
  | some '"' => advance *> skipText *> colon
  | some _ => stopAt .keyNotString

/-- Skip a value, or its opening bracket, which is returned. -/
def skipFront : Reader (Option Bracket) := do
  match ← peekToken? with
  | none => stop .unfinishedValue 0
  | some 'n' => advance *> readWord ['u', 'l', 'l'] *> pure none
  | some 't' => advance *> readWord ['r', 'u', 'e'] *> pure none
  | some 'f' => advance *> readWord ['a', 'l', 's', 'e'] *> pure none
  | some '"' => advance *> skipText *> pure none
  | some '-' => advance *> skipNumber *> pure none
  | some '[' => advance *> pure (some .list)
  | some '{' => advance *> pure (some .object)
  | some c => if c.isDigit then skipNumber *> pure none else stopAt .noValue

/-- Skip what is still open, the innermost bracket first. A comma may come only behind a value. A
text as long as the unread one bounds the number of steps. -/
def skipOpen : Text → Bool → List Bracket → Reader Unit
  | _, _, [] => pure ()
  | [], _, .list :: _ => stop .unfinishedList 0
  | [], _, .object :: _ => stop .unfinishedObject 0
  | _ :: bound, behindValue, .list :: outer => do
    match ← peekToken? with
    | none => stop .unfinishedList 0
    | some ']' => advance *> skipOpen bound true outer
    | some c =>
      if behindValue then
        if c = ',' then advance else stopAt .missingListComma
      let opened ← skipFront
      skipOpen bound opened.isNone (opened.toList ++ .list :: outer)
  | _ :: bound, behindValue, .object :: outer => do
    match ← peekToken? with
    | none => stop .unfinishedObject 0
    | some '}' => advance *> skipOpen bound true outer
    | some c =>
      if behindValue then
        if c = ',' then advance else stopAt .missingObjectComma
      skipKey
      let opened ← skipFront
      skipOpen bound opened.isNone (opened.toList ++ .object :: outer)

/-- Skip a value. -/
def skipValue : Reader Unit := do
  let opened ← skipFront
  skipOpen (← get) opened.isNone opened.toList

/-- Read the end of the text. -/
def atEnd : Reader Unit := do
  match ← peekToken? with
  | none => pure ()
  | some _ => stopAt .trailingCharacters

/-- The depth that bounds the nesting of lists and objects. -/
def maxDepth : Nat := 128

/-- Read a whole text. -/
def run (reader : Reader α) (source : Text) : Except LocatedError α :=
  match StateT.run (reader <* atEnd) source with
  | .ok (value, _) => .ok value
  | .error stop => .error (stop.locate source)

end Reader

/-- The value of a JSON text. -/
def Json.parse (source : Text) : Except LocatedError Json :=
  Reader.run (Reader.readValue Reader.maxDepth) source

end SiteWeave
