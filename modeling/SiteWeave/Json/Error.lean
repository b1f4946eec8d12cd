import SiteWeave.Text.Search
import SiteWeave.Json.Printer
import SiteWeave.Record.Shape

/-!
# Why a JSON text is refused

## Main definitions

* `JsonError`: the causes, with their messages.
* `Stop`: a cause with the place where reading stopped.
* `LocatedError`: a cause with its line and its column, and `Stop.locate`, which finds them.
-/

namespace SiteWeave

/-- Why a JSON text, or a JSON value, is refused. -/
inductive JsonError where
  | unfinishedList
  | unfinishedObject
  | unfinishedString
  | unfinishedValue
  | missingColon
  | missingListComma
  | missingObjectComma
  | badWord
  | noValue
  | badEscape
  | badNumber
  | numberOutOfRange
  | loneSurrogate
  | unfinishedSurrogate
  | controlCharacter
  | keyNotString
  | trailingComma
  | trailingCharacters
  | tooDeep
  /-- A well-formed value of the wrong shape. -/
  | shape (error : ShapeError)

namespace JsonError

/-- The words of JSON for what was found. -/
def wording : Wording := ⟨"null", JsonNumber.layout⟩

/-- The message of a cause. -/
def message : JsonError → String
  | unfinishedList => "EOF while parsing a list"
  | unfinishedObject => "EOF while parsing an object"
  | unfinishedString => "EOF while parsing a string"
  | unfinishedValue => "EOF while parsing a value"
  | missingColon => "expected `:`"
  | missingListComma => "expected `,` or `]`"
  | missingObjectComma => "expected `,` or `\x7d`"
  | badWord => "expected ident"
  | noValue => "expected value"
  | badEscape => "invalid escape"
  | badNumber => "invalid number"
  | numberOutOfRange => "number out of range"
  | loneSurrogate => "lone leading surrogate in hex escape"
  | unfinishedSurrogate => "unexpected end of hex escape"
  | controlCharacter => "control character (\\u0000-\\u001F) found while parsing a string"
  | keyNotString => "key must be a string"
  | trailingComma => "trailing comma"
  | trailingCharacters => "trailing characters"
  | tooDeep => "recursion limit exceeded"
  | shape error => error.message wording

end JsonError

/-- Where and why reading stopped. -/
structure Stop where
  /-- The cause. -/
  error : JsonError
  /-- The text that was not read. -/
  unread : Text
  /-- How many bytes of the unread text count as read. -/
  skipped : Nat

/-- A cause with the line and the column, in bytes, of the place where reading stopped. -/
structure LocatedError where
  /-- The cause. -/
  error : JsonError
  /-- The line, counted from one. -/
  line : Nat
  /-- The bytes of the line that were read. -/
  column : Nat

/-- The number of bytes of a text in UTF-8. -/
def Text.byteCount (text : Text) : Nat :=
  text.foldl (fun count c => count + c.utf8Size) 0

/-- The line and the column after the first `count` bytes of a text. -/
def Text.placeAfter : Text → Nat → Nat → Nat → Nat × Nat
  | [], _, line, column => (line, column)
  | c :: rest, count, line, column =>
    if count < c.utf8Size then (line, column + count)
    else if c = '\n' then placeAfter rest (count - 1) (line + 1) 0
    else placeAfter rest (count - c.utf8Size) line (column + c.utf8Size)

/-- The place of a stop in the text that was read from its start. -/
def Stop.locate (stop : Stop) (source : Text) : LocatedError :=
  let count := source.byteCount - stop.unread.byteCount + stop.skipped
  let (line, column) := source.placeAfter count 1 0
  ⟨stop.error, line, column⟩

/-- The message of a located cause ends in its place. -/
def LocatedError.message (located : LocatedError) : String :=
  located.error.message ++ " at line " ++ toString located.line ++
    " column " ++ toString located.column

end SiteWeave
