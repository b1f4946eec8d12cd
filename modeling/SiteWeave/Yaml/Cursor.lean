import SiteWeave.Text.Search

/-!
# Reading positions in a YAML text

A YAML text is read from its first character to its last. Columns count characters, and five line
breaks are known; the pair of a carriage return and a line feed counts as one.

## Main definitions

* `Yaml.Mark`: a place in a text.
* `Yaml.Cursor`: the unread text with its place.
* `Yaml.Cursor.advance`, `Yaml.Cursor.passBreak`, `Yaml.Cursor.takeWhile`: the ways to go on.
* `Yaml.isBreak`, `Yaml.isBlank`, `Yaml.isWord`: classes of characters.
-/

namespace SiteWeave.Yaml

/-- A place in a text; all three numbers count from zero. -/
structure Mark where
  /-- The number of characters in front. -/
  index : Nat := 0
  line : Nat := 0
  column : Nat := 0
deriving DecidableEq, Repr

/-- The line and the column, counted from one. -/
def Mark.describe (mark : Mark) : String :=
  "line " ++ toString (mark.line + 1) ++ " column " ++ toString (mark.column + 1)

/-- Whether a place is in front of the first character. -/
def Mark.isStart (mark : Mark) : Bool :=
  mark.line = 0 && mark.column = 0

/-- Whether a character breaks a line. -/
def isBreak (c : Char) : Bool :=
  c = '\n' || c = '\r' || c = '\u0085' || c = '\u2028' || c = '\u2029'

/-- Whether a character is a space or a tab. -/
def isBlank (c : Char) : Bool :=
  c = ' ' || c = '\t'

/-- Whether a character separates words on a line or breaks the line. -/
def isSpacing (c : Char) : Bool :=
  isBlank c || isBreak c

/-- Whether a character may stand in names of anchors, directives and tags. -/
def isWord (c : Char) : Bool :=
  c.isAlphanum || c = '_' || c = '-'

/-- The unread text with its place. -/
structure Cursor where
  unread : Text
  mark : Mark := {}
deriving DecidableEq, Repr

namespace Cursor

/-- The next character. -/
def peek? (cursor : Cursor) : Option Char :=
  cursor.unread.head?

/-- Whether the text is at its end. -/
def atEnd (cursor : Cursor) : Bool :=
  cursor.unread.isEmpty

/-- The cursor behind some characters of one line. -/
def advance (cursor : Cursor) (count : Nat := 1) : Cursor where
  unread := cursor.unread.drop count
  mark :=
    { cursor.mark with
      index := cursor.mark.index + count
      column := cursor.mark.column + count }

/-- The cursor at the start of the next line, `count` characters on. -/
def nextLine (cursor : Cursor) (count : Nat) : Cursor where
  unread := cursor.unread.drop count
  mark := { index := cursor.mark.index + count, line := cursor.mark.line + 1, column := 0 }

/-- The character that stands for the line break at the cursor, and the cursor behind the break. A
text that is not at a line break stays. -/
def passBreak (cursor : Cursor) : Option Char × Cursor :=
  match cursor.unread with
  | '\r' :: '\n' :: _ => (some '\n', cursor.nextLine 2)
  | c :: _ =>
    if c = '\n' ∨ c = '\r' ∨ c = '\u0085' then (some '\n', cursor.nextLine 1)
    else if isBreak c then (some c, cursor.nextLine 1)
    else (none, cursor)
  | [] => (none, cursor)

/-- The longest run of characters of a class, none of which breaks the line. -/
def takeWhile (cursor : Cursor) (accepts : Char → Bool) : Text × Cursor :=
  let run := cursor.unread.takeWhile accepts
  (run, cursor.advance run.length)

/-- The cursor behind the longest run of characters of a class, none of which breaks the line. -/
def skipWhile (cursor : Cursor) (accepts : Char → Bool) : Cursor :=
  (cursor.takeWhile accepts).2

/-- The cursor behind blanks and a comment. -/
def skipComment (cursor : Cursor) : Cursor :=
  let cursor := cursor.skipWhile isBlank
  if cursor.peek? = some '#' then cursor.skipWhile fun c => !isBreak c else cursor

/-- Whether a word starts here or the text ends. -/
def atSpacing (cursor : Cursor) : Bool :=
  cursor.peek?.all isSpacing

/-- Whether the line ends here. -/
def atLineEnd (cursor : Cursor) : Bool :=
  cursor.peek?.all isBreak

/-- Whether a line starts here with three given characters on their own. -/
def atMarker (cursor : Cursor) (c : Char) : Bool :=
  cursor.mark.column = 0 && cursor.unread.take 3 = [c, c, c] && (cursor.advance 3).atSpacing

/-- Whether a line starts here that starts or ends a document. -/
def atDocumentMarker (cursor : Cursor) : Bool :=
  cursor.atMarker '-' || cursor.atMarker '.'

end Cursor

end SiteWeave.Yaml
