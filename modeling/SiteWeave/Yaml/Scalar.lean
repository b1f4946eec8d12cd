import SiteWeave.Text.Radix
import SiteWeave.Yaml.Fault

/-!
# Reading YAML scalars

A scalar is written plainly, between quotes, or as an indented block. Where a plain or a quoted
scalar goes on over several lines, one line break becomes a space and each further one is kept.

## Main definitions

* `Yaml.Gap`: blanks or line breaks between two words of a scalar, and the text they stand for.
* `Yaml.readPlain`, `Yaml.readQuoted`, `Yaml.readBlock`: the three kinds of scalars.
-/

namespace SiteWeave.Yaml

/-- What stands between two words of a scalar. All runs have their last character first. -/
inductive Gap where
  | blanks (run : List Char)
  /-- A first line break, unless it is escaped, and further ones. -/
  | lines (first : Option Char) (more : List Char)

namespace Gap

/-- The gap with one more blank; blanks around line breaks are left out. -/
def addBlank (c : Char) : Option Gap → Gap
  | none => blanks [c]
  | some (blanks run) => blanks (c :: run)
  | some (lines first more) => lines first more

/-- The gap with one more line break; blanks in front of line breaks are left out. -/
def addBreak (c : Char) : Option Gap → Gap
  | some (lines first more) => lines first (c :: more)
  | _ => lines (some c) []

/-- Whether the next word is on another line. -/
def isLines : Option Gap → Bool
  | some (lines _ _) => true
  | _ => false

/-- What a gap stands for, the last character first. -/
def fold : Option Gap → List Char
  | none => []
  | some (blanks run) => run
  | some (lines (some '\n') []) => [' ']
  | some (lines (some '\n') more) => more
  | some (lines (some c) more) => more ++ [c]
  | some (lines none more) => more

end Gap

/-- A scalar that was read, and the cursor behind it. -/
structure ReadScalar where
  text : Text
  cursor : Cursor
  /-- Whether line breaks behind the scalar were read too. -/
  passedLines : Bool := false

/-- Whether a character separates the entries of a flow collection. -/
def isFlowMark (c : Char) : Bool :=
  c = ',' || c = '[' || c = ']' || c = '{' || c = '}'

/-- A plain scalar that ends in front of a gap. -/
def endPlain (gap : Option Gap) (text : List Char) (cursor : Cursor) : ReadScalar :=
  ⟨text.reverse, cursor, Gap.isLines gap⟩

/-- Read on in a plain scalar. `indent` is the least column of further lines, `text` holds what was
read, the last character first, and a text as long as the unread one bounds the number of steps. -/
def readPlainFrom (inFlow : Bool) (indent : Int) (start : Mark) :
    Text → Option Gap → List Char → Cursor → Except Fault ReadScalar
  | [], gap, text, cursor => .ok (endPlain gap text cursor)
  | _ :: bound, gap, text, cursor =>
    match cursor.unread with
    | [] => .ok (endPlain gap text cursor)
    | c :: rest =>
      if isBlank c then
        if c = '\t' && Gap.isLines gap && cursor.mark.column < indent then
          .error ⟨.misplacedTab, cursor.mark, some (.plainScalar, start)⟩
        else
          readPlainFrom inFlow indent start bound (some (Gap.addBlank c gap)) text cursor.advance
      else
        match cursor.passBreak with
        | (some c, cursor) =>
          readPlainFrom inFlow indent start bound (some (Gap.addBreak c gap)) text cursor
        | (none, cursor) =>
          let next := rest.head?
          if gap.isSome &&
              (!inFlow && cursor.mark.column < indent || cursor.atDocumentMarker || c = '#') then
            .ok (endPlain gap text cursor)
          else if inFlow && c = ':' && next.any (fun d => isFlowMark d || d = '?') then
            .error ⟨.misplacedColon, cursor.mark, some (.plainScalar, start)⟩
          else if c = ':' && next.all isSpacing || inFlow && isFlowMark c then
            .ok (endPlain gap text cursor)
          else
            readPlainFrom inFlow indent start bound none (c :: (Gap.fold gap ++ text))
              cursor.advance

/-- Read a plain scalar. -/
def readPlain (inFlow : Bool) (indent : Int) (cursor : Cursor) : Except Fault ReadScalar :=
  readPlainFrom inFlow indent cursor.mark cursor.unread none [] cursor

/-- The character with a code point, if there is one. -/
def charOfCode? (code : Nat) : Option Char :=
  if h : code.isValidChar then some (Char.ofNatAux code h) else none

/-- What stands behind a backslash. -/
inductive EscapeCode where
  | char (c : Char)
  /-- The number of hexadecimal digits that follow. -/
  | digits (count : Nat)

/-- The meaning of a character behind a backslash. -/
def escapeCode? : Char → Option EscapeCode
  | '0' => some (.char '\x00')
  | 'a' => some (.char '\x07')
  | 'b' => some (.char '\x08')
  | 't' => some (.char '\t')
  | '\t' => some (.char '\t')
  | 'n' => some (.char '\n')
  | 'v' => some (.char '\x0b')
  | 'f' => some (.char '\x0c')
  | 'r' => some (.char '\r')
  | 'e' => some (.char '\x1b')
  | ' ' => some (.char ' ')
  | '"' => some (.char '"')
  | '/' => some (.char '/')
  | '\\' => some (.char '\\')
  | 'N' => some (.char '\u0085')
  | '_' => some (.char '\u00a0')
  | 'L' => some (.char '\u2028')
  | 'P' => some (.char '\u2029')
  | 'x' => some (.digits 2)
  | 'u' => some (.digits 4)
  | 'U' => some (.digits 8)
  | _ => none

/-- Read an escape sequence from its backslash on. -/
def readEscape (start : Mark) (cursor : Cursor) : Except Fault (Char × Cursor) :=
  let context := some (Activity.escape, start)
  match (cursor.unread.drop 1).head?.bind escapeCode? with
  | none => .error ⟨.unknownEscape, cursor.mark, context⟩
  | some (.char c) => .ok (c, cursor.advance 2)
  | some (.digits count) =>
    let cursor := cursor.advance 2
    let digits := cursor.unread.take count
    if digits.length < count then .error ⟨.missingDigit, cursor.mark, context⟩
    else
      match Text.toNat? 16 digits with
      | none => .error ⟨.missingDigit, cursor.mark, context⟩
      | some code =>
        match charOfCode? code with
        | none => .error ⟨.badCodePoint, cursor.mark, context⟩
        | some c => .ok (c, cursor.advance count)

/-- Read on in a quoted scalar; `quote` is the character that ends it. In single quotes two quotes
stand for one, in double quotes a backslash starts an escape sequence. A text as long as the unread
one bounds the number of steps. -/
def readQuotedFrom (quote : Char) (start : Mark) :
    Text → Option Gap → List Char → Cursor → Except Fault ReadScalar
  | [], _, _, cursor => .error ⟨.endOfText, cursor.mark, some (.quotedScalar, start)⟩
  | _ :: bound, gap, text, cursor =>
    match cursor.unread with
    | [] => .error ⟨.endOfText, cursor.mark, some (.quotedScalar, start)⟩
    | c :: rest =>
      if isBlank c then
        readQuotedFrom quote start bound (some (Gap.addBlank c gap)) text cursor.advance
      else
        match cursor.passBreak with
        | (some c, cursor) =>
          readQuotedFrom quote start bound (some (Gap.addBreak c gap)) text cursor
        | (none, cursor) =>
          let text := Gap.fold gap ++ text
          if cursor.atDocumentMarker then
            .error ⟨.documentMarker, cursor.mark, some (.quotedScalar, start)⟩
          else if c = quote then
            if quote = '\'' && rest.head? = some quote then
              readQuotedFrom quote start bound none (quote :: text) (cursor.advance 2)
            else .ok ⟨text.reverse, cursor.advance, false⟩
          else if c = '\\' && quote = '"' then
            match cursor.advance.passBreak with
            | (some _, cursor) =>
              readQuotedFrom quote start bound (some (.lines none [])) text cursor
            | (none, _) =>
              match readEscape start cursor with
              | .error fault => .error fault
              | .ok (c, cursor) => readQuotedFrom quote start bound none (c :: text) cursor
          else readQuotedFrom quote start bound none (c :: text) cursor.advance

/-- Read a quoted scalar from its first quote on. -/
def readQuoted (quote : Char) (cursor : Cursor) : Except Fault ReadScalar :=
  readQuotedFrom quote cursor.mark cursor.unread none [] cursor.advance

/-! ### Block scalars -/

/-- What happens to the line breaks at the end of a block scalar. -/
inductive Chomping where
  | strip
  | clip
  | keep
deriving DecidableEq

/-- The sign of a chomping, if there is one at the cursor. -/
def readChomping (cursor : Cursor) : Option Chomping × Cursor :=
  match cursor.peek? with
  | some '+' => (some .keep, cursor.advance)
  | some '-' => (some .strip, cursor.advance)
  | _ => (none, cursor)

/-- The number of columns that a block scalar is indented by, if it is given at the cursor. -/
def readIndent (start : Mark) (cursor : Cursor) : Except Fault (Option Nat × Cursor) :=
  match cursor.peek? with
  | some c =>
    if c = '0' then .error ⟨.zeroIndent, cursor.mark, some (.blockScalar, start)⟩
    else if c.isDigit then .ok (some (c.toNat - '0'.toNat), cursor.advance)
    else .ok (none, cursor)
  | none => .ok (none, cursor)

/-- Read the header of a block scalar behind its first character: a chomping and an indentation, in
either order. -/
def readHeader (start : Mark) (cursor : Cursor) :
    Except Fault (Chomping × Option Nat × Cursor) := do
  let (chomping, cursor) := readChomping cursor
  let (indent, cursor) ← readIndent start cursor
  match chomping with
  | some chomping => return (chomping, indent, cursor)
  | none =>
    let (chomping, cursor) := if indent.isSome then readChomping cursor else (none, cursor)
    return (chomping.getD .clip, indent, cursor)

/-- Read blank lines and the indentation of the next line; an `indent` of zero is not known yet.
`breaks` holds the line breaks, the last one first, `deepest` the largest column seen, and a text as
long as the unread one bounds the number of lines. -/
def readBreaks (start : Mark) (indent : Nat) :
    Text → Nat → List Char → Cursor → Except Fault (Nat × List Char × Cursor)
  | [], deepest, breaks, cursor => .ok (max deepest cursor.mark.column, breaks, cursor)
  | _ :: bound, deepest, breaks, cursor =>
    let spaces := cursor.unread.takeWhile (· = ' ')
    let cursor := cursor.advance <|
      if indent = 0 then spaces.length else min spaces.length (indent - cursor.mark.column)
    let deepest := max deepest cursor.mark.column
    if (indent = 0 || cursor.mark.column < indent) && cursor.peek? = some '\t' then
      .error ⟨.tabIndent, cursor.mark, some (.blockScalar, start)⟩
    else
      match cursor.passBreak with
      | (some c, cursor) => readBreaks start indent bound deepest (c :: breaks) cursor
      | (none, cursor) => .ok (deepest, breaks, cursor)

/-- The lines of a block scalar that were read. All runs have their last character first. -/
structure BlockDraft where
  text : List Char := []
  /-- The break of the last line. -/
  lineBreak : Option Char := none
  /-- The breaks of the blank lines behind it. -/
  blankLines : List Char := []
  /-- Whether the last line started with a blank. -/
  startsBlank : Bool := false

/-- The lines with one more. Without `keepsBreaks` a single break between two lines that do not
start with a blank becomes a space. -/
def BlockDraft.push (draft : BlockDraft) (keepsBreaks : Bool) (line : Text)
    (lineBreak : Option Char) : BlockDraft :=
  let startsBlank := line.head?.any isBlank
  let joint :=
    if !keepsBreaks && draft.lineBreak = some '\n' && !draft.startsBlank && !startsBlank then
      if draft.blankLines.isEmpty then [' '] else []
    else draft.lineBreak.toList
  { text := line.reverse ++ (draft.blankLines ++ (joint ++ draft.text))
    lineBreak := lineBreak
    blankLines := []
    startsBlank := startsBlank }

/-- The text of all lines. -/
def BlockDraft.finish (draft : BlockDraft) (chomping : Chomping) : Text :=
  let ending := if chomping = .strip then [] else draft.lineBreak.toList
  let blankLines := if chomping = .keep then draft.blankLines else []
  (blankLines ++ (ending ++ draft.text)).reverse

/-- Read the lines of a block scalar that stand at column `indent`; a text as long as the unread one
bounds their number. -/
def readLines (keepsBreaks : Bool) (start : Mark) (indent : Nat) :
    Text → BlockDraft → Cursor → Except Fault (BlockDraft × Cursor)
  | [], draft, cursor => .ok (draft, cursor)
  | _ :: bound, draft, cursor =>
    if cursor.mark.column ≠ indent || cursor.atEnd then .ok (draft, cursor)
    else
      let (line, cursor) := cursor.takeWhile fun c => !isBreak c
      let (lineBreak, cursor) := cursor.passBreak
      let draft := draft.push keepsBreaks line lineBreak
      match readBreaks start indent cursor.unread 0 [] cursor with
      | .error fault => .error fault
      | .ok (_, breaks, cursor) =>
        readLines keepsBreaks start indent bound { draft with blankLines := breaks } cursor

/-- Read a block scalar from its first character on; `parent` is the column of the block around it,
or negative. -/
def readBlock (keepsBreaks : Bool) (parent : Int) (cursor : Cursor) :
    Except Fault ReadScalar := do
  let start := cursor.mark
  let (chomping, indent?, cursor) ← readHeader start cursor.advance
  let cursor := cursor.skipComment
  if !cursor.atLineEnd then
    throw ⟨.missingCommentOrBreak, cursor.mark, some (.blockScalar, start)⟩
  let cursor := cursor.passBreak.2
  let given := match indent? with
    | some indent => (max parent 0).toNat + indent
    | none => 0
  let (deepest, breaks, cursor) ← readBreaks start given cursor.unread 0 [] cursor
  let indent := if given = 0 then max (max deepest (parent + 1).toNat) 1 else given
  let (draft, cursor) ← readLines keepsBreaks start indent cursor.unread { blankLines := breaks }
    cursor
  return ⟨draft.finish chomping, cursor, false⟩

end SiteWeave.Yaml
