import SiteWeave.Yaml.Token

/-!
# The tokens of a YAML text

The structure of a text shows in its indentation: a line that is indented more than the block around
it opens a block, and one that is indented less closes it. That a node is the key of a mapping shows
only at the colon behind it. Until then its place among the tokens is kept as a candidate; the
tokens from the first candidate on are not final.

## Main definitions

* `Yaml.KeyCandidate`: a node that may turn out to be a key.
* `Yaml.ScanState`: the tokens so far, the open blocks and the candidates.
* `Yaml.ScanState.step`: read the next token.
* `Yaml.TokenStream`, `Yaml.TokenStream.ofText`: the final tokens of a text, up to its first fault.
-/

namespace SiteWeave.Yaml

/-- A node that may turn out to be a key. -/
structure KeyCandidate where
  /-- The number of tokens in front of the node. -/
  position : Nat
  /-- Whether the node stands where only a key can stand. -/
  required : Bool
  mark : Mark
deriving DecidableEq, Repr

/-- The longest simple key. -/
def KeyCandidate.maxLength : Nat := 1024

/-- Whether a candidate is a key no longer: keys do not go on over a line and are not too long. -/
def KeyCandidate.isStale (candidate : KeyCandidate) (mark : Mark) : Bool :=
  candidate.mark.line < mark.line || candidate.mark.index + maxLength < mark.index

/-- The state of reading tokens. -/
structure ScanState where
  cursor : Cursor
  /-- The tokens, the last one first. -/
  tokens : List Token := []
  /-- The columns of the open blocks, the innermost first. -/
  indents : List Int := []
  /-- The candidates of the open flow collections, the innermost first, and of the block around. -/
  candidates : List (Option KeyCandidate) := [none]
  /-- Whether a key may start here. -/
  keyAllowed : Bool := true

namespace ScanState

/-- Whether a flow collection is open. -/
def inFlow (state : ScanState) : Bool :=
  match state.candidates with
  | _ :: _ :: _ => true
  | _ => false

/-- The column of the innermost block, or a negative number outside of blocks. -/
def indent (state : ScanState) : Int :=
  state.indents.head?.getD (-1)

/-- The state with one more token, which ends at the cursor. -/
def push (state : ScanState) (kind : TokenKind) (start : Mark) (cursor : Cursor) : ScanState :=
  { state with cursor := cursor, tokens := ⟨kind, start, cursor.mark⟩ :: state.tokens }

/-- The state with one more token, in front of the last `behind` ones. -/
def insert (state : ScanState) (behind : Nat) (kind : TokenKind) (mark : Mark) : ScanState :=
  { state with
    tokens := state.tokens.take behind ++ ⟨kind, mark, mark⟩ :: state.tokens.drop behind }

/-- The fault of a candidate that had to be a key. -/
def keyFault (state : ScanState) (candidate : KeyCandidate) : Fault :=
  ⟨.missingColon, state.cursor.mark, some (.simpleKey, candidate.mark)⟩

/-- Give up the candidates that are keys no longer. -/
def dropStale (state : ScanState) : Except Fault ScanState :=
  let isStale (candidate : KeyCandidate) : Bool := candidate.isStale state.cursor.mark
  let stale := state.candidates.filterMap fun candidate => candidate.filter isStale
  if stale.isEmpty then .ok state
  else
    match stale.find? KeyCandidate.required with
    | some candidate => .error (state.keyFault candidate)
    | none =>
      .ok { state with
        candidates := state.candidates.map fun c => c.filter fun candidate => !isStale candidate }

/-- Give up the innermost candidate. -/
def dropCandidate (state : ScanState) : Except Fault ScanState :=
  match state.candidates with
  | some candidate :: rest =>
    if candidate.required then .error (state.keyFault candidate)
    else .ok { state with candidates := none :: rest }
  | _ => .ok state

/-- Make the next token a candidate, if a key may start here. -/
def addCandidate (state : ScanState) : Except Fault ScanState :=
  if !state.keyAllowed then .ok state
  else do
    let candidate : KeyCandidate :=
      { position := state.tokens.length
        required := !state.inFlow && state.indent = state.cursor.mark.column
        mark := state.cursor.mark }
    let state ← state.dropCandidate
    return { state with candidates := some candidate :: state.candidates.drop 1 }

/-- Open a block at a column that is deeper than the innermost one; its first token stands in front
of the last `behind` ones. -/
def openBlock (state : ScanState) (column behind : Nat) (kind : TokenKind) (mark : Mark) :
    ScanState :=
  if !state.inFlow && state.indent < column then
    { state.insert behind kind mark with indents := (column : Int) :: state.indents }
  else state

/-- The blocks that stay open at a column, and a token for each that is closed. -/
def closeBlocks (column : Int) (mark : Mark) :
    List Int → List Token → List Int × List Token
  | indent :: indents, tokens =>
    if column < indent then closeBlocks column mark indents (⟨.blockEnd, mark, mark⟩ :: tokens)
    else (indent :: indents, tokens)
  | [], tokens => ([], tokens)

/-- Close the blocks that are deeper than a column. -/
def unindent (state : ScanState) (column : Int) : ScanState :=
  if state.inFlow then state
  else
    let (indents, tokens) :=
      closeBlocks column state.cursor.mark state.indents state.tokens
    { state with indents := indents, tokens := tokens }

/-- Skip blanks, comments and line breaks. Tabs are blanks only where no key may start. A text as
long as the unread one bounds the number of lines. -/
def skipSpacing : Text → ScanState → ScanState
  | [], state => state
  | _ :: bound, state =>
    let cursor := state.cursor.skipWhile fun c =>
      c = ' ' || (state.inFlow || !state.keyAllowed) && c = '\t'
    let cursor :=
      if cursor.peek? = some '#' then cursor.skipWhile fun c => !isBreak c else cursor
    match cursor.passBreak with
    | (some _, cursor) =>
      skipSpacing bound
        { state with cursor := cursor, keyAllowed := state.keyAllowed || !state.inFlow }
    | (none, cursor) => { state with cursor := cursor }

/-- Skip a byte order mark at the start of the text. -/
def skipOrderMark (state : ScanState) : ScanState :=
  if state.cursor.mark.index = 0 && state.cursor.peek? = some '\ufeff' then
    { state with cursor := state.cursor.advance }
  else state

/-! ### Tokens -/

/-- Read a token of one character. -/
def readIndicator (state : ScanState) (kind : TokenKind) : ScanState :=
  state.push kind state.cursor.mark state.cursor.advance

/-- Close all blocks at the end of the text, which ends its last line. -/
def readEnd (state : ScanState) : Except Fault ScanState := do
  let mark := state.cursor.mark
  let mark : Mark := if mark.column = 0 then mark else ⟨mark.index, mark.line + 1, 0⟩
  let state := { state with cursor := { state.cursor with mark := mark } }
  let state ← (state.unindent (-1)).dropCandidate
  return { state with keyAllowed := false }.push .streamEnd mark state.cursor

/-- Read a directive. -/
def readDirectiveToken (state : ScanState) : Except Fault ScanState := do
  let state ← (state.unindent (-1)).dropCandidate
  let (kind, cursor) ← readDirective state.cursor
  return { state with keyAllowed := false }.push kind state.cursor.mark cursor

/-- Read the start or the end of a document. -/
def readDocumentMarker (state : ScanState) (kind : TokenKind) : Except Fault ScanState := do
  let state ← (state.unindent (-1)).dropCandidate
  return { state with keyAllowed := false }.push kind state.cursor.mark (state.cursor.advance 3)

/-- Open a flow collection. -/
def readFlowStart (state : ScanState) (kind : TokenKind) : Except Fault ScanState := do
  let state ← state.addCandidate
  return { state with candidates := none :: state.candidates, keyAllowed := true }.readIndicator
    kind

/-- Close a flow collection. -/
def readFlowEnd (state : ScanState) (kind : TokenKind) : Except Fault ScanState := do
  let state ← state.dropCandidate
  let candidates := if state.inFlow then state.candidates.drop 1 else state.candidates
  return { state with candidates := candidates, keyAllowed := false }.readIndicator kind

/-- Read the mark between the entries of a flow collection. -/
def readEntry (state : ScanState) : Except Fault ScanState := do
  let state ← state.dropCandidate
  return { state with keyAllowed := true }.readIndicator .entry

/-- Open a block of a kind at the cursor; outside of flow collections this takes a place where a key
may start. -/
def startBlock (state : ScanState) (kind : TokenKind) (problem : Problem) :
    Except Fault ScanState :=
  if state.inFlow then .ok state
  else if !state.keyAllowed then .error ⟨problem, state.cursor.mark, none⟩
  else .ok (state.openBlock state.cursor.mark.column 0 kind state.cursor.mark)

/-- Read the mark in front of an item. -/
def readItem (state : ScanState) : Except Fault ScanState := do
  let state ← state.startBlock .blockSequenceStart .misplacedItem
  let state ← state.dropCandidate
  return { state with keyAllowed := true }.readIndicator .item

/-- Read the mark in front of a key. -/
def readKey (state : ScanState) : Except Fault ScanState := do
  let state ← state.startBlock .blockMappingStart .misplacedKey
  let state ← state.dropCandidate
  return { state with keyAllowed := !state.inFlow }.readIndicator .key

/-- Read the colon in front of a value. A candidate turns out to be its key. -/
def readValue (state : ScanState) : Except Fault ScanState := do
  match state.candidates with
  | some candidate :: rest =>
    let behind := state.tokens.length - candidate.position
    let state := state.insert behind .key candidate.mark
    let state := state.openBlock candidate.mark.column (behind + 1) .blockMappingStart
      candidate.mark
    return { state with candidates := none :: rest, keyAllowed := false }.readIndicator .value
  | _ =>
    let state ← state.startBlock .blockMappingStart .misplacedValue
    return { state with keyAllowed := !state.inFlow }.readIndicator .value

/-- Read a token that a node may start with. -/
def readNodeToken (state : ScanState) (read : Cursor → Except Fault (TokenKind × Cursor)) :
    Except Fault ScanState := do
  let state ← state.addCandidate
  let (kind, cursor) ← read state.cursor
  return { state with keyAllowed := false }.push kind state.cursor.mark cursor

/-- Read a plain or a quoted scalar. -/
def readScalar (state : ScanState) (isPlain : Bool) (read : Cursor → Except Fault ReadScalar) :
    Except Fault ScanState := do
  let state ← state.addCandidate
  let scalar ← read state.cursor
  return { state with keyAllowed := scalar.passedLines }.push
    (.scalar (String.ofList scalar.text) isPlain) state.cursor.mark scalar.cursor

/-- Read a block scalar. -/
def readBlockScalar (state : ScanState) (keepsBreaks : Bool) : Except Fault ScanState := do
  let state ← state.dropCandidate
  let scalar ← readBlock keepsBreaks state.indent state.cursor
  return { state with keyAllowed := true }.push
    (.scalar (String.ofList scalar.text) false) state.cursor.mark scalar.cursor

/-- Whether a plain scalar starts with a character in front of another. -/
def startsPlain (inFlow : Bool) (c : Char) (next : Option Char) : Bool :=
  !(isSpacing c || "-?:,[]\x7b\x7d#&*!|>'\"%@\x60".toList.contains c) ||
    c = '-' && !next.any isBlank ||
    !inFlow && (c = '?' || c = ':') && !next.all isSpacing

/-- Read the token at the cursor. -/
def readToken (state : ScanState) : Except Fault ScanState :=
  let cursor := state.cursor
  match cursor.unread with
  | [] => state.readEnd
  | c :: rest =>
    let next := rest.head?
    let inFlow := state.inFlow
    if cursor.mark.column = 0 && c = '%' then state.readDirectiveToken
    else if cursor.atMarker '-' then state.readDocumentMarker .documentStart
    else if cursor.atMarker '.' then state.readDocumentMarker .documentEnd
    else if c = '[' then state.readFlowStart .flowSequenceStart
    else if c = '{' then state.readFlowStart .flowMappingStart
    else if c = ']' then state.readFlowEnd .flowSequenceEnd
    else if c = '}' then state.readFlowEnd .flowMappingEnd
    else if c = ',' then state.readEntry
    else if c = '-' && next.all isSpacing then state.readItem
    else if c = '?' && (inFlow || next.all isSpacing) then state.readKey
    else if c = ':' && (inFlow || next.all isSpacing) then state.readValue
    else if c = '*' then
      state.readNodeToken fun cursor => do
        let (name, cursor) ← readName .reference cursor
        return (.reference name, cursor)
    else if c = '&' then
      state.readNodeToken fun cursor => do
        let (name, cursor) ← readName .anchor cursor
        return (.anchor name, cursor)
    else if c = '!' then state.readNodeToken (readTag inFlow)
    else if c = '|' && !inFlow then state.readBlockScalar true
    else if c = '>' && !inFlow then state.readBlockScalar false
    else if c = '\'' || c = '"' then state.readScalar false (readQuoted c)
    else if startsPlain inFlow c next then
      state.readScalar true (readPlain inFlow (state.indent + 1))
    else .error ⟨.noToken, cursor.mark, some (.nextToken, cursor.mark)⟩

/-- Skip to the next token and read it. -/
def step (state : ScanState) : Except Fault ScanState := do
  let state := state.skipOrderMark
  let state := skipSpacing state.cursor.unread state
  let state ← state.dropStale
  (state.unindent state.cursor.mark.column).readToken

/-- The tokens in front of the first candidate. -/
def final (state : ScanState) : List Token :=
  let tokens := state.tokens.reverse
  match (state.candidates.filterMap fun c => c.map KeyCandidate.position).min? with
  | some position => tokens.take position
  | none => tokens

end ScanState

/-- The final tokens of a text, up to its end or to its first fault. -/
structure TokenStream where
  tokens : List Token
  fault : Option Fault := none

namespace TokenStream

/-- Read tokens up to the end of the text; `fuel` bounds their number. -/
def readFrom : Nat → ScanState → TokenStream
  | 0, state => ⟨state.final, none⟩
  | fuel + 1, state =>
    match state.dropStale with
    | .error fault => ⟨state.final, some fault⟩
    | .ok state =>
      match state.tokens with
      | ⟨.streamEnd, _, _⟩ :: _ => ⟨state.tokens.reverse, none⟩
      | _ =>
        match state.step with
        | .error fault => ⟨state.final, some fault⟩
        | .ok next => readFrom fuel next

/-- Whether a character may stand in a text. -/
def isAllowed (c : Char) : Bool :=
  c = '\t' || c = '\n' || c = '\r' || ' ' ≤ c && c ≤ '~' || c = '\u0085' ||
    '\u00a0' ≤ c && c ≠ '\ufffe' && c ≠ '\uffff'

/-- The tokens of a text. A text with a control character has none. -/
def ofText (text : Text) : TokenStream :=
  if text.all isAllowed then readFrom (text.length + 2) { cursor := ⟨text, {}⟩ }
  else ⟨[], some ⟨.controlCharacter, {}, none⟩⟩

end TokenStream

end SiteWeave.Yaml
