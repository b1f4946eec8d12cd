import SiteWeave.Yaml.TokenStream

/-!
# The events of a YAML text

Tokens are read as nested nodes: scalars, sequences and mappings, each with its start and its end as
an event. Nodes that are left out are empty plain scalars.

## Main definitions

* `Yaml.Event`: the events.
* `Yaml.Expected`: what may come next.
* `Yaml.EventReader.step`: the next event.
* `Yaml.EventStream`, `Yaml.EventStream.ofText`: the events of a text, up to its first fault.
-/

namespace SiteWeave.Yaml

/-- What a node says of itself in front of its content. -/
structure Properties where
  anchor : Option String := none
  tag : Option Tag := none
deriving DecidableEq, Repr

/-- An event of reading a text. -/
inductive Event where
  | documentStart
  | documentEnd
  | streamEnd
  /-- An alias for the node with an anchor. -/
  | reference (name : String)
  | scalar (properties : Properties) (text : String) (isPlain : Bool)
  | sequenceStart (properties : Properties)
  | sequenceEnd
  | mappingStart (properties : Properties)
  | mappingEnd
deriving DecidableEq, Repr

/-- An event and its place. -/
structure PlacedEvent where
  event : Event
  mark : Mark
deriving DecidableEq, Repr

/-- What may come next in a text. -/
inductive Expected where
  /-- A document; the first one may start without a marker. -/
  | document (isFirst : Bool)
  | content
  | documentEnd
  | node
  /-- An item of a block sequence that was opened at a place. -/
  | item (since : Mark)
  /-- An item of a sequence that is not indented more than the mapping around it. -/
  | flatItem
  | blockKey (since : Mark)
  | blockValue (since : Mark)
  | flowItem (since : Mark) (isFirst : Bool)
  /-- The key of a mapping of one pair that stands as an item. -/
  | pairKey (since : Mark)
  | pairValue (since : Mark)
  | pairEnd (since : Mark)
  | flowKey (since : Mark) (isFirst : Bool)
  | flowValue (since : Mark)
  /-- The value of a key that has none. -/
  | noValue (since : Mark)
deriving DecidableEq, Repr

/-- The state of reading events. -/
structure EventReader where
  /-- The tokens that were not read. -/
  tokens : List Token
  /-- The fault behind the last token. -/
  fault : Option Fault
  /-- What may come next, the innermost expectation first. -/
  expected : List Expected
  /-- The short forms of tags in the document. -/
  handles : List (Text × Tag) := []

namespace EventReader

/-- The fault where the tokens end. -/
def endFault (reader : EventReader) : Fault :=
  reader.fault.getD ⟨.endOfText, {}, none⟩

/-- The next token. -/
def peek (reader : EventReader) : Except Fault Token :=
  match reader.tokens with
  | token :: _ => .ok token
  | [] => .error reader.endFault

/-- The reader behind the next token. -/
def skip (reader : EventReader) : EventReader :=
  { reader with tokens := reader.tokens.drop 1 }

/-- The reader with other expectations. -/
def expect (reader : EventReader) (expected : List Expected) : EventReader :=
  { reader with expected := expected }

/-- An event of a reading step. -/
abbrev Step := Except Fault (PlacedEvent × EventReader)

/-- The event of an empty scalar. -/
def emptyScalar (reader : EventReader) (mark : Mark) : Step :=
  .ok (⟨.scalar {} "" true, mark⟩, reader)

/-! ### Properties and nodes -/

/-- The tag that a short form and a suffix make. -/
def resolveTag (reader : EventReader) (handle : Text) (suffix : Tag) : Option Tag :=
  if handle.isEmpty then some suffix
  else (reader.handles.find? fun known => known.1 = handle).map fun known => known.2 ++ suffix

/-- The properties at the front of the tokens, in either order, the place of the tag, and the reader
behind. -/
def readProperties (reader : EventReader) :
    Except Fault (Option String × Option (Text × Tag × Mark) × EventReader) := do
  let first ← reader.peek
  match first.kind with
  | .anchor name =>
    let next ← reader.skip.peek
    match next.kind with
    | .tag handle suffix => return (some name, some (handle, suffix, next.start), reader.skip.skip)
    | _ => return (some name, none, reader.skip)
  | .tag handle suffix =>
    let tag := some (handle, suffix, first.start)
    let next ← reader.skip.peek
    match next.kind with
    | .anchor name => return (some name, tag, reader.skip.skip)
    | _ => return (none, tag, reader.skip)
  | _ => return (none, none, reader)

/-- The tag of a scalar with content, where an exclamation mark alone says nothing. -/
def scalarTag (tag : Option Tag) : Option Tag :=
  tag.filter fun tag => tag ≠ Bytes.ofString "!"

/-- Read a node, or the start of one; `outer` is expected behind it. Block collections may start in
a block only, and a sequence in a mapping need not be indented more than the mapping. -/
def readNode (reader : EventReader) (inBlock inMapping : Bool) (outer : List Expected) : Step := do
  let first ← reader.peek
  let start := first.start
  if let .reference name := first.kind then
    return (⟨.reference name, start⟩, reader.skip.expect outer)
  let (anchor, tag, reader) ← reader.readProperties
  let token ← reader.peek
  let tag ← match tag with
    | none => pure none
    | some (handle, suffix, mark) =>
      match reader.resolveTag handle suffix with
      | some tag => pure (some tag)
      | none => throw ⟨.undefinedHandle, mark, some (.node, start)⟩
  let properties : Properties := ⟨anchor, tag⟩
  let empty : Step :=
    if anchor.isSome || tag.isSome then
      .ok (⟨.scalar properties "" true, start⟩, reader.expect outer)
    else
      .error ⟨.missingNode, token.start, some (if inBlock then .blockNode else .flowNode, start)⟩
  match token.kind with
  | .scalar text isPlain =>
    return (⟨.scalar { properties with tag := scalarTag tag } text isPlain, start⟩,
      reader.skip.expect outer)
  | .flowSequenceStart =>
    return (⟨.sequenceStart properties, start⟩,
      reader.skip.expect (.flowItem token.start true :: outer))
  | .flowMappingStart =>
    return (⟨.mappingStart properties, start⟩,
      reader.skip.expect (.flowKey token.start true :: outer))
  | .item =>
    if inMapping then
      return (⟨.sequenceStart properties, start⟩, reader.expect (.flatItem :: outer))
    else empty
  | .blockSequenceStart =>
    if inBlock then
      return (⟨.sequenceStart properties, start⟩,
        reader.skip.expect (.item token.start :: outer))
    else empty
  | .blockMappingStart =>
    if inBlock then
      return (⟨.mappingStart properties, start⟩,
        reader.skip.expect (.blockKey token.start :: outer))
    else empty
  | _ => empty

/-! ### Documents -/

/-- The short forms of tags that every document has. -/
def standardHandles : List (Text × Tag) :=
  [(['!'], Bytes.ofString "!"), (['!', '!'], Bytes.ofString "tag:yaml.org,2002:")]

/-- The directives at the front of tokens, and the tokens behind them. -/
def readDirectives (hasVersion : Bool) (handles : List (Text × Tag)) :
    List Token → Except Fault (List (Text × Tag) × List Token)
  | [] => .ok (handles, [])
  | token :: tokens =>
    match token.kind with
    | .version major minor =>
      if hasVersion then .error ⟨.repeatedVersion, token.start, none⟩
      else if major = 1 ∧ (minor = 1 ∨ minor = 2) then readDirectives true handles tokens
      else .error ⟨.unknownVersion, token.start, none⟩
    | .tagHandle handle start =>
      if handles.any fun known => known.1 = handle then
        .error ⟨.repeatedHandle, token.start, none⟩
      else readDirectives hasVersion (handles ++ [(handle, start)]) tokens
    | _ => .ok (handles, token :: tokens)

/-- Whether a token ends the content of a document or stands outside of documents. -/
def isOutside : TokenKind → Bool
  | .version _ _ | .tagHandle _ _ | .documentStart | .documentEnd | .streamEnd => true
  | _ => false

/-- Whether a token is the end of a document. -/
def isDocumentEnd (token : Token) : Bool :=
  token.kind = .documentEnd

/-- Read the start of a document, or the end of the text. -/
def readDocumentStart (reader : EventReader) (isFirst : Bool) : Step := do
  let reader :=
    if isFirst then reader else { reader with tokens := reader.tokens.dropWhile isDocumentEnd }
  let token ← reader.peek
  if token.kind = .streamEnd then
    return (⟨.streamEnd, token.start⟩, reader.skip.expect [])
  else if isFirst && !(isOutside token.kind && token.kind ≠ .documentEnd) then
    return (⟨.documentStart, token.start⟩,
      { reader with
        handles := standardHandles
        expected := [.node, .documentEnd, .document false] })
  else
    let (handles, tokens) ← readDirectives false [] reader.tokens
    let reader :=
      { reader with
        tokens := tokens
        handles := handles ++ standardHandles
        expected := [.content, .documentEnd, .document false] }
    let next ← reader.peek
    if next.kind = .documentStart then return (⟨.documentStart, token.start⟩, reader.skip)
    else throw ⟨.missingDocumentStart, next.start, none⟩

/-- Read the end of a document. -/
def readDocumentEnd (reader : EventReader) (outer : List Expected) : Step := do
  let token ← reader.peek
  let reader := if isDocumentEnd token then reader.skip else reader
  return (⟨.documentEnd, token.start⟩, { reader with handles := [], expected := outer })

/-! ### Collections -/

/-- Read the node behind the mark of an item, a key or a value at the front of the tokens, or an
empty scalar if one of the tokens `enders` follows; `next` is expected behind it. -/
def readMarked (reader : EventReader) (inBlock inMapping : Bool) (enders : List TokenKind)
    (next : List Expected) : Step := do
  let mark ← reader.peek
  let token ← reader.skip.peek
  if enders.contains token.kind then
    (reader.skip.expect next).emptyScalar (if inBlock then mark.stop else token.start)
  else reader.skip.readNode inBlock inMapping next

/-- Close a collection with the token at the front. -/
def close (reader : EventReader) (event : Event) (outer : List Expected) : Step := do
  let token ← reader.peek
  return (⟨event, token.start⟩, reader.skip.expect outer)

/-- Read an item of a block sequence, or its end. -/
def readItem (reader : EventReader) (since : Mark) (outer : List Expected) : Step := do
  let token ← reader.peek
  match token.kind with
  | .item => reader.readMarked true false [.item, .blockEnd] (.item since :: outer)
  | .blockEnd => reader.close .sequenceEnd outer
  | _ => throw ⟨.missingItem, token.start, some (.blockSequence, since)⟩

/-- Read an item of a sequence that is not indented, or its end. -/
def readFlatItem (reader : EventReader) (outer : List Expected) : Step := do
  let token ← reader.peek
  match token.kind with
  | .item => reader.readMarked true false [.item, .key, .value, .blockEnd] (.flatItem :: outer)
  | _ => return (⟨.sequenceEnd, token.start⟩, reader.expect outer)

/-- Read a key of a block mapping, or its end. -/
def readBlockKey (reader : EventReader) (since : Mark) (outer : List Expected) : Step := do
  let token ← reader.peek
  match token.kind with
  | .key => reader.readMarked true true [.key, .value, .blockEnd] (.blockValue since :: outer)
  | .blockEnd => reader.close .mappingEnd outer
  | _ => throw ⟨.missingKey, token.start, some (.blockMapping, since)⟩

/-- Read a value of a block mapping. -/
def readBlockValue (reader : EventReader) (since : Mark) (outer : List Expected) : Step := do
  let token ← reader.peek
  match token.kind with
  | .value => reader.readMarked true true [.key, .value, .blockEnd] (.blockKey since :: outer)
  | _ => (reader.expect (.blockKey since :: outer)).emptyScalar token.start

/-- Read the mark between two entries of a flow collection. -/
def readEntry (reader : EventReader) (isFirst : Bool) (fault : Token → Fault) :
    Except Fault EventReader := do
  if isFirst then return reader
  let token ← reader.peek
  match token.kind with
  | .entry => return reader.skip
  | _ => throw (fault token)

/-- Read an item of a flow sequence, or its end. A pair may stand as an item. -/
def readFlowItem (reader : EventReader) (since : Mark) (isFirst : Bool) (outer : List Expected) :
    Step := do
  let token ← reader.peek
  if token.kind = .flowSequenceEnd then reader.close .sequenceEnd outer
  else
    let reader ← reader.readEntry isFirst fun token =>
      ⟨.missingListEnd, token.start, some (.flowSequence, since)⟩
    let token ← reader.peek
    match token.kind with
    | .key => return (⟨.mappingStart {}, token.start⟩, reader.skip.expect (.pairKey since :: outer))
    | .flowSequenceEnd => reader.close .sequenceEnd outer
    | _ => reader.readNode false false (.flowItem since false :: outer)

/-- Read the key of a pair that stands as an item. Where it is left out, the token behind is left
out too. -/
def readPairKey (reader : EventReader) (since : Mark) (outer : List Expected) : Step := do
  let token ← reader.peek
  let next := .pairValue since :: outer
  match token.kind with
  | .value | .entry | .flowSequenceEnd => (reader.skip.expect next).emptyScalar token.stop
  | _ => reader.readNode false false next

/-- Read the value of a pair that stands as an item. -/
def readPairValue (reader : EventReader) (since : Mark) (outer : List Expected) : Step := do
  let token ← reader.peek
  let next := .pairEnd since :: outer
  match token.kind with
  | .value => reader.readMarked false false [.entry, .flowSequenceEnd] next
  | _ => (reader.expect next).emptyScalar token.start

/-- Read a key of a flow mapping, or its end. -/
def readFlowKey (reader : EventReader) (since : Mark) (isFirst : Bool) (outer : List Expected) :
    Step := do
  let token ← reader.peek
  if token.kind = .flowMappingEnd then reader.close .mappingEnd outer
  else
    let reader ← reader.readEntry isFirst fun token =>
      ⟨.missingMapEnd, token.start, some (.flowMapping, since)⟩
    let token ← reader.peek
    match token.kind with
    | .key =>
      reader.readMarked false false [.value, .entry, .flowMappingEnd] (.flowValue since :: outer)
    | .flowMappingEnd => reader.close .mappingEnd outer
    | _ => reader.readNode false false (.noValue since :: outer)

/-- Read a value of a flow mapping. -/
def readFlowValue (reader : EventReader) (since : Mark) (outer : List Expected) : Step := do
  let token ← reader.peek
  let next := .flowKey since false :: outer
  match token.kind with
  | .value => reader.readMarked false false [.entry, .flowMappingEnd] next
  | _ => (reader.expect next).emptyScalar token.start

/-- The next event, and the reader behind it. -/
def step (reader : EventReader) : Step :=
  match reader.expected with
  | [] => .error reader.endFault
  | .document isFirst :: _ => reader.readDocumentStart isFirst
  | .content :: outer => do
    let token ← reader.peek
    if isOutside token.kind then (reader.expect outer).emptyScalar token.start
    else reader.readNode true false outer
  | .documentEnd :: outer => reader.readDocumentEnd outer
  | .node :: outer => reader.readNode true false outer
  | .item since :: outer => reader.readItem since outer
  | .flatItem :: outer => reader.readFlatItem outer
  | .blockKey since :: outer => reader.readBlockKey since outer
  | .blockValue since :: outer => reader.readBlockValue since outer
  | .flowItem since isFirst :: outer => reader.readFlowItem since isFirst outer
  | .pairKey since :: outer => reader.readPairKey since outer
  | .pairValue since :: outer => reader.readPairValue since outer
  | .pairEnd since :: outer => do
    let token ← reader.peek
    return (⟨.mappingEnd, token.start⟩, reader.expect (.flowItem since false :: outer))
  | .flowKey since isFirst :: outer => reader.readFlowKey since isFirst outer
  | .flowValue since :: outer => reader.readFlowValue since outer
  | .noValue since :: outer => do
    let token ← reader.peek
    (reader.expect (.flowKey since false :: outer)).emptyScalar token.start

end EventReader

/-- The events of a text, up to its end or to its first fault. -/
structure EventStream where
  events : List PlacedEvent
  fault : Option Fault := none

namespace EventStream

/-- Read events up to the end of the text; `fuel` bounds their number. -/
def readFrom : Nat → EventReader → EventStream
  | 0, reader => ⟨[], some reader.endFault⟩
  | fuel + 1, reader =>
    match reader.step with
    | .error fault => ⟨[], some fault⟩
    | .ok (event, reader) =>
      if reader.expected.isEmpty then ⟨[event], none⟩
      else
        let stream := readFrom fuel reader
        ⟨event :: stream.events, stream.fault⟩

/-- The events of a text. -/
def ofText (text : Text) : EventStream :=
  let stream := TokenStream.ofText text
  readFrom (4 * stream.tokens.length + 8) ⟨stream.tokens, stream.fault, [.document true], []⟩

end EventStream

end SiteWeave.Yaml
