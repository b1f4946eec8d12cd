import SiteWeave.Yaml.Plain

/-!
# YAML documents

A document is the content of its nodes in reading order. An anchor gives a node a number, and an
alias stands for the node with the number of its anchor. The numbers count the names of anchors, so
that an anchor that takes up an earlier name shares its number with the next new name.

## Main definitions

* `Yaml.Content`, `Yaml.Document`: documents.
* `Yaml.DocumentError`: why a document is refused, with its message.
* `Yaml.Document.ofText`: the first document of a text, and whether another one follows.
-/

namespace SiteWeave.Yaml

/-- The content of a document, piece by piece. -/
inductive Content where
  /-- A text without any document. -/
  | nothing
  /-- An alias for the node with a number. -/
  | reference (number : Nat)
  | scalar (tag : Option Tag) (text : String) (isPlain : Bool)
  | sequenceStart (tag : Option Tag)
  | sequenceEnd
  | mappingStart (tag : Option Tag)
  | mappingEnd
deriving DecidableEq, Repr

/-- A piece of content and its place. -/
structure Piece where
  content : Content
  mark : Mark
deriving DecidableEq, Repr

/-- Why a document is refused. -/
inductive DocumentError where
  | malformed (fault : Fault)
  | unknownAnchor (mark : Mark)
  /-- The document ends where a node is expected. -/
  | noNode
  | severalDocuments
  | tooDeep (mark : Mark)
  | tooManyAliases
  /-- A value of the wrong shape, with its path from the root and its place. -/
  | shape (error : ShapeError) (path : String) (mark : Mark)
  | emptyTag
  | repeatedKey

namespace DocumentError

/-- The words of YAML for what was found. -/
def wording : Wording := ⟨"unit value", ⟨none, none⟩⟩

/-- A message with its place, unless that is the start of the text. -/
def placed (message : String) (mark : Mark) : String :=
  if mark.isStart then message else message ++ " at " ++ mark.describe

/-- The message of an error. -/
def message : DocumentError → String
  | malformed fault => fault.message
  | unknownAnchor mark => placed "unknown anchor" mark
  | noNode => "EOF while parsing a value"
  | severalDocuments =>
    "deserializing from YAML containing more than one document is not supported"
  | tooDeep mark => placed "recursion limit exceeded" mark
  | tooManyAliases => "repetition limit exceeded"
  | shape error path mark =>
    let message := error.message wording
    placed (if path.isEmpty then message else path ++ ": " ++ message) mark
  | emptyTag => "empty YAML tag is not allowed"
  | repeatedKey => "duplicate entry in YAML map"

end DocumentError

/-- A document, up to its end or to its first error. -/
structure Document where
  pieces : List Piece := []
  /-- The pieces from an anchor's node on, by the number of the anchor. -/
  anchors : List (Nat × List Piece) := []
  error : Option DocumentError := none
  /-- Whether another document follows. -/
  hasNext : Bool := false

namespace Document

/-- The names of anchors with their numbers, and the numbers with the positions of their nodes. -/
structure AnchorTable where
  names : List (String × Nat) := []
  positions : List (Nat × Nat) := []

/-- The list with the value of a key set. -/
def setValue {α β : Type} [DecidableEq α] (key : α) (value : β) (list : List (α × β)) :
    List (α × β) :=
  (key, value) :: list.filter fun known => known.1 ≠ key

/-- The value of a key in a list. -/
def value? {α β : Type} [DecidableEq α] (key : α) (list : List (α × β)) : Option β :=
  (list.find? fun known => known.1 = key).map Prod.snd

/-- The table with the anchor of a node at a position. -/
def AnchorTable.add (table : AnchorTable) (name : String) (position : Nat) : AnchorTable :=
  let number := table.names.length
  ⟨setValue name number table.names, setValue number position table.positions⟩

/-- The state of reading a document: its pieces, the last one first, and its anchors. -/
structure Draft where
  pieces : List Piece := []
  table : AnchorTable := {}

/-- The draft with one more piece, whose node may have an anchor. -/
def Draft.push (draft : Draft) (anchor : Option String) (piece : Piece) : Draft :=
  match anchor with
  | none => { draft with pieces := piece :: draft.pieces }
  | some name => ⟨piece :: draft.pieces, draft.table.add name draft.pieces.length⟩

/-- The document of a draft. -/
def Draft.finish (draft : Draft) (error : Option DocumentError) (hasNext : Bool) : Document :=
  let pieces := draft.pieces.reverse
  { pieces := pieces
    anchors := draft.table.positions.map fun (number, position) => (number, pieces.drop position)
    error := error
    hasNext := hasNext }

/-- Whether events hold a further document or end in a fault before the end of the text. -/
def hasDocument (fault : Option Fault) : List PlacedEvent → Bool
  | [] => fault.isSome
  | event :: _ => event.event ≠ .streamEnd

/-- Read the events of a document. -/
def readFrom (fault : Option Fault) (draft : Draft) : List PlacedEvent → Document
  | [] => draft.finish (fault.map .malformed) false
  | ⟨event, mark⟩ :: events =>
    match event with
    | .documentStart => readFrom fault draft events
    | .documentEnd => draft.finish none (hasDocument fault events)
    | .streamEnd =>
      (if draft.pieces.isEmpty then draft.push none ⟨.nothing, mark⟩ else draft).finish none false
    | .reference name =>
      match value? name draft.table.names with
      | some number => readFrom fault (draft.push none ⟨.reference number, mark⟩) events
      | none => draft.finish (some (.unknownAnchor mark)) false
    | .scalar properties text isPlain =>
      readFrom fault
        (draft.push properties.anchor ⟨.scalar properties.tag text isPlain, mark⟩) events
    | .sequenceStart properties =>
      readFrom fault (draft.push properties.anchor ⟨.sequenceStart properties.tag, mark⟩) events
    | .sequenceEnd => readFrom fault (draft.push none ⟨.sequenceEnd, mark⟩) events
    | .mappingStart properties =>
      readFrom fault (draft.push properties.anchor ⟨.mappingStart properties.tag, mark⟩) events
    | .mappingEnd => readFrom fault (draft.push none ⟨.mappingEnd, mark⟩) events

/-- The first document of a text. -/
def ofText (text : Text) : Document :=
  let stream := EventStream.ofText text
  readFrom stream.fault {} stream.events

/-- The pieces from the node of an anchor on. -/
def anchored (document : Document) (number : Nat) : List Piece :=
  (value? number document.anchors).getD []

end Document

end SiteWeave.Yaml
