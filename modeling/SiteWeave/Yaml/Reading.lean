import SiteWeave.Yaml.Document
import SiteWeave.Json.Basic

/-!
# Reading values from YAML documents

A document is read piece by piece. An alias is followed to the node of its anchor; the number of
aliases that are followed is bounded, and so is the depth of nesting.

## Main definitions

* `Yaml.NodeReader`: a function from the unread pieces to a result and the pieces behind it.
* `Yaml.NodeReader.text`, `Yaml.NodeReader.texts`: a text and a list of texts.
* `Yaml.NodeReader.run`: read a whole text, which has to be a single document.
-/

namespace SiteWeave.Yaml

/-- What a reader has left: the unread pieces and the number of aliases followed. -/
structure Unread where
  pieces : List Piece
  jumps : Nat := 0

/-- A reader takes a document and what is left of it to a result and the rest. -/
abbrev NodeReader (α : Type) := ReaderT Document (StateT Unread (Except DocumentError)) α

namespace NodeReader

variable {α : Type}

/-- The next piece, which stays unread. -/
def peek : NodeReader Piece := do
  match (← get).pieces with
  | piece :: _ => return piece
  | [] => throw ((← read).error.getD .noNode)

/-- Read the next piece. -/
def next : NodeReader Piece := do
  let piece ← peek
  modify fun unread => { unread with pieces := unread.pieces.drop 1 }
  return piece

/-- Read a node in place of an alias to it. -/
def jump (number : Nat) (node : NodeReader α) : NodeReader α := do
  let document ← read
  let unread ← get
  if 100 * document.pieces.length ≤ unread.jumps then throw .tooManyAliases
  set { unread with pieces := document.anchored number, jumps := unread.jumps + 1 }
  let result ← node
  modify fun after => { after with pieces := unread.pieces }
  return result

/-- Refuse a piece of content where something else is expected. -/
def mismatch (path : String) (piece : Piece) (expected : String) : NodeReader α := do
  let wrong (found : Found) : NodeReader α :=
    throw (.shape (.wrongType found expected) path piece.mark)
  match piece.content with
  | .scalar tag text isPlain =>
    match scalarMeaning tag text isPlain with
    | .ok found => wrong found
    | .error error => throw (.shape error path piece.mark)
  | .sequenceStart _ | .sequenceEnd => wrong .sequence
  | .mappingStart _ | .mappingEnd => wrong .map
  | .reference _ | .nothing => throw .noNode

/-- Follow an alias at the front to what `node` reads; other pieces are read by `node` itself. -/
def throughAlias (node : Piece → NodeReader α) : NodeReader α := do
  let piece ← next
  match piece.content with
  | .reference number => jump number (next >>= node)
  | _ => node piece

/-- Whether a piece stands for an empty collection: nothing, or a plain scalar without text. -/
def isEmptyCollection (piece : Piece) : Bool :=
  match piece.content with
  | .nothing => true
  | .scalar _ text isPlain => isPlain && text.isEmpty
  | _ => false

/-- Read a scalar as its text, whatever it means, with its place. -/
def placedText (path expected : String) : NodeReader (String × Mark) :=
  throughAlias fun piece =>
    match piece.content with
    | .scalar _ text _ => return (text, piece.mark)
    | _ => mismatch path piece expected

/-- Read a scalar as its text, whatever it means. -/
def text (path : String) : NodeReader String :=
  Prod.fst <$> placedText path "a string"

/-- Read texts up to the end of their sequence; `fuel` bounds their number. -/
def textsFrom (path : String) : Nat → Nat → NodeReader (List String)
  | 0, _ => return []
  | fuel + 1, index => do
    match (← peek).content with
    | .sequenceEnd => next *> pure []
    | _ =>
      let item ← text (path ++ "[" ++ toString index ++ "]")
      return item :: (← textsFrom path fuel (index + 1))

/-- Read a sequence of texts. -/
def texts (path : String) : NodeReader (List String) :=
  throughAlias fun piece => do
    match piece.content with
    | .sequenceStart _ => textsFrom path ((← get).pieces.length + 1) 0
    | _ => if isEmptyCollection piece then return [] else mismatch path piece "a sequence"

/-- Read a whole text, which has to be a single document. -/
def run (reader : NodeReader α) (source : Text) : Except DocumentError α :=
  let document := Document.ofText source
  match StateT.run (ReaderT.run reader document) { pieces := document.pieces } with
  | .error error => .error error
  | .ok (value, _) =>
    match document.error with
    | some error => .error error
    | none => if document.hasNext then .error .severalDocuments else .ok value

end NodeReader

end SiteWeave.Yaml
