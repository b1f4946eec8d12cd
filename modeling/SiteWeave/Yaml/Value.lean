import SiteWeave.Yaml.Reading

/-!
# YAML values

Any document can be read as a value that says what its nodes mean. A text is a value if it is a
single document whose mappings have each key once, whose integers fit 64 bits, and whose nesting is
bounded.

## Main definitions

* `Yaml.Value`, `Yaml.Value.same`: values, and when two of them are one key.
* `Yaml.NodeReader.value`: the value of a node.
* `Yaml.isValue`: whether a text is a value.
-/

namespace SiteWeave.Yaml

/-- What a node means. -/
inductive Value where
  | nothing
  | boolean (value : Bool)
  | integer (value : Int)
  | floating (value : Float)
  | text (value : String)
  | sequence (items : List Value)
  | mapping (entries : List (Value × Value))
  | tagged (tag : String) (value : Value)

instance : Inhabited Value := ⟨.nothing⟩

namespace Value

mutual

/-- Whether two values are equal; the order of the entries of a mapping does not matter. -/
def same : Value → Value → Bool
  | nothing, nothing => true
  | boolean a, boolean b => a = b
  | integer a, integer b => a = b
  | floating a, floating b => a == b || a.isNaN && b.isNaN
  | text a, text b => a = b
  | sequence a, sequence b => sameItems a b
  | mapping a, mapping b => a.length = b.length && isWithin a b
  | tagged s a, tagged t b => s = t && same a b
  | _, _ => false

/-- Whether two lists have equal items. -/
def sameItems : List Value → List Value → Bool
  | [], [] => true
  | a :: items, b :: others => same a b && sameItems items others
  | _, _ => false

/-- Whether each entry of the first list is among the second. -/
def isWithin : List (Value × Value) → List (Value × Value) → Bool
  | [], _ => true
  | (key, value) :: entries, others =>
    others.any (fun other => same key other.1 && same value other.2) && isWithin entries others

end

end Value

/-- The local tag of a piece, without its exclamation mark. -/
def Piece.localTag? (piece : Piece) : Option String :=
  let ofTag (tag : Option Tag) : Option String :=
    match tag with
    | some (0x21 :: name) => Bytes.toString? name
    | _ => none
  match piece.content with
  | .scalar tag _ _ => ofTag tag
  | .sequenceStart tag => ofTag tag
  | .mappingStart tag => ofTag tag
  | _ => none

namespace NodeReader

/-- The value of a scalar. -/
def scalarValue (piece : Piece) (tag : Option Tag) (text : String) (isPlain : Bool) :
    NodeReader Value :=
  match scalarMeaning tag text isPlain with
  | .error error => throw (.shape error "" piece.mark)
  | .ok .nothing => return .nothing
  | .ok (.boolean value) => return .boolean value
  | .ok (.integer value) => return .integer value
  | .ok (.floating value) => return .floating value
  | .ok (.text value) => return .text value
  | .ok found => throw (.shape (.wrongType found "any YAML value") "" piece.mark)

/-- Read values up to the end of their sequence; `fuel` bounds their number. -/
def itemsFrom (value : NodeReader Value) : Nat → NodeReader (List Value)
  | 0 => return []
  | fuel + 1 => do
    match (← peek).content with
    | .sequenceEnd => next *> pure []
    | _ =>
      let item ← value
      return item :: (← itemsFrom value fuel)

/-- Read entries up to the end of their mapping; `fuel` bounds their number. -/
def entriesFrom (value : NodeReader Value) :
    Nat → List (Value × Value) → NodeReader (List (Value × Value))
  | 0, entries => return entries.reverse
  | fuel + 1, entries => do
    match (← peek).content with
    | .mappingEnd => next *> pure entries.reverse
    | _ =>
      let key ← value
      if entries.any fun entry => key.same entry.1 then throw .repeatedKey
      let item ← value
      entriesFrom value fuel ((key, item) :: entries)

/-- The value of a node with the nodes in it read by `inner`; a local tag is told apart first. -/
def valueWith (inner : Option (NodeReader Value)) : NodeReader Value :=
  throughAlias fun piece => do
    let tag := piece.localTag?
    let content : NodeReader Value :=
      match piece.content, inner with
      | .scalar ownTag text isPlain, _ =>
        scalarValue piece (if tag.isSome then none else ownTag) text isPlain
      | .sequenceStart _, some inner => do
        return .sequence (← itemsFrom inner ((← get).pieces.length + 1))
      | .mappingStart _, some inner => do
        return .mapping (← entriesFrom inner ((← get).pieces.length + 1) [])
      | .nothing, _ => return .nothing
      | _, _ => throw (.tooDeep piece.mark)
    match tag with
    | none => content
    | some tag => if tag.isEmpty then throw .emptyTag else return .tagged tag (← content)

/-- The value of a node; `depth` bounds the nesting of collections. -/
def value : Nat → NodeReader Value
  | 0 => valueWith none
  | depth + 1 => valueWith (some (value depth))

end NodeReader

/-- The depth that bounds the nesting of collections. -/
def maxDepth : Nat := 128

/-- The value of a text. -/
def Value.ofText (text : Text) : Except DocumentError Value :=
  NodeReader.run (NodeReader.value maxDepth) text

/-- Whether a text is a value. -/
def isValue (text : Text) : Bool :=
  match Value.ofText text with
  | .ok _ => true
  | .error _ => false

end SiteWeave.Yaml
