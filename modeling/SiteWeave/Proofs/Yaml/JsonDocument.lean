import SiteWeave.Proofs.Settings.Record
import SiteWeave.Proofs.Yaml.JsonEvents

/-!
# Documents of JSON values in YAML

The pieces of a document are the parts of its object, and texts and lists of texts are read from
the pieces of the values that hold them. A word is read as the text that is written.

## Main definitions

* `JsonText.Value.yamlText?`: the text that a value stands for in YAML.
* `Yaml.Unread.Holds`: the parts that a reader has left.

## Main results

* `JsonText.Document.pieces_ofText`: the pieces of a document.
* `Yaml.NodeReader.text_yields`, `Yaml.NodeReader.texts_yields`: reading texts.
-/

namespace SiteWeave

open JsonText

namespace Yaml

/-- The content of a part. -/
def NodePart.content : NodePart → Content
  | scalar text isPlain => .scalar none text isPlain
  | sequenceStart => .sequenceStart none
  | sequenceEnd => .sequenceEnd
  | mappingStart => .mappingStart none
  | mappingEnd => .mappingEnd

namespace Document

/-- The events of parts become pieces with their content. -/
theorem readFrom_parts {fault : Option Fault} {placed more : List PlacedEvent}
    {parts : List NodePart} (draft : Draft)
    (h : placed.map PlacedEvent.event = parts.map NodePart.event) :
    ∃ pieces : List Piece, pieces.map Piece.content = parts.map NodePart.content ∧
      readFrom fault draft (placed ++ more) =
        readFrom fault { draft with pieces := pieces.reverse ++ draft.pieces } more := by
  induction parts generalizing placed draft with
  | nil =>
    cases List.map_eq_nil_iff.1 h
    exact ⟨[], rfl, rfl⟩
  | cons part parts ih =>
    obtain ⟨⟨event, mark⟩, placed, rfl, rfl, hplaced⟩ := List.map_eq_cons_iff.1 h
    obtain ⟨pieces, hpieces, hread⟩ := ih (draft.push none ⟨part.content, mark⟩) hplaced
    refine ⟨⟨part.content, mark⟩ :: pieces, by rw [List.map_cons, hpieces, List.map_cons], ?_⟩
    rw [List.reverse_cons, List.append_assoc]
    cases part <;> exact hread

end Document

end Yaml

namespace JsonText

open Yaml

/-- **The pieces of a document** in YAML are the parts of its object. -/
theorem Document.pieces_ofText {document : JsonText.Document} (h : document.HasEvents) :
    (Yaml.Document.ofText document.text).pieces.map Piece.content =
        document.object.parts.map NodePart.content ∧
      (Yaml.Document.ofText document.text).error = none ∧
      (Yaml.Document.ofText document.text).hasNext = false := by
  obtain ⟨hfault, hevents⟩ := document.events_ofText.1 h
  obtain ⟨⟨_, mark⟩, placed, hstream, rfl, hplaced⟩ := List.map_eq_cons_iff.1 hevents
  obtain ⟨parts, ends, rfl, hparts, hends⟩ := List.map_eq_append_iff.1 hplaced
  obtain ⟨⟨_, _⟩, last, rfl, rfl, hlast⟩ := List.map_eq_cons_iff.1 hends
  obtain ⟨⟨_, _⟩, behind, rfl, rfl, hbehind⟩ := List.map_eq_cons_iff.1 hlast
  obtain ⟨pieces, hpieces, hread⟩ := Yaml.Document.readFrom_parts {} hparts
  have hfinish : Yaml.Document.ofText document.text =
      Yaml.Document.Draft.finish ⟨pieces.reverse ++ [], {}⟩ none false := by
    rw [Yaml.Document.ofText, hfault, hstream]
    exact hread.trans (by simp [Yaml.Document.readFrom, Yaml.Document.hasDocument])
  rw [hfinish]
  exact ⟨by rw [← hpieces]; simp [Yaml.Document.Draft.finish], rfl, rfl⟩

end JsonText

namespace JsonText

open Yaml

/-- The text that a value stands for in YAML: a word stands for itself. -/
def Value.yamlText? : Value → Option String
  | word bare => some (String.ofList bare.text)
  | string letters => (quoted? letters).map String.ofList
  | _ => none

end JsonText

namespace Yaml

/-- The parts that a reader has left. -/
def Unread.Holds (unread : Unread) (parts : List NodePart) : Prop :=
  unread.pieces.map Piece.content = parts.map NodePart.content

namespace NodeReader

variable {α β : Type} {document : Document} {unread : Unread} {part : NodePart}
  {parts rest : List NodePart}

theorem bind_apply (x : NodeReader α) (f : α → NodeReader β) :
    (x >>= f) document unread = (x document unread).bind fun run => f run.1 document run.2 := rfl

theorem map_apply (f : α → β) (x : NodeReader α) :
    (f <$> x) document unread = (x document unread).bind fun run => .ok (f run.1, run.2) := rfl

theorem pure_apply (result : α) :
    (pure result : NodeReader α) document unread = .ok (result, unread) := rfl

variable (document) in
/-- The next piece has the content of the next part. -/
theorem peek_eq (h : unread.Holds (part :: parts)) :
    ∃ piece, piece.content = part.content ∧ peek document unread = .ok (piece, unread) := by
  obtain ⟨piece, pieces, hpieces, hcontent, -⟩ := List.map_eq_cons_iff.1 h
  refine ⟨piece, hcontent, ?_⟩
  obtain ⟨_, jumps⟩ := unread
  cases hpieces
  rfl

variable (document) in
theorem next_eq (h : unread.Holds (part :: parts)) :
    ∃ piece left, piece.content = part.content ∧ left.Holds parts ∧
      next document unread = .ok (piece, left) := by
  obtain ⟨piece, pieces, hpieces, hcontent, hleft⟩ := List.map_eq_cons_iff.1 h
  obtain ⟨_, jumps⟩ := unread
  cases hpieces
  exact ⟨piece, ⟨pieces, jumps⟩, hcontent, hleft, rfl⟩

variable (document) in
/-- A part is no alias: it is read itself. -/
theorem throughAlias_eq (h : unread.Holds (part :: parts)) :
    ∃ piece left, piece.content = part.content ∧ left.Holds parts ∧
      ∀ node : Piece → NodeReader α,
        throughAlias node document unread = node piece document left := by
  obtain ⟨piece, left, hcontent, hleft, hnext⟩ := next_eq document h
  refine ⟨piece, left, hcontent, hleft, fun node => ?_⟩
  rw [throughAlias, bind_apply, hnext, Except.bind]
  dsimp only
  rw [hcontent]
  cases part <;> rfl

theorem mismatch_yields (path : String) (piece : Piece) (expected : String)
    (left : Unread → Prop) :
    Yields (mismatch path piece expected document unread : Except DocumentError (α × Unread)) none
      left := by
  unfold mismatch
  dsimp only
  cases piece.content with
  | scalar tag text isPlain =>
    cases h : scalarMeaning tag text isPlain <;> simp only [h] <;> exact .error
  | _ => exact .error

variable (document) in
/-- A scalar is read as its text. -/
theorem placedText_scalar {text : String} {isPlain : Bool} (path expected : String)
    (h : unread.Holds (.scalar text isPlain :: rest)) :
    ∃ mark left, left.Holds rest ∧
      placedText path expected document unread = .ok ((text, mark), left) := by
  obtain ⟨piece, left, hcontent, hleft, hnode⟩ := throughAlias_eq document h
  refine ⟨piece.mark, left, hleft, ?_⟩
  rw [placedText, hnode, hcontent]
  rfl

theorem text_scalar {text : String} {isPlain : Bool} (path : String)
    (h : unread.Holds (.scalar text isPlain :: rest)) :
    Yields (NodeReader.text path document unread) (some text) (·.Holds rest) := by
  obtain ⟨mark, left, hleft, hread⟩ := placedText_scalar document path "a string" h
  rw [NodeReader.text, map_apply, hread]
  exact .ok hleft

/-- The start of a collection is no text. -/
theorem text_yields_none (path : String) (h : unread.Holds (part :: parts))
    (hpart : part = .sequenceStart ∨ part = .mappingStart) (left : Unread → Prop) :
    Yields (NodeReader.text path document unread) none left := by
  obtain ⟨piece, next, hcontent, -, hnode⟩ := throughAlias_eq document h
  rw [NodeReader.text, map_apply, placedText, hnode, hcontent]
  have hnone : Yields ((mismatch path piece "a string" : NodeReader (String × Mark)) document next)
      none left := mismatch_yields path piece _ left
  obtain ⟨error, herror⟩ := hnone
  refine ⟨error, ?_⟩
  rcases hpart with rfl | rfl <;> simp only [NodePart.content, herror] <;> rfl

/-- **A value is read as the text it stands for.** -/
theorem text_yields (path : String) {value : JsonText.Value} (hvalue : value.isReadable)
    (h : unread.Holds (value.parts ++ rest)) :
    Yields (NodeReader.text path document unread) value.yamlText? (·.Holds rest) := by
  cases value with
  | word word =>
    rw [Value.parts] at h
    exact text_scalar path h
  | string letters =>
    rw [Value.isReadable] at hvalue
    rw [Value.parts] at h
    obtain ⟨text, htext⟩ := Option.isSome_iff_exists.1 hvalue
    rw [htext] at h
    rw [Value.yamlText?, htext]
    exact text_scalar path h
  | array items inner =>
    rw [Value.parts] at h
    exact text_yields_none path h (.inl rfl) _
  | object members inner =>
    rw [Value.parts] at h
    exact text_yields_none path h (.inr rfl) _

theorem exists_cons_of_parts (value : JsonText.Value) :
    ∃ part parts, value.parts = part :: parts ∧ part.content ≠ .sequenceEnd := by
  cases value <;> exact ⟨_, _, by rw [Value.parts], by simp [NodePart.content]⟩

variable (document) in
theorem textsFrom_end (path : String) (fuel index : Nat)
    (h : unread.Holds (.sequenceEnd :: rest)) :
    ∃ left, left.Holds rest ∧
      textsFrom path (fuel + 1) index document unread = .ok ([], left) := by
  obtain ⟨piece, hcontent, hpeek⟩ := peek_eq document h
  obtain ⟨last, left, -, hleft, hnext⟩ := next_eq document h
  refine ⟨left, hleft, ?_⟩
  rw [textsFrom, bind_apply, hpeek, Except.bind]
  dsimp only
  rw [hcontent]
  change ((next document unread).bind fun run => .ok ([], run.2)) = _
  rw [hnext]
  rfl

theorem textsFrom_item (path : String) (fuel index : Nat) (h : unread.Holds (part :: parts))
    (hpart : part.content ≠ .sequenceEnd) :
    textsFrom path (fuel + 1) index document unread =
      (NodeReader.text (path ++ "[" ++ toString index ++ "]") document unread).bind fun run =>
        (textsFrom path fuel (index + 1) document run.2).bind fun others =>
          .ok (run.1 :: others.1, others.2) := by
  obtain ⟨piece, hcontent, hpeek⟩ := peek_eq document h
  rw [textsFrom, bind_apply, hpeek, Except.bind]
  dsimp only
  rw [hcontent]
  cases part with
  | sequenceEnd => exact absurd rfl hpart
  | _ => rfl

/-- Items are read as their texts up to the end of their list. -/
theorem textsFrom_yields (path : String) : ∀ (items : Items) (fuel index : Nat) {unread : Unread},
    items.isReadable → items.parts.length < fuel →
    unread.Holds (items.parts ++ .sequenceEnd :: rest) →
    Yields (textsFrom path fuel index document unread) (items.toList.mapM Value.yamlText?)
      (·.Holds rest)
  | .nil, fuel + 1, index, unread, _, _, h => by
    rw [Items.parts, List.nil_append] at h
    obtain ⟨left, hleft, hend⟩ := textsFrom_end document path fuel index h
    rw [hend]
    exact .ok hleft
  | .cons front value behind items, fuel + 1, index, unread, hreadable, hfuel, h => by
    obtain ⟨part, parts, hparts, hpart⟩ := exists_cons_of_parts value
    rw [Items.isReadable, Bool.and_eq_true] at hreadable
    rw [Items.parts, List.append_assoc] at h
    have hlength : items.parts.length < fuel := by
      rw [Items.parts, hparts, List.length_append, List.length_cons] at hfuel
      omega
    rw [textsFrom_item path fuel index (by rwa [hparts] at h) hpart, Items.toList, List.mapM_cons]
    refine (text_yields _ hreadable.1 h).bind fun text left _ hleft => ?_
    refine (textsFrom_yields path items fuel (index + 1) hreadable.2 hlength hleft).bind
      fun texts left _ hleft => ?_
    exact .ok hleft

/-- A text is no list of texts, and neither is the start of a mapping. -/
theorem texts_yields_none (path : String) (h : unread.Holds (part :: parts))
    (hpart : part = .mappingStart ∨ ∃ text isPlain, part = .scalar text isPlain ∧
      (isPlain && text.isEmpty) = false) (left : Unread → Prop) :
    Yields (NodeReader.texts path document unread) none left := by
  obtain ⟨piece, next, hcontent, -, hnode⟩ := throughAlias_eq document h
  rw [NodeReader.texts, hnode]
  have hempty : isEmptyCollection piece = false := by
    rw [isEmptyCollection, hcontent]
    obtain rfl | ⟨text, isPlain, rfl, hempty⟩ := hpart
    · rfl
    · exact hempty
  have hnone : Yields ((mismatch path piece "a sequence" : NodeReader (List String)) document next)
      none left := mismatch_yields path piece _ left
  obtain ⟨error, herror⟩ := hnone
  refine ⟨error, ?_⟩
  obtain rfl | ⟨text, isPlain, rfl, -⟩ := hpart <;>
    simp only [hcontent, NodePart.content, hempty, Bool.false_eq_true, if_false] <;> exact herror

/-- **A value is read as a list of texts if and only if it is one.** -/
theorem texts_yields (path : String) {value : JsonText.Value} (hvalue : value.isReadable)
    (h : unread.Holds (value.parts ++ rest)) :
    Yields (NodeReader.texts path document unread) (Settings.texts? Value.yamlText? value)
      (·.Holds rest) := by
  cases value with
  | word word =>
    obtain ⟨c, text, htext, -⟩ := word.text_eq_cons
    rw [Value.parts] at h
    exact texts_yields_none path h (.inr ⟨_, _, rfl, by simp [htext]⟩) _
  | string letters =>
    rw [Value.parts] at h
    exact texts_yields_none path h (.inr ⟨_, _, rfl, rfl⟩) _
  | object members inner =>
    rw [Value.parts] at h
    exact texts_yields_none path h (.inl rfl) _
  | array items inner =>
    rw [Value.isReadable] at hvalue
    rw [Value.parts, List.cons_append, List.append_assoc] at h
    obtain ⟨piece, left, hcontent, hleft, hnode⟩ := throughAlias_eq document h
    have hlength : items.parts.length < left.pieces.length + 1 := by
      have hlength := congrArg List.length hleft
      simp only [List.length_map, List.length_append] at hlength
      omega
    rw [NodeReader.texts, hnode, hcontent]
    exact textsFrom_yields path items (left.pieces.length + 1) 0 hvalue hlength hleft

/-! ### Whole texts -/

theorem run_of_error {reader : NodeReader α} {source : Text} {error : DocumentError}
    (h : reader (Document.ofText source) ⟨(Document.ofText source).pieces, 0⟩ = .error error) :
    reader.run source = .error error := by
  have hread : StateT.run (ReaderT.run reader (Document.ofText source))
      { pieces := (Document.ofText source).pieces } = .error error := h
  simp only [run, hread]

/-- A text is read if it is a single document without an error. -/
theorem run_of_ok {reader : NodeReader α} {source : Text} {result : α} {left : Unread}
    (h : reader (Document.ofText source) ⟨(Document.ofText source).pieces, 0⟩ = .ok (result, left))
    (herror : (Document.ofText source).error = none)
    (hnext : (Document.ofText source).hasNext = false) : reader.run source = .ok result := by
  have hread : StateT.run (ReaderT.run reader (Document.ofText source))
      { pieces := (Document.ofText source).pieces } = .ok (result, left) := h
  simp [run, hread, herror, hnext]

end NodeReader

end Yaml

end SiteWeave
