import SiteWeave.Proofs.Yaml.FlowEvents
import SiteWeave.Proofs.Yaml.JsonTokens

/-!
# The events of JSON values in YAML

The tokens of a JSON value are read as the events of its nodes, by recursion on the value. A key
that is not simple has no mark in front of it, so that the colon behind it is a fault.

## Main definitions

* `Yaml.NodePart`: the parts of nodes that say nothing of themselves in front of their content.
* `JsonText.Value.parts`, `JsonText.Value.hasSimpleKeys`: the parts of a value, and whether all keys
  in it are simple.
* `JsonText.Document.HasEvents`: whether YAML reads a document up to its end.

## Main results

* `JsonText.Value.parses`: a value is read as its parts, or there is a fault.
* `JsonText.Document.events_ofText`: the events of a document.
-/

namespace SiteWeave

namespace Yaml

/-- A part of a node without an anchor and without a tag. -/
inductive NodePart where
  | scalar (text : String) (isPlain : Bool)
  | sequenceStart
  | sequenceEnd
  | mappingStart
  | mappingEnd

/-- The event of a part. -/
def NodePart.event : NodePart → Event
  | scalar text isPlain => .scalar {} text isPlain
  | sequenceStart => .sequenceStart {}
  | sequenceEnd => .sequenceEnd
  | mappingStart => .mappingStart {}
  | mappingEnd => .mappingEnd

end Yaml

namespace JsonText

open Yaml

mutual

/-- The parts of a value. -/
def Value.parts : Value → List NodePart
  | .word word => [.scalar (String.ofList word.text) true]
  | .string letters => [.scalar (String.ofList ((quoted? letters).getD [])) false]
  | .array items _ => .sequenceStart :: (items.parts ++ [.sequenceEnd])
  | .object members _ => .mappingStart :: (members.parts ++ [.mappingEnd])

/-- The parts of items. -/
def Items.parts : Items → List NodePart
  | .nil => []
  | .cons _ value _ items => value.parts ++ items.parts

/-- The parts of members. -/
def Members.parts : Members → List NodePart
  | .nil => []
  | .cons _ key _ _ value _ members =>
    .scalar (String.ofList ((quoted? key).getD [])) false :: (value.parts ++ members.parts)

end

mutual

/-- Whether all keys in a value are simple. -/
def Value.hasSimpleKeys : Value → Bool
  | .word _ => true
  | .string _ => true
  | .array items _ => items.hasSimpleKeys
  | .object members _ => members.hasSimpleKeys

/-- Whether all keys in items are simple. -/
def Items.hasSimpleKeys : Items → Bool
  | .nil => true
  | .cons _ value _ items => value.hasSimpleKeys && items.hasSimpleKeys

/-- Whether all keys in members are simple. -/
def Members.hasSimpleKeys : Members → Bool
  | .nil => true
  | .cons _ key gap _ value _ members =>
    isSimpleKey key gap && (value.hasSimpleKeys && members.hasSimpleKeys)

end

end JsonText

namespace JsonText

open Yaml EventReader

theorem Value.kinds_eq_cons (value : Value) :
    ∃ kind kinds, value.kinds = kind :: kinds ∧ startsNode kind := by
  cases value with
  | word word => exact ⟨_, [], by rw [kinds], rfl⟩
  | string letters => exact ⟨_, [], by rw [kinds], rfl⟩
  | array items inner => exact ⟨_, _, by rw [kinds], rfl⟩
  | object members inner => exact ⟨_, _, by rw [kinds], rfl⟩

mutual

/-- **A value is read as its parts** where a node is read, or there is a fault. -/
theorem Value.parses (value : Value) {start reader : EventReader} {inBlock inMapping : Bool}
    {outer : List Expected} {rest : List TokenKind} (houter : outer ≠ [])
    (hstep : start.step = reader.readNode inBlock inMapping outer)
    (htokens : reader.tokens.map Token.kind = value.kinds ++ rest) :
    start.Parses value.hasSimpleKeys (value.parts.map NodePart.event) rest outer := by
  cases value with
  | word word =>
    rw [Value.kinds] at htokens
    obtain ⟨mark, hnode⟩ := readNode_scalar inBlock inMapping outer htokens
    rw [Value.hasSimpleKeys, Value.parts]
    exact .step (hstep.trans hnode) houter (.refl (map_kind_skip htokens) rfl)
  | string letters =>
    rw [Value.kinds] at htokens
    obtain ⟨mark, hnode⟩ := readNode_scalar inBlock inMapping outer htokens
    rw [Value.hasSimpleKeys, Value.parts]
    exact .step (hstep.trans hnode) houter (.refl (map_kind_skip htokens) rfl)
  | array items inner =>
    rw [Value.kinds, List.cons_append, List.append_assoc] at htokens
    obtain ⟨mark, since, hnode⟩ :=
      readNode_flowSequenceStart inBlock inMapping outer htokens
    rw [Value.hasSimpleKeys, Value.parts, List.map_cons]
    refine .step (hstep.trans hnode) (List.cons_ne_nil _ _) ?_
    exact items.parses houter rfl (map_kind_skip htokens)
  | object members inner =>
    rw [Value.kinds, List.cons_append, List.append_assoc] at htokens
    obtain ⟨mark, since, hnode⟩ :=
      readNode_flowMappingStart inBlock inMapping outer htokens
    rw [Value.hasSimpleKeys, Value.parts, List.map_cons]
    refine .step (hstep.trans hnode) (List.cons_ne_nil _ _) ?_
    exact members.parses houter rfl (map_kind_skip htokens)

/-- Items are read as their parts up to the end of their list. -/
theorem Items.parses (items : Items) {reader : EventReader} {since : Mark} {isFirst : Bool}
    {outer : List Expected} {rest : List TokenKind} (houter : outer ≠ [])
    (hexpected : reader.expected = .flowItem since isFirst :: outer)
    (htokens : reader.tokens.map Token.kind =
      items.kinds isFirst ++ ([.flowSequenceEnd] ++ rest)) :
    reader.Parses items.hasSimpleKeys
      ((items.parts ++ [NodePart.sequenceEnd]).map NodePart.event) rest outer := by
  cases items with
  | nil =>
    rw [Items.kinds] at htokens
    obtain ⟨mark, hstep⟩ := step_flowItem_end hexpected htokens
    rw [Items.hasSimpleKeys, Items.parts]
    exact .step hstep houter (.refl (map_kind_skip htokens) rfl)
  | cons front value behind items =>
    obtain ⟨kind, kinds, hkinds, hkind⟩ := value.kinds_eq_cons
    simp only [Items.kinds, List.append_assoc] at htokens
    rw [hkinds, List.cons_append] at htokens
    obtain ⟨node, hnode, hstep⟩ := step_flowItem hkind hexpected htokens
    rw [Items.hasSimpleKeys, Items.parts, List.append_assoc, List.map_append]
    rw [← List.cons_append, ← hkinds] at hnode
    exact (value.parses (List.cons_ne_nil _ _) hstep hnode).trans fun next htokens hexpected =>
      items.parses houter hexpected htokens

/-- Members are read as their parts up to the end of their object. -/
theorem Members.parses (members : Members) {reader : EventReader} {since : Mark} {isFirst : Bool}
    {outer : List Expected} {rest : List TokenKind} (houter : outer ≠ [])
    (hexpected : reader.expected = .flowKey since isFirst :: outer)
    (htokens : reader.tokens.map Token.kind =
      members.kinds isFirst ++ ([.flowMappingEnd] ++ rest)) :
    reader.Parses members.hasSimpleKeys
      ((members.parts ++ [NodePart.mappingEnd]).map NodePart.event) rest outer := by
  cases members with
  | nil =>
    rw [Members.kinds] at htokens
    obtain ⟨mark, hstep⟩ := step_flowKey_end hexpected htokens
    rw [Members.hasSimpleKeys, Members.parts]
    exact .step hstep houter (.refl (map_kind_skip htokens) rfl)
  | cons front key gap between value behind members =>
    obtain ⟨kind, kinds, hkinds, hkind⟩ := value.kinds_eq_cons
    simp only [Members.kinds, List.append_assoc] at htokens
    rw [hkinds, List.cons_append] at htokens
    rw [Members.hasSimpleKeys, Members.parts, List.cons_append, List.map_cons, List.append_assoc,
      List.map_append]
    cases hsimple : isSimpleKey key gap with
    | false =>
      rw [hsimple] at htokens
      obtain ⟨node, hnode, hstep⟩ := step_flowKey_unmarked rfl hexpected htokens
      obtain ⟨mark, hkey⟩ := readNode_scalar false false (.noValue since :: outer) hnode
      exact (Emits.step (hstep.trans hkey) (List.cons_ne_nil _ _) (.refl _)).fails
        (fails_noValue rfl (map_kind_skip hnode))
    | true =>
      rw [hsimple] at htokens
      obtain ⟨node, hnode, hstep⟩ := step_flowKey rfl hexpected htokens
      obtain ⟨mark, hkey⟩ := readNode_scalar false false (.flowValue since :: outer) hnode
      refine .step (hstep.trans hkey) (List.cons_ne_nil _ _) ?_
      have hbehind : (node.skip.expect (.flowValue since :: outer)).tokens.map Token.kind = _ :=
        map_kind_skip hnode
      obtain ⟨colon, hcolon, hvalue⟩ := step_flowValue hkind rfl hbehind
      change _ = (kind :: kinds) ++ _ at hcolon
      rw [← hkinds] at hcolon
      exact (value.parses (List.cons_ne_nil _ _) hvalue hcolon).trans fun next htokens hexpected =>
        members.parses houter hexpected htokens

end

mutual

/-- Each part of a value has a token of its own. -/
theorem Value.length_parts_le (value : Value) : value.parts.length ≤ value.kinds.length := by
  cases value with
  | word word => rw [Value.parts, Value.kinds]; exact le_rfl
  | string letters => rw [Value.parts, Value.kinds]; exact le_rfl
  | array items inner =>
    have h := items.length_parts_le true
    simp only [Value.parts, Value.kinds, List.length_cons, List.length_append, List.length_nil]
    omega
  | object members inner =>
    have h := members.length_parts_le true
    simp only [Value.parts, Value.kinds, List.length_cons, List.length_append, List.length_nil]
    omega

/-- Each part of items has a token of its own. -/
theorem Items.length_parts_le (items : Items) (isFirst : Bool) :
    items.parts.length ≤ (items.kinds isFirst).length := by
  cases items with
  | nil => exact Nat.zero_le _
  | cons front value behind items =>
    have hvalue := value.length_parts_le
    have hitems := items.length_parts_le false
    simp only [Items.parts, Items.kinds, List.length_append]
    omega

/-- Each part of members has a token of its own. -/
theorem Members.length_parts_le (members : Members) (isFirst : Bool) :
    members.parts.length ≤ (members.kinds isFirst).length := by
  cases members with
  | nil => exact Nat.zero_le _
  | cons front key gap between value behind members =>
    have hvalue := value.length_parts_le
    have hmembers := members.length_parts_le false
    simp only [Members.parts, Members.kinds, List.length_append, List.length_cons]
    omega

end

/-- The object of a document. -/
def Document.object (document : Document) : Value :=
  .object document.members document.inner

/-- Whether YAML reads a document up to its end: it has tokens, and its keys are simple. -/
structure Document.HasEvents (document : Document) : Prop where
  hasTokens : document.HasTokens
  hasSimpleKeys : document.members.hasSimpleKeys

/-- The text starts with a document whose content is a node. -/
theorem step_documentStart {reader : EventReader} {kind : TokenKind} {kinds : List TokenKind}
    (hkind : startsNode kind) (hexpected : reader.expected = [.document true])
    (h : reader.tokens.map Token.kind = kind :: kinds) :
    ∃ mark, reader.step = .ok (⟨.documentStart, mark⟩,
      { reader with
        handles := standardHandles
        expected := [.node, .documentEnd, .document false] }) := by
  obtain ⟨token, htoken, rfl⟩ := peek_eq h
  have hend : token.kind ≠ .streamEnd := ne_of_startsNode hkind rfl
  have houtside : isOutside token.kind = false := by
    cases hkind' : token.kind <;> simp_all [startsNode, isOutside]
  refine ⟨token.start, ?_⟩
  rw [step, hexpected]
  simp [readDocumentStart, htoken, hend, houtside, bind, Except.bind, pure, Except.pure]

/-- Behind the content of the only document, the text ends. -/
theorem readFrom_documentEnd {reader : EventReader}
    (hexpected : reader.expected = [.documentEnd, .document false])
    (h : reader.tokens.map Token.kind = [.streamEnd]) (fuel : Nat) :
    ∃ placed, placed.map PlacedEvent.event = [.documentEnd, .streamEnd] ∧
      EventStream.readFrom (fuel + 2) reader = ⟨placed, none⟩ := by
  obtain ⟨token, tokens, htokens, hkind, hnil⟩ := exists_cons_of_map_kind h
  cases List.map_eq_nil_iff.1 hnil
  refine ⟨[⟨.documentEnd, token.start⟩, ⟨.streamEnd, token.start⟩], rfl, ?_⟩
  simp [EventStream.readFrom, step, hexpected, readDocumentEnd, readDocumentStart, isDocumentEnd,
    peek, htokens, hkind, expect, bind, Except.bind, pure, Except.pure]

/-- The object of a document is read where a document may start. -/
theorem Document.parses (document : Document) {reader : EventReader}
    (hexpected : reader.expected = [.document true])
    (htokens : reader.tokens.map Token.kind = document.object.kinds ++ [.streamEnd]) :
    reader.Parses document.members.hasSimpleKeys
      (.documentStart :: document.object.parts.map NodePart.event) [.streamEnd]
      [.documentEnd, .document false] := by
  obtain ⟨kind, kinds, hkinds, hkind⟩ := document.object.kinds_eq_cons
  have hfirst : reader.tokens.map Token.kind = kind :: (kinds ++ [.streamEnd]) := by
    rw [htokens, hkinds, List.cons_append]
  obtain ⟨mark, hstart⟩ := step_documentStart hkind hexpected hfirst
  have hsimple : document.object.hasSimpleKeys = document.members.hasSimpleKeys := by
    rw [object, Value.hasSimpleKeys]
  rw [← hsimple]
  refine .step hstart (List.cons_ne_nil _ _) ?_
  exact document.object.parses (List.cons_ne_nil _ _) rfl htokens

/-- **The events of a document** in YAML are those of its object, or there is a fault. -/
theorem Document.events_ofText (document : Document) :
    (document.HasEvents → (EventStream.ofText document.text).fault = none ∧
      (EventStream.ofText document.text).events.map PlacedEvent.event =
        .documentStart :: (document.object.parts.map NodePart.event ++
          [.documentEnd, .streamEnd])) ∧
    (¬ document.HasEvents → (EventStream.ofText document.text).fault.isSome) := by
  obtain ⟨hread, hbroken⟩ := document.isReadAs_ofText
  by_cases htokens : document.HasTokens
  · obtain ⟨-, hkinds⟩ := hread htokens
    have hparses : EventReader.Parses ⟨_, (TokenStream.ofText document.text).fault,
      [.document true], []⟩ _ _ _ _ := document.parses rfl hkinds
    cases hsimple : document.members.hasSimpleKeys with
    | true =>
      refine ⟨fun _ => ?_, fun h => absurd ⟨htokens, hsimple⟩ h⟩
      rw [hsimple] at hparses
      obtain ⟨last, hemits, hlast, hexpected⟩ := hparses
      have hlength := document.object.length_parts_le
      have hfuel : ∃ fuel, 4 * (TokenStream.ofText document.text).tokens.length + 8 =
          (Event.documentStart :: document.object.parts.map NodePart.event).length +
            (fuel + 2) := by
        have hcount := congrArg List.length hkinds
        rw [List.length_map, List.length_append] at hcount
        refine ⟨4 * (TokenStream.ofText document.text).tokens.length + 5 -
          document.object.parts.length, ?_⟩
        rw [object] at hlength ⊢
        rw [List.length_cons, List.length_map]
        omega
      obtain ⟨fuel, hfuel⟩ := hfuel
      obtain ⟨ends, hends, hlast⟩ := readFrom_documentEnd hexpected hlast fuel
      obtain ⟨placed, hplaced, hstream⟩ := hemits.readFrom_eq (fuel + 2)
      rw [EventStream.ofText]
      rw [hfuel, hstream, hlast, List.map_append, hplaced, hends]
      exact ⟨rfl, rfl⟩
    | false =>
      rw [hsimple] at hparses
      refine ⟨fun h => absurd h.hasSimpleKeys (by simp [hsimple]), fun _ => hparses _⟩
  · refine ⟨fun h' => absurd h'.hasTokens htokens, fun _ => ?_⟩
    exact EventStream.isSome_fault ⟨true, List.suffix_refl _⟩ (hbroken htokens).noEnd _

end JsonText

end SiteWeave
