import SiteWeave.Proofs.Yaml.EventFaults

/-!
# Events of flow collections in YAML

A run of reading steps gives events one by one, whatever is expected behind it, until it comes to a
fault. In a flow collection one step reads a node, its start, or the end of the collection; a node
without a mark in front of it is a key without a value, and a colon behind such a key is a fault.

## Main definitions

* `Yaml.EventReader.Emits`: reading steps with their events.
* `Yaml.EventReader.Fails`: readers that come to a fault.
* `Yaml.EventReader.Parses`: either of the two.

## Main results

* `Yaml.EventReader.step_flowItem`, `Yaml.EventReader.step_flowKey`,
  `Yaml.EventReader.step_flowValue`: the steps in flow collections.
* `Yaml.EventReader.fails_noValue`: a colon behind a key without a value is a fault.
-/

namespace SiteWeave.Yaml

namespace EventReader

variable {reader start next last : EventReader} {outer : List Expected} {events more : List Event}
  {kinds rest : List TokenKind} {isRead : Bool}

/-! ### Runs -/

/-- Reading steps inside of a text with their events. -/
inductive Emits : EventReader → List Event → EventReader → Prop
  | refl (reader : EventReader) : Emits reader [] reader
  | step {reader next last : EventReader} {event : PlacedEvent} {events : List Event}
      (hstep : reader.step = .ok (event, next)) (hnext : next.expected ≠ [])
      (h : Emits next events last) : Emits reader (event.event :: events) last

theorem Emits.trans (h : start.Emits events next) (hnext : next.Emits more last) :
    start.Emits (events ++ more) last := by
  induction h with
  | refl => exact hnext
  | step hstep hexpected _ ih => exact .step hstep hexpected (ih hnext)

/-- Whether a reader comes to a fault, however many events it may read. -/
def Fails (reader : EventReader) : Prop :=
  ∀ fuel, (EventStream.readFrom fuel reader).fault.isSome

theorem Fails.of_step_eq_error {fault : Fault} (h : reader.step = .error fault) : reader.Fails := by
  rintro (_ | fuel)
  · rfl
  · simp [EventStream.readFrom, h]

theorem Emits.fails (h : start.Emits events next) (hnext : next.Fails) : start.Fails := by
  induction h with
  | refl => exact hnext
  | step hstep hexpected _ ih =>
    rintro (_ | fuel)
    · rfl
    · simpa [EventStream.readFrom, hstep, hexpected] using ih hnext fuel

/-- The events of a run stand in front of those behind it. -/
theorem Emits.readFrom_eq (h : start.Emits events next) (fuel : Nat) :
    ∃ placed, placed.map PlacedEvent.event = events ∧
      EventStream.readFrom (events.length + fuel) start =
        ⟨placed ++ (EventStream.readFrom fuel next).events,
          (EventStream.readFrom fuel next).fault⟩ := by
  induction h with
  | refl => exact ⟨[], rfl, by simp⟩
  | @step reader _ _ event events hstep hexpected _ ih =>
    obtain ⟨placed, rfl, hread⟩ := ih
    refine ⟨event :: placed, rfl, ?_⟩
    rw [List.length_cons, Nat.add_right_comm]
    rw [List.length_map] at hread ⊢
    simp [EventStream.readFrom, hstep, hexpected, hread]

/-- A reader that reads events and leaves tokens and expectations, or comes to a fault. -/
def Parses (reader : EventReader) (isRead : Bool) (events : List Event) (rest : List TokenKind)
    (outer : List Expected) : Prop :=
  if isRead then
    ∃ next, reader.Emits events next ∧ next.tokens.map Token.kind = rest ∧ next.expected = outer
  else reader.Fails

theorem Parses.refl (htokens : reader.tokens.map Token.kind = rest)
    (hexpected : reader.expected = outer) : reader.Parses true [] rest outer :=
  ⟨reader, .refl reader, htokens, hexpected⟩

theorem Emits.parses (h : start.Emits events next) (hnext : next.Parses isRead more rest outer) :
    start.Parses isRead (events ++ more) rest outer := by
  cases isRead with
  | true =>
    obtain ⟨last, hlast, hrest⟩ := hnext
    exact ⟨last, h.trans hlast, hrest⟩
  | false => exact h.fails hnext

theorem Parses.step {event : PlacedEvent} (hstep : reader.step = .ok (event, next))
    (hexpected : next.expected ≠ []) (h : next.Parses isRead events rest outer) :
    reader.Parses isRead (event.event :: events) rest outer :=
  (Emits.step hstep hexpected (.refl next)).parses h

theorem Parses.trans {isRead' : Bool} {rest' : List TokenKind} {outer' : List Expected}
    (h : start.Parses isRead events rest outer)
    (hnext : ∀ next : EventReader, next.tokens.map Token.kind = rest → next.expected = outer →
      next.Parses isRead' more rest' outer') :
    start.Parses (isRead && isRead') (events ++ more) rest' outer' := by
  cases isRead with
  | true =>
    obtain ⟨next, hemits, htokens, hexpected⟩ := h
    exact hemits.parses (hnext next htokens hexpected)
  | false => exact h

/-! ### Steps in flow collections -/

/-- Whether a node starts with a token, without properties. -/
def startsNode : TokenKind → Bool
  | .scalar _ _ | .flowSequenceStart | .flowMappingStart => true
  | _ => false

theorem ne_of_startsNode {kind other : TokenKind} (h : startsNode kind)
    (hother : startsNode other = false) : kind ≠ other := by
  rintro rfl
  exact Bool.false_ne_true (hother.symm.trans h)

theorem exists_cons_of_map_kind {kind : TokenKind}
    (h : reader.tokens.map Token.kind = kind :: kinds) :
    ∃ token tokens, reader.tokens = token :: tokens ∧ token.kind = kind ∧
      tokens.map Token.kind = kinds :=
  List.map_eq_cons_iff.1 h

theorem readNode_scalar {text : String} {isPlain : Bool} (inBlock inMapping : Bool)
    (outer : List Expected)
    (h : reader.tokens.map Token.kind = .scalar text isPlain :: kinds) :
    ∃ mark, reader.readNode inBlock inMapping outer =
      .ok (⟨.scalar {} text isPlain, mark⟩, reader.skip.expect outer) := by
  obtain ⟨token, tokens, htokens, hkind, -⟩ := exists_cons_of_map_kind h
  exact ⟨token.start, by simp [readNode, readProperties, peek, htokens, hkind, scalarTag, bind,
    Except.bind, pure, Except.pure]⟩

theorem readNode_flowSequenceStart (inBlock inMapping : Bool) (outer : List Expected)
    (h : reader.tokens.map Token.kind = .flowSequenceStart :: kinds) :
    ∃ mark since, reader.readNode inBlock inMapping outer =
      .ok (⟨.sequenceStart {}, mark⟩, reader.skip.expect (.flowItem since true :: outer)) := by
  obtain ⟨token, tokens, htokens, hkind, -⟩ := exists_cons_of_map_kind h
  exact ⟨token.start, token.start, by simp [readNode, readProperties, peek, htokens, hkind, bind,
    Except.bind, pure, Except.pure]⟩

theorem readNode_flowMappingStart (inBlock inMapping : Bool) (outer : List Expected)
    (h : reader.tokens.map Token.kind = .flowMappingStart :: kinds) :
    ∃ mark since, reader.readNode inBlock inMapping outer =
      .ok (⟨.mappingStart {}, mark⟩, reader.skip.expect (.flowKey since true :: outer)) := by
  obtain ⟨token, tokens, htokens, hkind, -⟩ := exists_cons_of_map_kind h
  exact ⟨token.start, token.start, by simp [readNode, readProperties, peek, htokens, hkind, bind,
    Except.bind, pure, Except.pure]⟩

theorem map_kind_skip {kind : TokenKind} (h : reader.tokens.map Token.kind = kind :: kinds) :
    reader.skip.tokens.map Token.kind = kinds := by
  rw [skip, List.map_drop, h, List.drop_one, List.tail_cons]

theorem peek_eq {kind : TokenKind} (h : reader.tokens.map Token.kind = kind :: kinds) :
    ∃ token, reader.peek = .ok token ∧ token.kind = kind := by
  obtain ⟨token, tokens, htokens, hkind, -⟩ := exists_cons_of_map_kind h
  exact ⟨token, by rw [peek, htokens], hkind⟩

/-- The tokens of a comma in front of all entries but the first one. -/
def separator (isFirst : Bool) : List TokenKind :=
  if isFirst then [] else [.entry]

/-- A comma is read in front of all entries but the first one. -/
theorem readEntry_eq {isFirst : Bool} (fault : Token → Fault)
    (h : reader.tokens.map Token.kind = separator isFirst ++ kinds) :
    ∃ next, next.tokens.map Token.kind = kinds ∧ reader.readEntry isFirst fault = .ok next := by
  cases isFirst with
  | true => exact ⟨reader, h, rfl⟩
  | false =>
    obtain ⟨token, hpeek, hkind⟩ := peek_eq h
    exact ⟨reader.skip, map_kind_skip h, by simp [readEntry, hpeek, hkind, bind, Except.bind, pure,
      Except.pure]⟩

/-- An entry of a collection starts with no token that ends the collection. -/
theorem peek_separator {isFirst : Bool} {kind : TokenKind}
    (h : reader.tokens.map Token.kind = separator isFirst ++ kind :: kinds) :
    ∃ token, reader.peek = .ok token ∧ (token.kind = .entry ∨ token.kind = kind) := by
  cases isFirst with
  | true => exact (peek_eq h).imp fun _ => .imp_right .inr
  | false => exact (peek_eq h).imp fun _ => .imp_right .inl

/-- The node behind a mark is read. -/
theorem readMarked_eq {mark kind : TokenKind} (hkind : startsNode kind) (enders : List TokenKind)
    (henders : enders.all fun ender => !startsNode ender)
    (h : reader.tokens.map Token.kind = mark :: kind :: kinds) :
    reader.readMarked false false enders outer = reader.skip.readNode false false outer := by
  obtain ⟨first, hfirst, -⟩ := peek_eq h
  obtain ⟨node, hnode, rfl⟩ := peek_eq (map_kind_skip h)
  have hnot : enders.contains node.kind = false := by
    rw [List.contains_eq_mem, decide_eq_false_iff_not]
    intro hmem
    exact absurd (List.all_eq_true.1 henders _ hmem) (by simp [hkind])
  simp only [readMarked, hfirst, hnode, hnot, bind, Except.bind, Bool.false_eq_true, if_false]

/-- An item is a node behind the comma in front of it. -/
theorem step_flowItem {since : Mark} {isFirst : Bool} {kind : TokenKind} (hkind : startsNode kind)
    (hexpected : reader.expected = .flowItem since isFirst :: outer)
    (h : reader.tokens.map Token.kind = separator isFirst ++ kind :: kinds) :
    ∃ next : EventReader, next.tokens.map Token.kind = kind :: kinds ∧
      reader.step = next.readNode false false (.flowItem since false :: outer) := by
  obtain ⟨first, hfirst, hentry⟩ := peek_separator h
  obtain ⟨next, htokens, hnext⟩ := readEntry_eq (fun token =>
    ⟨.missingListEnd, token.start, some (.flowSequence, since)⟩) h
  obtain ⟨token, htoken, rfl⟩ := peek_eq htokens
  have hend : first.kind ≠ .flowSequenceEnd := by
    rcases hentry with hentry | hentry
    · simp [hentry]
    · exact hentry ▸ ne_of_startsNode hkind rfl
  refine ⟨next, htokens, ?_⟩
  rw [step, hexpected]
  simp only [readFlowItem, hfirst, bind, Except.bind, if_neg hend, hnext, htoken]
  split
  · exact absurd ‹_› (ne_of_startsNode hkind rfl)
  · exact absurd ‹_› (ne_of_startsNode hkind rfl)
  · rfl

/-- Behind the comma in front of a member stands the mark of its key, or the key itself. -/
theorem step_flowKey_eq {since : Mark} {isFirst : Bool} {kind : TokenKind}
    (hkind : kind = .key ∨ startsNode kind)
    (hexpected : reader.expected = .flowKey since isFirst :: outer)
    (h : reader.tokens.map Token.kind = separator isFirst ++ kind :: kinds) :
    ∃ next : EventReader, next.tokens.map Token.kind = kind :: kinds ∧
      reader.step =
        if kind = .key then
          next.readMarked false false [.value, .entry, .flowMappingEnd] (.flowValue since :: outer)
        else next.readNode false false (.noValue since :: outer) := by
  obtain ⟨first, hfirst, hentry⟩ := peek_separator h
  obtain ⟨next, htokens, hnext⟩ := readEntry_eq (fun token =>
    ⟨.missingMapEnd, token.start, some (.flowMapping, since)⟩) h
  obtain ⟨token, htoken, rfl⟩ := peek_eq htokens
  have hne : token.kind ≠ .flowMappingEnd := by
    rcases hkind with hkind | hkind
    · simp [hkind]
    · exact ne_of_startsNode hkind rfl
  have hend : first.kind ≠ .flowMappingEnd := by
    rcases hentry with hentry | hentry
    · simp [hentry]
    · exact hentry ▸ hne
  refine ⟨next, htokens, ?_⟩
  rw [step, hexpected]
  simp only [readFlowKey, hfirst, bind, Except.bind, if_neg hend, hnext, htoken]
  split
  · rw [if_pos ‹_›]
  · exact absurd ‹_› hne
  · rw [if_neg ‹_›]

/-- A key in a mapping is the node behind its mark, and its value is expected next. -/
theorem step_flowKey {since : Mark} {isFirst : Bool} {kind : TokenKind} (hkind : startsNode kind)
    (hexpected : reader.expected = .flowKey since isFirst :: outer)
    (h : reader.tokens.map Token.kind = separator isFirst ++ .key :: kind :: kinds) :
    ∃ next : EventReader, next.tokens.map Token.kind = kind :: kinds ∧
      reader.step = next.readNode false false (.flowValue since :: outer) := by
  obtain ⟨next, htokens, hstep⟩ := step_flowKey_eq (.inl rfl) hexpected h
  rw [if_pos rfl, readMarked_eq hkind _ rfl htokens] at hstep
  exact ⟨next.skip, map_kind_skip htokens, hstep⟩

/-- A node without a mark is a key without a value. -/
theorem step_flowKey_unmarked {since : Mark} {isFirst : Bool} {kind : TokenKind}
    (hkind : startsNode kind) (hexpected : reader.expected = .flowKey since isFirst :: outer)
    (h : reader.tokens.map Token.kind = separator isFirst ++ kind :: kinds) :
    ∃ next : EventReader, next.tokens.map Token.kind = kind :: kinds ∧
      reader.step = next.readNode false false (.noValue since :: outer) := by
  obtain ⟨next, htokens, hstep⟩ := step_flowKey_eq (.inr hkind) hexpected h
  rw [if_neg (ne_of_startsNode hkind rfl)] at hstep
  exact ⟨next, htokens, hstep⟩

/-- A value in a mapping is the node behind the colon. -/
theorem step_flowValue {since : Mark} {kind : TokenKind} (hkind : startsNode kind)
    (hexpected : reader.expected = .flowValue since :: outer)
    (h : reader.tokens.map Token.kind = .value :: kind :: kinds) :
    ∃ next : EventReader, next.tokens.map Token.kind = kind :: kinds ∧
      reader.step = next.readNode false false (.flowKey since false :: outer) := by
  obtain ⟨token, htoken, hvalue⟩ := peek_eq h
  refine ⟨reader.skip, map_kind_skip h, ?_⟩
  rw [step, hexpected, ← readMarked_eq hkind [.entry, .flowMappingEnd] rfl h]
  simp only [readFlowValue, htoken, bind, Except.bind, hvalue]

/-- **A colon behind a key without a value is a fault.** -/
theorem fails_noValue {since : Mark} (hexpected : reader.expected = .noValue since :: outer)
    (h : reader.tokens.map Token.kind = .value :: kinds) : reader.Fails := by
  obtain ⟨token, htoken, hvalue⟩ := peek_eq h
  have hempty : reader.step =
      .ok (⟨.scalar {} "" true, token.start⟩, reader.expect (.flowKey since false :: outer)) := by
    simp [step, hexpected, htoken, emptyScalar, bind, Except.bind]
  have hcolon : (reader.expect (.flowKey since false :: outer)).step =
      .error ⟨.missingMapEnd, token.start, some (.flowMapping, since)⟩ := by
    have hpeek : (reader.expect (.flowKey since false :: outer)).peek = .ok token := htoken
    rw [step]
    simp only [expect, readFlowKey, readEntry, bind, Except.bind] at hpeek ⊢
    simp [hpeek, hvalue]
    rfl
  exact (Emits.step hempty (List.cons_ne_nil _ _) (.refl _)).fails (.of_step_eq_error hcolon)

theorem step_flowItem_end {since : Mark} {isFirst : Bool}
    (hexpected : reader.expected = .flowItem since isFirst :: outer)
    (h : reader.tokens.map Token.kind = .flowSequenceEnd :: kinds) :
    ∃ mark, reader.step = .ok (⟨.sequenceEnd, mark⟩, reader.skip.expect outer) := by
  obtain ⟨token, tokens, htokens, hkind, -⟩ := exists_cons_of_map_kind h
  exact ⟨token.start, by simp [step, hexpected, readFlowItem, close, peek, htokens, hkind, bind,
    Except.bind, pure, Except.pure]⟩

theorem step_flowKey_end {since : Mark} {isFirst : Bool}
    (hexpected : reader.expected = .flowKey since isFirst :: outer)
    (h : reader.tokens.map Token.kind = .flowMappingEnd :: kinds) :
    ∃ mark, reader.step = .ok (⟨.mappingEnd, mark⟩, reader.skip.expect outer) := by
  obtain ⟨token, tokens, htokens, hkind, -⟩ := exists_cons_of_map_kind h
  exact ⟨token.start, by simp [step, hexpected, readFlowKey, close, peek, htokens, hkind, bind,
    Except.bind, pure, Except.pure]⟩

end EventReader

end SiteWeave.Yaml
