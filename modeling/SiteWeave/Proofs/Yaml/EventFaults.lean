import Mathlib.Data.List.Basic
import SiteWeave.Proofs.Yaml.FlowTokens
import SiteWeave.Yaml.Reading

/-!
# Faults of YAML texts

A fault anywhere in a text has the text refused, whatever was read in front of it. This is followed
from the tokens over the events to the document: each step inside of a document leaves what is
expected behind it, so that the text can only end at its last token, and a document in front of a
fault is not the only one.

## Main definitions

* `Yaml.EventReader.IsInner`: steps inside of a document.
* `Yaml.EventReader.IsOpen`: readers at which the text has not ended.

## Main results

* `Yaml.EventReader.isInner_step`, `Yaml.EventReader.IsOpen.step_cases`: what one step may do.
* `Yaml.EventStream.ne_streamEnd_of_fault`, `Yaml.EventStream.isSome_fault`: what all events do.
* `Yaml.NodeReader.run_of_fault`: a text with a fault is refused.
-/

namespace SiteWeave.Yaml

namespace EventReader

variable {reader : EventReader} {outer : List Expected}

/-- A step inside of a document: it does not end the text, leaves only tokens that were there, and
what was expected behind it is still expected. -/
def IsInner (reader : EventReader) (outer : List Expected) (step : Step) : Prop :=
  ∀ event next, step = .ok (event, next) →
    event.event ≠ .streamEnd ∧ next.tokens <:+ reader.tokens ∧ outer <:+ next.expected

theorem IsInner.error (fault : Fault) : IsInner reader outer (.error fault) := by
  rintro _ _ ⟨⟩

theorem IsInner.bind {α : Type} {x : Except Fault α} {f : α → Step}
    (h : ∀ result, x = .ok result → IsInner reader outer (f result)) :
    IsInner reader outer (x.bind f) := by
  cases hx : x with
  | error fault => exact .error fault
  | ok result => exact h result hx

theorem IsInner.ok {event : PlacedEvent} {next : EventReader} (hevent : event.event ≠ .streamEnd)
    (htokens : next.tokens <:+ reader.tokens) (houter : outer <:+ next.expected) :
    IsInner reader outer (.ok (event, next)) := by
  rintro _ _ ⟨⟩
  exact ⟨hevent, htokens, houter⟩

theorem IsInner.mono {other : EventReader} {step : Step} (h : IsInner other outer step)
    (hsuffix : other.tokens <:+ reader.tokens) : IsInner reader outer step := fun event next hok =>
  let ⟨hevent, htokens, houter⟩ := h event next hok
  ⟨hevent, htokens.trans hsuffix, houter⟩

theorem IsInner.outward {inner : List Expected} {step : Step} (h : IsInner reader inner step)
    (hsuffix : outer <:+ inner) : IsInner reader outer step := fun event next hok =>
  let ⟨hevent, htokens, hinner⟩ := h event next hok
  ⟨hevent, htokens, hsuffix.trans hinner⟩

theorem skip_suffix (reader : EventReader) : reader.skip.tokens <:+ reader.tokens :=
  List.drop_suffix 1 reader.tokens

theorem readProperties_suffix {anchor : Option String} {tag : Option (Text × Tag × Mark)}
    {next : EventReader} (h : reader.readProperties = .ok (anchor, tag, next)) :
    next.tokens <:+ reader.tokens := by
  have hskip := skip_suffix reader
  have hskip' := (skip_suffix reader.skip).trans hskip
  simp only [readProperties, bind, Except.bind, pure, Except.pure] at h
  repeat' split at h
  all_goals cases h
  all_goals first | exact hskip | exact hskip' | exact List.suffix_refl _

theorem isInner_readNode (inBlock inMapping : Bool) :
    IsInner reader outer (reader.readNode inBlock inMapping outer) := by
  refine .bind fun first _ => ?_
  dsimp only
  split
  · exact .ok (by simp) (skip_suffix reader) (List.suffix_refl _)
  · refine .bind fun properties hproperties => ?_
    obtain ⟨anchor, tag, behind⟩ := properties
    refine IsInner.mono ?_ (readProperties_suffix hproperties)
    refine .bind fun token _ => ?_
    -- an event that opens a collection goes on inside of it
    have hcons (e : Expected) : outer <:+ e :: outer := List.suffix_cons e outer
    dsimp only
    split
    on_goal 2 => split
    on_goal 3 => exact .error _
    all_goals
      refine .bind fun tag _ => ?_
      repeat' split
      all_goals first
        | exact .error _
        | exact .ok (by simp) (skip_suffix behind) (List.suffix_refl _)
        | exact .ok (by simp) (skip_suffix behind) (hcons _)
        | exact .ok (by simp) (List.suffix_refl _) (List.suffix_refl _)
        | exact .ok (by simp) (List.suffix_refl _) (hcons _)

theorem isInner_readMarked (inBlock inMapping : Bool) (enders : List TokenKind)
    {next : List Expected} (h : outer <:+ next) :
    IsInner reader outer (reader.readMarked inBlock inMapping enders next) := by
  refine .bind fun mark _ => .bind fun token _ => ?_
  split
  · exact .ok (by simp) (skip_suffix reader) h
  · exact ((isInner_readNode inBlock inMapping).outward h).mono (skip_suffix reader)

theorem isInner_close {event : Event} (h : event ≠ .streamEnd) :
    IsInner reader outer (reader.close event outer) :=
  .bind fun _ _ => .ok h (skip_suffix reader) (List.suffix_refl _)

theorem readEntry_suffix {isFirst : Bool} {fault : Token → Fault} {next : EventReader}
    (h : reader.readEntry isFirst fault = .ok next) : next.tokens <:+ reader.tokens := by
  simp only [readEntry, bind, Except.bind, pure, Except.pure] at h
  repeat' split at h
  all_goals cases h
  all_goals first | exact skip_suffix reader | exact List.suffix_refl _

theorem isInner_readItem (since : Mark) :
    IsInner reader outer (reader.readItem since outer) := by
  refine .bind fun token _ => ?_
  split
  · exact isInner_readMarked true false _ (List.suffix_cons _ outer)
  · exact isInner_close (by simp)
  · exact .error _

theorem isInner_readFlatItem : IsInner reader outer (reader.readFlatItem outer) := by
  refine .bind fun token _ => ?_
  split
  · exact isInner_readMarked true false _ (List.suffix_cons _ outer)
  · exact .ok (by simp) (List.suffix_refl _) (List.suffix_refl _)

theorem isInner_readBlockKey (since : Mark) :
    IsInner reader outer (reader.readBlockKey since outer) := by
  refine .bind fun token _ => ?_
  split
  · exact isInner_readMarked true true _ (List.suffix_cons _ outer)
  · exact isInner_close (by simp)
  · exact .error _

theorem isInner_readBlockValue (since : Mark) :
    IsInner reader outer (reader.readBlockValue since outer) := by
  refine .bind fun token _ => ?_
  split
  · exact isInner_readMarked true true _ (List.suffix_cons _ outer)
  · exact .ok (by simp) (List.suffix_refl _) (List.suffix_cons _ outer)

theorem isInner_readFlowItem (since : Mark) (isFirst : Bool) :
    IsInner reader outer (reader.readFlowItem since isFirst outer) := by
  refine .bind fun token _ => ?_
  split
  · exact isInner_close (by simp)
  · refine .bind fun next hnext => IsInner.mono (.bind fun token _ => ?_) (readEntry_suffix hnext)
    split
    · exact .ok (by simp) (skip_suffix next) (List.suffix_cons _ outer)
    · exact isInner_close (by simp)
    · exact (isInner_readNode false false).outward (List.suffix_cons _ outer)

theorem isInner_readPairKey (since : Mark) :
    IsInner reader outer (reader.readPairKey since outer) := by
  refine .bind fun token _ => ?_
  dsimp only
  split
  · exact .ok (by simp) (skip_suffix reader) (List.suffix_cons _ outer)
  · exact .ok (by simp) (skip_suffix reader) (List.suffix_cons _ outer)
  · exact .ok (by simp) (skip_suffix reader) (List.suffix_cons _ outer)
  · exact (isInner_readNode false false).outward (List.suffix_cons _ outer)

theorem isInner_readPairValue (since : Mark) :
    IsInner reader outer (reader.readPairValue since outer) := by
  refine .bind fun token _ => ?_
  dsimp only
  split
  · exact isInner_readMarked false false _ (List.suffix_cons _ outer)
  · exact .ok (by simp) (List.suffix_refl _) (List.suffix_cons _ outer)

theorem isInner_readFlowKey (since : Mark) (isFirst : Bool) :
    IsInner reader outer (reader.readFlowKey since isFirst outer) := by
  refine .bind fun token _ => ?_
  split
  · exact isInner_close (by simp)
  · refine .bind fun next hnext => IsInner.mono (.bind fun token _ => ?_) (readEntry_suffix hnext)
    split
    · exact isInner_readMarked false false _ (List.suffix_cons _ outer)
    · exact isInner_close (by simp)
    · exact (isInner_readNode false false).outward (List.suffix_cons _ outer)

theorem isInner_readFlowValue (since : Mark) :
    IsInner reader outer (reader.readFlowValue since outer) := by
  refine .bind fun token _ => ?_
  dsimp only
  split
  · exact isInner_readMarked false false _ (List.suffix_cons _ outer)
  · exact .ok (by simp) (List.suffix_refl _) (List.suffix_cons _ outer)

theorem isInner_readDocumentEnd : IsInner reader outer (reader.readDocumentEnd outer) := by
  refine .bind fun token _ => .ok (by simp) ?_ (List.suffix_refl _)
  dsimp only
  split
  · exact skip_suffix reader
  · exact List.suffix_refl _

/-- **Steps inside of a document**: where a text may not start a document, it may not end either,
and what is expected behind a node stays expected. -/
theorem isInner_step {e : Expected} (h : reader.expected = e :: outer)
    (he : ∀ isFirst, e ≠ .document isFirst) : IsInner reader outer reader.step := by
  rw [step, h]
  cases e with
  | document isFirst => exact absurd rfl (he isFirst)
  | content =>
    refine .bind fun token _ => ?_
    split
    · exact .ok (by simp) (List.suffix_refl _) (List.suffix_refl _)
    · exact isInner_readNode true false
  | documentEnd => exact isInner_readDocumentEnd
  | node => exact isInner_readNode true false
  | item since => exact isInner_readItem since
  | flatItem => exact isInner_readFlatItem
  | blockKey since => exact isInner_readBlockKey since
  | blockValue since => exact isInner_readBlockValue since
  | flowItem since isFirst => exact isInner_readFlowItem since isFirst
  | pairKey since => exact isInner_readPairKey since
  | pairValue since => exact isInner_readPairValue since
  | pairEnd since =>
    exact .bind fun token _ => .ok (by simp) (List.suffix_refl _) (List.suffix_cons _ outer)
  | flowKey since isFirst => exact isInner_readFlowKey since isFirst
  | flowValue since => exact isInner_readFlowValue since
  | noValue since =>
    exact .bind fun token _ => .ok (by simp) (List.suffix_refl _) (List.suffix_cons _ outer)

/-! ### Documents -/

theorem readDirectives_suffix {hasVersion : Bool} {handles found : List (Text × Tag)}
    {tokens left : List Token} (h : readDirectives hasVersion handles tokens = .ok (found, left)) :
    left <:+ tokens := by
  induction tokens generalizing hasVersion handles with
  | nil =>
    cases h
    exact List.suffix_refl _
  | cons token tokens ih =>
    rw [readDirectives] at h
    repeat' split at h
    all_goals first
      | exact (ih h).trans (List.suffix_cons token tokens)
      | (cases h; exact List.suffix_refl _)
      | cases h

/-- Whether a text may go on with a document or end where all that is expected was read. -/
def IsOpen (reader : EventReader) : Prop :=
  ∃ isFirst, [.document isFirst] <:+ reader.expected

/-- Where a document may start, the text ends at its last token or a document starts. -/
theorem readDocumentStart_cases {isFirst : Bool} {event : PlacedEvent} {next : EventReader}
    (h : reader.readDocumentStart isFirst = .ok (event, next)) :
    (event.event = .streamEnd ∧ next.expected = [] ∧
      ∃ token ∈ reader.tokens, token.kind = .streamEnd) ∨
    (event.event = .documentStart ∧ next.tokens <:+ reader.tokens ∧ next.IsOpen) := by
  rw [readDocumentStart] at h
  generalize hfront : (if isFirst then reader else
    { reader with tokens := reader.tokens.dropWhile isDocumentEnd }) = front at h
  have hsuffix : front.tokens <:+ reader.tokens := by
    rw [← hfront]
    split
    · exact List.suffix_refl _
    · exact List.dropWhile_suffix _
  simp only [bind, Except.bind, peek, pure, Except.pure] at h
  cases htokens : front.tokens with
  | nil =>
    simp only [htokens] at h
    cases h
  | cons token tokens =>
    simp only [htokens] at h
    split_ifs at h with hend hstart
    · cases h
      exact .inl ⟨rfl, rfl, token, hsuffix.subset (by simp [htokens]), hend⟩
    · cases h
      exact .inr ⟨rfl, htokens ▸ hsuffix, false, [.node, .documentEnd], rfl⟩
    · cases hdirectives : readDirectives false [] (token :: tokens) with
      | error fault =>
        simp only [hdirectives] at h
        cases h
      | ok result =>
        obtain ⟨handles, left⟩ := result
        have hleft := (htokens ▸ readDirectives_suffix hdirectives).trans hsuffix
        cases left with
        | nil =>
          simp only [hdirectives] at h
          cases h
        | cons next left =>
          simp only [hdirectives] at h
          split_ifs at h
          · cases h
            exact .inr ⟨rfl, (List.suffix_cons next left).trans hleft, false,
              [.content, .documentEnd], rfl⟩

/-- **A step of an open text** ends it at its last token or leaves it open. -/
theorem IsOpen.step_cases (hopen : reader.IsOpen) {event : PlacedEvent} {next : EventReader}
    (h : reader.step = .ok (event, next)) :
    (event.event = .streamEnd ∧ next.expected = [] ∧
      ∃ token ∈ reader.tokens, token.kind = .streamEnd) ∨
    (event.event ≠ .streamEnd ∧ next.tokens <:+ reader.tokens ∧ next.IsOpen) := by
  obtain ⟨isFirst, hopen⟩ := hopen
  cases hexpected : reader.expected with
  | nil =>
    rw [step, hexpected] at h
    cases h
  | cons e outer =>
    by_cases he : ∃ isFirst, e = .document isFirst
    · obtain ⟨isFirst, rfl⟩ := he
      rw [step, hexpected] at h
      refine (readDocumentStart_cases h).imp_right fun ⟨hevent, hnext⟩ => ⟨?_, hnext⟩
      rw [hevent]
      exact Event.noConfusion
    · rw [not_exists] at he
      obtain ⟨hevent, htokens, houter⟩ := isInner_step hexpected he event next h
      refine .inr ⟨hevent, htokens, isFirst, .trans ?_ houter⟩
      rw [hexpected, List.suffix_cons_iff] at hopen
      refine hopen.resolve_left fun heq => he isFirst ?_
      exact (List.cons.inj heq).1.symm

theorem IsOpen.expected_ne_nil (h : reader.IsOpen) : reader.expected ≠ [] := by
  obtain ⟨isFirst, front, h⟩ := h
  simp [← h]

end EventReader

namespace EventStream

variable {reader : EventReader}

/-- The events of an open text in front of a fault are none of its end. -/
theorem ne_streamEnd_of_fault (hopen : reader.IsOpen) {fuel : Nat}
    (h : (readFrom fuel reader).fault.isSome) :
    ∀ event ∈ (readFrom fuel reader).events, event.event ≠ .streamEnd := by
  induction fuel generalizing reader with
  | zero => simp [readFrom]
  | succ fuel ih =>
    cases hstep : reader.step with
    | error fault => simp [readFrom, hstep]
    | ok result =>
      obtain ⟨event, next⟩ := result
      simp only [readFrom, hstep] at h ⊢
      obtain ⟨-, hnext, -⟩ | ⟨hevent, -, hnext⟩ := hopen.step_cases hstep
      · simp [hnext] at h
      · rw [if_neg (by simp [hnext.expected_ne_nil])] at h ⊢
        exact List.forall_mem_cons.2 ⟨hevent, ih hnext h⟩

/-- An open text whose end is none of its tokens has a fault. -/
theorem isSome_fault (hopen : reader.IsOpen)
    (h : ∀ token ∈ reader.tokens, token.kind ≠ .streamEnd) (fuel : Nat) :
    (readFrom fuel reader).fault.isSome := by
  induction fuel generalizing reader with
  | zero => rfl
  | succ fuel ih =>
    cases hstep : reader.step with
    | error fault => simp [readFrom, hstep]
    | ok result =>
      obtain ⟨event, next⟩ := result
      simp only [readFrom, hstep]
      obtain ⟨-, -, token, hmem, hend⟩ | ⟨-, htokens, hnext⟩ := hopen.step_cases hstep
      · exact absurd hend (h token hmem)
      · rw [if_neg (by simp [hnext.expected_ne_nil])]
        exact ih hnext fun token hmem => h token (htokens.subset hmem)

end EventStream

namespace Document

/-- A document is refused if its events end in a fault. -/
theorem readFrom_of_fault {fault : Option Fault} (hfault : fault.isSome) (draft : Draft)
    {events : List PlacedEvent} (h : ∀ event ∈ events, event.event ≠ .streamEnd) :
    (readFrom fault draft events).error.isSome ∨ (readFrom fault draft events).hasNext = true := by
  induction events generalizing draft with
  | nil => simp [readFrom, Draft.finish, hfault]
  | cons placed events ih =>
    obtain ⟨event, mark⟩ := placed
    rw [List.forall_mem_cons] at h
    cases event with
    | streamEnd => exact absurd rfl h.1
    | documentEnd =>
      refine .inr ?_
      cases events with
      | nil => exact hfault
      | cons next events => simpa [readFrom, Draft.finish, hasDocument] using h.2 next (by simp)
    | reference name =>
      simp only [readFrom]
      split
      · exact ih _ h.2
      · exact .inl rfl
    | documentStart => exact ih _ h.2
    | scalar properties text isPlain => exact ih _ h.2
    | sequenceStart properties => exact ih _ h.2
    | sequenceEnd => exact ih _ h.2
    | mappingStart properties => exact ih _ h.2
    | mappingEnd => exact ih _ h.2

end Document

namespace NodeReader

variable {α : Type} {text : Text}

/-- **A text with a fault is refused**, whatever is read from it. -/
theorem run_of_fault (h : (EventStream.ofText text).fault.isSome) (reader : NodeReader α) :
    ∃ error, reader.run text = .error error := by
  have hrefused := Document.readFrom_of_fault h {} (EventStream.ne_streamEnd_of_fault
    ⟨true, List.suffix_refl _⟩ h)
  rw [run]
  split
  · exact ⟨_, rfl⟩
  · split
    · exact ⟨_, rfl⟩
    · rename_i hnone
      have hnext : (Document.ofText text).hasNext = true :=
        hrefused.resolve_left (Bool.eq_false_iff.1 (Option.isSome_eq_false_iff.2
          (Option.isNone_iff_eq_none.2 hnone)))
      exact ⟨_, if_pos hnext⟩

end NodeReader

end SiteWeave.Yaml
