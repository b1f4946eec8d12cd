import SiteWeave.Page.Segment
import SiteWeave.Proofs.Text.Occurrence
import SiteWeave.Proofs.Text.Seam
import Mathlib.Data.List.Chain

/-!
# The canonical segments of a text

Reading a page is described without the scan. Of all the ways to write a text as segments, the
segments that are read are the only ones in which text is not cut without need, a region ends at the
first end marker of its kind, and a begin marker that stays text has no end marker of its kind
anywhere behind it.

A marker begins with the only opening bracket and ends with the only closing bracket in it, so no
marker crosses the border of a segment. This is what makes the segments unique.

## Main definitions

* `Page.IsCanonical`: the conditions on segments, without reference to the scan.

## Main results

* `Page.isCanonical_parse`: the segments of a text are canonical.
* `Page.parse_render_of_isCanonical`: canonical segments are read back.
* `Page.eq_parse_iff_isCanonical`: the segments of a text are its only canonical ones.
-/

namespace SiteWeave

open Text

/-! ### Markers -/

namespace RegionKind

theorem mem_all (kind : RegionKind) : kind ∈ all := by
  cases kind <;> decide

theorem isToken_beginMarker (kind : RegionKind) : IsToken kind.beginMarker := by
  cases kind <;> exact ⟨by decide, by decide, by decide, by decide, by decide, by decide⟩

theorem isToken_endMarker (kind : RegionKind) : IsToken kind.endMarker := by
  cases kind <;> exact ⟨by decide, by decide, by decide, by decide, by decide, by decide⟩

theorem exists_beginMarker_eq (kind : RegionKind) : ∃ inner, kind.beginMarker = '<' :: inner :=
  List.head?_eq_some_iff.1 (by cases kind <;> decide)

theorem exists_endMarker_eq (kind : RegionKind) : ∃ inner, kind.endMarker = '<' :: inner :=
  List.head?_eq_some_iff.1 (by cases kind <;> decide)

theorem exists_beginMarker_eq_append (kind : RegionKind) :
    ∃ inner, kind.beginMarker = inner ++ ['>'] :=
  List.getLast?_eq_some_iff.1 (by cases kind <;> decide)

theorem exists_endMarker_eq_append (kind : RegionKind) :
    ∃ inner, kind.endMarker = inner ++ ['>'] :=
  List.getLast?_eq_some_iff.1 (by cases kind <;> decide)

theorem eq_of_beginMarker_prefix {kind other : RegionKind} {text : Text}
    (h : kind.beginMarker <+: text) (hother : other.beginMarker <+: text) : kind = other := by
  have hinj (a b : RegionKind) : a.beginMarker <+: b.beginMarker → a = b := by
    cases a <;> cases b <;> decide
  rcases List.prefix_or_prefix_of_prefix h hother with h | h
  · exact hinj kind other h
  · exact (hinj other kind h).symm

end RegionKind

namespace Text.IsToken

variable {token : Text}

theorem isSeam_beginMarker (h : IsToken token) (left : Text) (kind : RegionKind) (right : Text) :
    IsSeam token left (kind.beginMarker ++ right) := by
  obtain ⟨inner, heq⟩ := kind.exists_beginMarker_eq
  rw [heq]
  exact h.isSeam_lt left (inner ++ right)

theorem isSeam_endMarker (h : IsToken token) (left : Text) (kind : RegionKind) (right : Text) :
    IsSeam token left (kind.endMarker ++ right) := by
  obtain ⟨inner, heq⟩ := kind.exists_endMarker_eq
  rw [heq]
  exact h.isSeam_lt left (inner ++ right)

theorem beginMarker_isSeam (h : IsToken token) (kind : RegionKind) (right : Text) :
    IsSeam token kind.beginMarker right := by
  obtain ⟨inner, heq⟩ := kind.exists_beginMarker_eq_append
  rw [heq]
  exact h.isSeam_gt inner right

theorem endMarker_isSeam (h : IsToken token) (kind : RegionKind) (right : Text) :
    IsSeam token kind.endMarker right := by
  obtain ⟨inner, heq⟩ := kind.exists_endMarker_eq_append
  rw [heq]
  exact h.isSeam_gt inner right

end Text.IsToken

/-! ### The next region -/

namespace RegionKind

variable {kind : RegionKind} {text : Text} {m : RegionMatch}

/-- A kind has a region in a text when a begin marker has an end marker behind it: it suffices to
look behind the first begin marker. -/
theorem match?_eq_none_iff :
    kind.match? text = none ↔ ¬ IsFollowed kind.beginMarker kind.endMarker text := by
  rw [match?]
  split
  · next hbegin =>
    refine iff_of_true rfl fun hf => splitFirst?_eq_none_iff.1 hbegin hf.infix_left
  · next before rest hbegin =>
    have htext := eq_append_of_splitFirst? hbegin
    split
    · next hend =>
      refine iff_of_true rfl ?_
      rintro ⟨front, back, hfront, hback⟩
      have hle := length_le_of_splitFirst? hbegin hfront
      have hsuffix : back <:+ rest := by
        refine List.suffix_of_suffix_length_le (hfront ▸ List.suffix_append _ back)
          (htext ▸ List.suffix_append _ rest) ?_
        have hlen := congrArg List.length (htext.symm.trans hfront)
        simp only [List.length_append] at hlen
        omega
      exact splitFirst?_eq_none_iff.1 hend (hback.trans hsuffix.isInfix)
    · next body after hend =>
      refine iff_of_false (by simp) (not_not_intro ⟨before, rest, htext, ?_⟩)
      exact ⟨body, after, (eq_append_of_splitFirst? hend).symm⟩

theorem kind_of_match? (h : kind.match? text = some m) : m.kind = kind := by
  rw [match?] at h
  split at h
  · simp at h
  · split at h
    · simp at h
    · obtain rfl := by simpa using h
      rfl

theorem exists_of_match? (h : kind.match? text = some m) :
    ∃ back, text = m.before ++ kind.beginMarker ++ back ∧ kind.endMarker <:+: back := by
  have htext := eq_of_match? h
  rw [kind_of_match? h, Segment.render] at htext
  exact ⟨m.body ++ kind.endMarker ++ m.after, by simpa using htext, m.body, m.after, rfl⟩

/-- No begin marker of the kind begins in front of its first region. -/
theorem length_le_of_match? (h : kind.match? text = some m) {front back : Text}
    (ht : text = front ++ kind.beginMarker ++ back) : m.before.length ≤ front.length := by
  rw [match?] at h
  split at h
  · simp at h
  · next hbegin =>
    split at h
    · simp at h
    · obtain rfl := by simpa using h
      exact length_le_of_splitFirst? hbegin ht

theorem not_endMarker_infix_of_match? (h : kind.match? text = some m) :
    ¬ kind.endMarker <:+: m.body := by
  rw [match?] at h
  split at h
  · simp at h
  · next rest _ =>
    split at h
    · simp at h
    · next body after hend =>
      obtain rfl := by simpa using h
      rintro ⟨front, back, hbody⟩
      change front ++ kind.endMarker ++ back = body at hbody
      have hrest : rest = front ++ kind.endMarker ++ (back ++ (kind.endMarker ++ after)) := by
        rw [eq_append_of_splitFirst? hend, ← hbody]
        simp only [List.append_assoc]
      have hle := length_le_of_splitFirst? hend hrest
      have hlen := congrArg List.length hbody
      have hpos := List.length_pos_iff.2 kind.isToken_endMarker.ne_nil
      simp only [List.length_append] at hlen
      omega

end RegionKind

namespace RegionMatch

variable {text : Text} {a b : Option RegionMatch} {m n : RegionMatch}
  {matches? : List (Option RegionMatch)}

theorem earlier?_eq_none_iff : earlier? a b = none ↔ a = none ∧ b = none := by
  cases a <;> cases b <;> simp [earlier?]
  split <;> simp

theorem length_le_of_earlier? (h : earlier? a b = some m) (hn : a = some n ∨ b = some n) :
    m.before.length ≤ n.before.length := by
  cases a <;> cases b <;>
    simp only [earlier?, Option.some.injEq, reduceCtorEq, or_false, false_or] at h hn
  · rw [← h, ← hn]
  · rw [← h, ← hn]
  · split at h
    · rcases hn with rfl | rfl <;> cases h <;> omega
    · rcases hn with rfl | rfl <;> cases h <;> omega

theorem foldr_earlier?_eq_none_iff :
    matches?.foldr earlier? none = none ↔ ∀ x ∈ matches?, x = none := by
  induction matches? with
  | nil => simp
  | cons x matches? ih => simp [earlier?_eq_none_iff, ih]

theorem length_le_of_foldr_earlier? (h : matches?.foldr earlier? none = some m)
    (hn : some n ∈ matches?) : m.before.length ≤ n.before.length := by
  induction matches? generalizing m with
  | nil => simp at hn
  | cons x matches? ih =>
    rw [List.foldr_cons] at h
    rcases List.mem_cons.1 hn with hx | hmem
    · exact length_le_of_earlier? h (Or.inl hx.symm)
    · cases hrest : matches?.foldr earlier? none with
      | none => exact absurd (foldr_earlier?_eq_none_iff.1 hrest _ hmem) (by simp)
      | some l => exact (length_le_of_earlier? h (Or.inr hrest)).trans (ih hrest hmem)

theorem match?_mem_all (kind : RegionKind) (text : Text) :
    kind.match? text ∈ RegionKind.all.map fun kind => kind.match? text :=
  List.mem_map_of_mem kind.mem_all

theorem next?_eq_none_iff : next? text = none ↔ ∀ kind : RegionKind, kind.match? text = none := by
  rw [next?, foldr_earlier?_eq_none_iff]
  refine ⟨fun h kind => h _ (match?_mem_all kind text), fun h x hx => ?_⟩
  obtain ⟨kind, -, rfl⟩ := List.mem_map.1 hx
  exact h kind

/-- The next region begins no later than the first region of any kind. -/
theorem length_le_of_next? (h : next? text = some m) {kind : RegionKind}
    (hkind : kind.match? text = some n) : m.before.length ≤ n.before.length :=
  length_le_of_foldr_earlier? h (hkind ▸ match?_mem_all kind text)

/-- A region that begins before the first regions of the other kinds is the next one. -/
theorem next?_eq_some {kind : RegionKind} (h : kind.match? text = some m)
    (hfirst : ∀ other ≠ kind, ∀ n, other.match? text = some n →
      m.before.length < n.before.length) : next? text = some m := by
  cases hnext : next? text with
  | none => simp [next?_eq_none_iff.1 hnext kind] at h
  | some n =>
    obtain ⟨other, hother⟩ := exists_of_next? hnext
    by_cases heq : other = kind
    · rw [← h, ← heq, hother]
    · exact absurd (length_le_of_next? hnext h) (Nat.not_le_of_lt (hfirst other heq n hother))

end RegionMatch

/-! ### Canonical segments -/

/-- Whether a segment is text. -/
def Segment.isText : Segment → Bool
  | text _ => true
  | region _ _ => false

namespace Page

/-- Texts are not cut without need. -/
structure HasTextsApart (page : Page) : Prop where
  /-- No text is empty. -/
  text_ne_nil : ∀ content, .text content ∈ page → content ≠ []
  /-- No two texts stand side by side. -/
  texts_apart : page.IsChain fun a b => ¬ (a.isText ∧ b.isText)

theorem hasTextsApart_nil : HasTextsApart [] :=
  ⟨by simp, by simp⟩

theorem hasTextsApart_cons_region {kind : RegionKind} {body : Text} {page : Page} :
    HasTextsApart (.region kind body :: page) ↔ HasTextsApart page := by
  constructor
  · rintro ⟨hne, hchain⟩
    exact ⟨fun content hmem => hne content (List.mem_cons_of_mem _ hmem), hchain.tail⟩
  · rintro ⟨hne, hchain⟩
    refine ⟨fun content hmem => hne content (by simpa using hmem), ?_⟩
    exact List.isChain_cons.2 ⟨by simp [Segment.isText], hchain⟩

theorem hasTextsApart_cons_text {content : Text} {page : Page} :
    HasTextsApart (.text content :: page) ↔
      content ≠ [] ∧ (∀ segment ∈ page.head?, segment.isText = false) ∧ HasTextsApart page := by
  constructor
  · rintro ⟨hne, hchain⟩
    obtain ⟨hhead, htail⟩ := List.isChain_cons.1 hchain
    refine ⟨hne content List.mem_cons_self, fun segment hmem => ?_,
      fun old hmem => hne old (List.mem_cons_of_mem _ hmem), htail⟩
    simpa [Segment.isText] using hhead segment hmem
  · rintro ⟨hcontent, hhead, hne, hchain⟩
    refine ⟨fun old hmem => ?_, List.isChain_cons.2
      ⟨fun segment hmem => by simp [hhead segment hmem], hchain⟩⟩
    rcases List.mem_cons.1 hmem with heq | hmem
    · obtain rfl := Segment.text.inj heq
      exact hcontent
    · exact hne old hmem

/-- The conditions that single out the segments of a text. -/
structure IsCanonical (page : Page) : Prop extends HasTextsApart page where
  /-- A region ends at the first end marker of its kind. -/
  not_endMarker_infix : ∀ kind body, .region kind body ∈ page → ¬ kind.endMarker <:+: body
  /-- A begin marker in a text has no end marker of its kind behind it, to the end of the page. -/
  unpaired : ∀ front content back, page = front ++ .text content :: back →
    ∀ (kind : RegionKind) (left right : Text), content = left ++ kind.beginMarker ++ right →
      ¬ kind.endMarker <:+: right ++ render back

/-- What holds at every text of a longer page holds at its first segment and in the rest. -/
private theorem forall_text_cons_iff {segment : Segment} {page : Page} {P : Text → Page → Prop} :
    (∀ front content back, segment :: page = front ++ .text content :: back → P content back) ↔
      (∀ content, segment = .text content → P content page) ∧
        ∀ front content back, page = front ++ .text content :: back → P content back := by
  constructor
  · intro h
    refine ⟨fun content hsegment => h [] content page (by rw [hsegment]; rfl), ?_⟩
    intro front content back hpage
    exact h (segment :: front) content back (by rw [hpage]; rfl)
  · rintro ⟨hhead, htail⟩ (_ | ⟨first, front⟩) content back heq
    · obtain ⟨hsegment, rfl⟩ := List.cons.inj heq
      exact hhead content hsegment
    · exact htail front content back (List.cons.inj heq).2

theorem isCanonical_nil : IsCanonical [] :=
  ⟨hasTextsApart_nil, by simp, by simp⟩

theorem isCanonical_cons_region {kind : RegionKind} {body : Text} {page : Page} :
    IsCanonical (.region kind body :: page) ↔ ¬ kind.endMarker <:+: body ∧ IsCanonical page := by
  constructor
  · intro h
    refine ⟨h.not_endMarker_infix kind body List.mem_cons_self,
      hasTextsApart_cons_region.1 h.toHasTextsApart, ?_, (forall_text_cons_iff.1 h.unpaired).2⟩
    exact fun k old hmem => h.not_endMarker_infix k old (List.mem_cons_of_mem _ hmem)
  · rintro ⟨hbody, h⟩
    refine ⟨hasTextsApart_cons_region.2 h.toHasTextsApart, fun k old hmem => ?_,
      forall_text_cons_iff.2 ⟨fun content heq => (nomatch heq), h.unpaired⟩⟩
    rcases List.mem_cons.1 hmem with heq | hmem
    · obtain ⟨rfl, rfl⟩ := Segment.region.inj heq
      exact hbody
    · exact h.not_endMarker_infix k old hmem

theorem isCanonical_cons_text {content : Text} {page : Page} :
    IsCanonical (.text content :: page) ↔
      content ≠ [] ∧ (∀ segment ∈ page.head?, segment.isText = false) ∧
        (∀ (kind : RegionKind) (left right : Text), content = left ++ kind.beginMarker ++ right →
          ¬ kind.endMarker <:+: right ++ render page) ∧ IsCanonical page := by
  constructor
  · intro h
    obtain ⟨hne, hhead, hapart⟩ := hasTextsApart_cons_text.1 h.toHasTextsApart
    obtain ⟨hcontent, hunpaired⟩ := forall_text_cons_iff.1 h.unpaired
    refine ⟨hne, hhead, hcontent content rfl, hapart, fun kind body hmem => ?_, hunpaired⟩
    exact h.not_endMarker_infix kind body (List.mem_cons_of_mem _ hmem)
  · rintro ⟨hne, hhead, hcontent, h⟩
    refine ⟨hasTextsApart_cons_text.2 ⟨hne, hhead, h.toHasTextsApart⟩, fun kind body hmem => ?_,
      forall_text_cons_iff.2 ⟨fun old heq => ?_, h.unpaired⟩⟩
    · exact h.not_endMarker_infix kind body (by simpa using hmem)
    · obtain rfl := Segment.text.inj heq
      exact hcontent

@[simp] theorem ofText_nil : ofText [] = [] := rfl

theorem ofText_of_ne_nil {content : Text} (h : content ≠ []) :
    ofText content = [.text content] := by
  cases content with
  | nil => exact absurd rfl h
  | cons c content => rfl

/-! ### The segments that are read are canonical -/

theorem isCanonical_ofText {source : Text} (h : RegionMatch.next? source = none) :
    IsCanonical (ofText source) := by
  by_cases hsource : source = []
  · rw [hsource]
    exact isCanonical_nil
  · rw [ofText_of_ne_nil hsource, isCanonical_cons_text]
    refine ⟨hsource, by simp, fun kind left right hleft hend => ?_, isCanonical_nil⟩
    exact RegionKind.match?_eq_none_iff.1 (RegionMatch.next?_eq_none_iff.1 h kind)
      ⟨left, right, hleft, by simpa using hend⟩

/-- In front of the next region, no begin marker is closed anywhere in the text. -/
theorem not_endMarker_infix_of_next? {source : Text} {m : RegionMatch}
    (h : RegionMatch.next? source = some m) {kind : RegionKind} {left right : Text}
    (hbefore : m.before = left ++ kind.beginMarker ++ right) :
    ¬ kind.endMarker <:+: right ++ ((Segment.region m.kind m.body).render ++ m.after) := by
  intro hend
  have hsource : source = left ++ kind.beginMarker ++
      (right ++ ((Segment.region m.kind m.body).render ++ m.after)) := by
    rw [RegionMatch.eq_of_next? h, hbefore]
    simp only [List.append_assoc]
  cases hkind : kind.match? source with
  | none => exact RegionKind.match?_eq_none_iff.1 hkind ⟨left, _, hsource, hend⟩
  | some n =>
    have hle := RegionMatch.length_le_of_next? h hkind
    have hfirst := RegionKind.length_le_of_match? hkind hsource
    have hpos := List.length_pos_iff.2 kind.isToken_beginMarker.ne_nil
    have hlen := congrArg List.length hbefore
    simp only [List.length_append] at hlen
    omega

/-- **Reading gives canonical segments.** -/
theorem isCanonical_parse (source : Text) : IsCanonical (parse source) := by
  fun_induction parse source with
  | case1 source h => exact isCanonical_ofText h
  | case2 source m h ih =>
    obtain ⟨kind, hkind⟩ := RegionMatch.exists_of_next? h
    have hregion : IsCanonical (.region m.kind m.body :: parse m.after) := by
      refine isCanonical_cons_region.2 ⟨?_, ih⟩
      rw [RegionKind.kind_of_match? hkind]
      exact RegionKind.not_endMarker_infix_of_match? hkind
    by_cases hbefore : m.before = []
    · rwa [hbefore, ofText_nil, List.nil_append]
    · rw [ofText_of_ne_nil hbefore, List.singleton_append]
      refine isCanonical_cons_text.2 ⟨hbefore, by simp [Segment.isText], ?_, hregion⟩
      intro k left right hleft
      rw [render_cons, render_parse]
      exact not_endMarker_infix_of_next? h hleft

/-! ### Canonical segments are read back -/

theorem parse_of_next?_eq_none {source : Text} (h : RegionMatch.next? source = none) :
    parse source = ofText source := by
  rw [parse]
  split
  · rfl
  · next m hm => simp [h] at hm

theorem parse_of_next? {source : Text} {m : RegionMatch} (h : RegionMatch.next? source = some m) :
    parse source = ofText m.before ++ .region m.kind m.body :: parse m.after := by
  rw [parse]
  split
  · next hnone => simp [h] at hnone
  · next n hn =>
    obtain rfl := by simpa [h] using hn
    rfl

section NextRegion

variable {body after : Text} {kind : RegionKind} (content : Text)

/-- The region behind a text that closes none of its begin markers is the first of its kind. -/
theorem match?_append_region (hbody : ¬ kind.endMarker <:+: body)
    (hcontent : ¬ kind.beginMarker <:+: content) :
    kind.match? (content ++ ((Segment.region kind body).render ++ after)) =
      some ⟨content, kind, body, after⟩ := by
  have hbegin : splitFirst? kind.beginMarker
      (content ++ ((Segment.region kind body).render ++ after)) =
        some (content, body ++ (kind.endMarker ++ after)) := by
    refine splitFirst?_eq_some_iff.2 ⟨by simp [Segment.render], fun front back heq => ?_⟩
    rw [Segment.render, List.append_assoc, List.append_assoc] at heq
    have hseam := kind.isToken_beginMarker.isSeam_beginMarker content kind
      (body ++ (kind.endMarker ++ after))
    rcases hseam.eq_or_eq heq with ⟨rest, hleft, -⟩ | ⟨rest, -, hfront⟩
    · exact absurd ⟨front, rest, hleft.symm⟩ hcontent
    · simp [hfront]
  have hend : splitFirst? kind.endMarker (body ++ (kind.endMarker ++ after)) =
      some (body, after) := by
    refine splitFirst?_eq_some_iff.2 ⟨by simp, fun front back heq => ?_⟩
    have hseam := kind.isToken_endMarker.isSeam_endMarker body kind after
    rcases hseam.eq_or_eq heq with ⟨rest, hleft, -⟩ | ⟨rest, -, hfront⟩
    · exact absurd ⟨front, rest, hleft.symm⟩ hbody
    · simp [hfront]
  rw [RegionKind.match?, hbegin]
  simp only [hend]

/-- The region behind a text that closes none of its begin markers is the next one. -/
theorem next?_append_region (hbody : ¬ kind.endMarker <:+: body)
    (hcontent : ∀ (k : RegionKind) (left right : Text), content = left ++ k.beginMarker ++ right →
      ¬ k.endMarker <:+: right ++ ((Segment.region kind body).render ++ after)) :
    RegionMatch.next? (content ++ ((Segment.region kind body).render ++ after)) =
      some ⟨content, kind, body, after⟩ := by
  have hnot : ¬ kind.beginMarker <:+: content := by
    rintro ⟨left, right, hleft⟩
    refine hcontent kind left right hleft.symm ?_
    exact ⟨right ++ (kind.beginMarker ++ body), after, by simp [Segment.render]⟩
  refine RegionMatch.next?_eq_some (match?_append_region content hbody hnot) ?_
  intro other hother n hn
  obtain ⟨back, heq, hback⟩ := RegionKind.exists_of_match? hn
  rw [Segment.render, List.append_assoc, List.append_assoc] at heq hcontent
  have hseam := other.isToken_beginMarker.isSeam_beginMarker content kind
    (body ++ (kind.endMarker ++ after))
  rcases hseam.eq_or_eq heq with ⟨rest, hleft, rfl⟩ | ⟨rest, hright, hbefore⟩
  · exact absurd hback (hcontent other n.before rest hleft)
  · cases rest with
    | nil =>
      have hhead := hright ▸ List.prefix_append kind.beginMarker (body ++ (kind.endMarker ++ after))
      rw [List.nil_append] at hhead
      exact absurd (RegionKind.eq_of_beginMarker_prefix (List.prefix_append _ back) hhead) hother
    | cons c rest => simp [hbefore]

end NextRegion

/-- **Canonical segments are read back.** The induction takes a region with the text in front of it
at a time, as the scan does. -/
theorem parse_render_of_isCanonical : (page : Page) → IsCanonical page → parse (render page) = page
  | [], _ => by
    rw [render_nil, parse_of_next?_eq_none (RegionMatch.next?_eq_none_iff.2 fun kind => ?_)]
    · rfl
    · cases kind <;> rfl
  | [.text content], h => by
    obtain ⟨hne, -, hcontent, -⟩ := isCanonical_cons_text.1 h
    have hnext : RegionMatch.next? content = none := by
      refine RegionMatch.next?_eq_none_iff.2 fun kind => RegionKind.match?_eq_none_iff.2 ?_
      rintro ⟨left, right, hleft, hend⟩
      exact hcontent kind left right hleft (by simpa using hend)
    rw [render_cons, render_nil, List.append_nil, Segment.render, parse_of_next?_eq_none hnext,
      ofText_of_ne_nil hne]
  | .text _ :: .text _ :: _, h => by
    obtain ⟨-, hhead, -⟩ := isCanonical_cons_text.1 h
    exact absurd (hhead _ rfl) (by simp [Segment.isText])
  | .text content :: .region kind body :: page, h => by
    obtain ⟨hne, -, hcontent, hregion⟩ := isCanonical_cons_text.1 h
    obtain ⟨hbody, hpage⟩ := isCanonical_cons_region.1 hregion
    rw [render_cons] at hcontent
    rw [render_cons, render_cons, Segment.render,
      parse_of_next? (next?_append_region content hbody hcontent), ofText_of_ne_nil hne,
      parse_render_of_isCanonical page hpage]
    rfl
  | .region kind body :: page, h => by
    obtain ⟨hbody, hpage⟩ := isCanonical_cons_region.1 h
    have hnext : RegionMatch.next? ((Segment.region kind body).render ++ render page) =
        some ⟨[], kind, body, render page⟩ := by
      refine next?_append_region [] hbody fun k left right heq => ?_
      simp [k.isToken_beginMarker.ne_nil] at heq
    rw [render_cons, parse_of_next? hnext, parse_render_of_isCanonical page hpage]
    rfl

/-- **The segments of a text are its only canonical segments.** Some segments render to the text and
are canonical exactly when they are the ones that are read. -/
theorem eq_parse_iff_isCanonical (source : Text) (page : Page) :
    page = parse source ↔ render page = source ∧ IsCanonical page := by
  constructor
  · rintro rfl
    exact ⟨render_parse source, isCanonical_parse source⟩
  · rintro ⟨rfl, h⟩
    exact (parse_render_of_isCanonical page h).symm

end Page

end SiteWeave
