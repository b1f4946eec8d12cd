import SiteWeave.BlogIndex.Splice
import SiteWeave.Proofs.Text.Occurrence
import SiteWeave.Proofs.Text.Seam
import Mathlib.Data.List.Count
import Mathlib.Data.List.TakeWhile

/-!
# Tags and closing sequences

A tag begins with the only opening bracket in it. So it begins in a text only where the text has an
opening bracket, and a text that goes on with something else behind each of its brackets is clear of
the tag: no tag lies in it, and none reaches out of it.

A closing sequence is a tag with a second tag behind it and blanks between them. It has two opening
brackets, and so it lies inside no other one.

## Main definitions

* `Text.IsTag`: tokens that begin with an opening bracket.
* `Text.IsClear`: a text shows behind each of its opening brackets that no tag begins there.
* `Text.IsClosing`, `Text.HasClosing`: closing sequences.

## Main results

* `Text.splitFirst?_append`, `Text.splitFirst?_append_of_eq_some`: the first occurrence in two texts
  side by side.
* `Text.splitClosing?_eq_some_iff`, `Text.splitClosing?_eq_none_iff`: the first closing sequence.
* `Text.splitClosing?_append`: the first closing sequence of a text stays the first one when the
  text is continued.
-/

namespace SiteWeave

namespace Text

variable {needle tag ending text left right before sequence after : Text}

/-! ### First occurrences in two texts side by side -/

theorem splitFirst?_append (hnot : ¬ needle <:+: left) (hseam : IsSeam needle left right) :
    splitFirst? needle (left ++ right) =
      (splitFirst? needle right).map fun (before, after) => (left ++ before, after) := by
  cases h : splitFirst? needle right with
  | none =>
    rw [Option.map_none, splitFirst?_eq_none_iff, hseam.infix_append_iff, or_iff_right hnot]
    exact splitFirst?_eq_none_iff.1 h
  | some cut =>
    obtain ⟨before, after⟩ := cut
    obtain ⟨rfl, hfirst⟩ := splitFirst?_eq_some_iff.1 h
    refine splitFirst?_eq_some_iff.2 ⟨by simp, fun front back heq => ?_⟩
    rcases hseam.eq_or_eq heq with ⟨rest, hleft, -⟩ | ⟨rest, hright, rfl⟩
    · exact absurd ⟨front, rest, hleft.symm⟩ hnot
    · have hle := hfirst rest back hright
      simp only [List.length_append]
      omega

/-- The first occurrence in a text stays the first one when the text is continued. -/
theorem splitFirst?_append_of_eq_some (h : splitFirst? needle text = some (before, after))
    (more : Text) : splitFirst? needle (text ++ more) = some (before, after ++ more) := by
  have htext := eq_append_of_splitFirst? h
  refine splitFirst?_eq_some_iff.2 ⟨by simp [htext], fun front back heq => ?_⟩
  by_contra hlt
  have hlen := congrArg List.length htext
  simp only [List.length_append] at hlen
  have hfront : front ++ needle <+: text := by
    refine List.prefix_of_prefix_length_le ⟨back, heq.symm⟩ (List.prefix_append text more) ?_
    rw [List.length_append]
    omega
  obtain ⟨rest, hrest⟩ := hfront
  exact hlt (length_le_of_splitFirst? h hrest.symm)

/-- The text does not occur in front of its first occurrence. -/
theorem not_infix_of_splitFirst? (hne : needle ≠ [])
    (h : splitFirst? needle text = some (before, after)) : ¬ needle <:+: before := by
  obtain ⟨rfl, hfirst⟩ := splitFirst?_eq_some_iff.1 h
  rintro ⟨front, back, rfl⟩
  have hlen := hfirst front (back ++ (needle ++ after)) (by simp)
  have hpos := List.length_pos_iff.2 hne
  simp only [List.length_append] at hlen
  omega

theorem splitFirst?_self_append (needle after : Text) :
    splitFirst? needle (needle ++ after) = some ([], after) :=
  splitFirst?_eq_some_iff.2 ⟨rfl, fun _ _ _ => Nat.zero_le _⟩

/-! ### Tags -/

/-- A token that begins with an opening bracket. -/
structure IsTag (tag : Text) : Prop extends IsToken tag where
  head?_eq : tag.head? = some '<'

namespace IsTag

theorem exists_eq_cons (h : IsTag tag) : ∃ inner, tag = '<' :: inner ∧ '<' ∉ inner := by
  obtain ⟨inner, rfl⟩ := List.head?_eq_some_iff.1 h.head?_eq
  exact ⟨inner, rfl, h.lt_notMem_tail⟩

theorem count_eq_one (h : IsTag tag) : tag.count '<' = 1 := by
  obtain ⟨inner, rfl, hinner⟩ := h.exists_eq_cons
  rw [List.count_cons_self, List.count_eq_zero.2 hinner]

/-- No token reaches into a tag from the front. -/
theorem isSeam (h : IsTag tag) (htoken : IsToken needle) (left right : Text) :
    IsSeam needle left (tag ++ right) := by
  obtain ⟨inner, rfl, -⟩ := h.exists_eq_cons
  exact htoken.isSeam_lt left (inner ++ right)

/-- What begins with a tag begins with no blank. -/
theorem dropWhile_append (h : IsTag tag) {blanks : Text} (hblanks : ∀ c ∈ blanks, isBlank c = true)
    (more : Text) : (blanks ++ (tag ++ more)).dropWhile isBlank = tag ++ more := by
  obtain ⟨inner, rfl, -⟩ := h.exists_eq_cons
  rw [List.dropWhile_append_of_pos hblanks, List.cons_append,
    List.dropWhile_cons_of_neg (by decide)]

theorem takeWhile_append (h : IsTag tag) {blanks : Text} (hblanks : ∀ c ∈ blanks, isBlank c = true)
    (more : Text) : (blanks ++ (tag ++ more)).takeWhile isBlank = blanks := by
  obtain ⟨inner, rfl, -⟩ := h.exists_eq_cons
  rw [List.takeWhile_append_of_pos hblanks, List.cons_append,
    List.takeWhile_cons_of_neg (by decide), List.append_nil]

end IsTag

/-! ### Texts clear of a tag -/

/-- Behind each opening bracket of the text, the text goes on with something else than the tag. -/
def IsClear (tag text : Text) : Prop :=
  ∀ back ∈ text.tails, back.head? = some '<' → ¬ tag <+: back ∧ ¬ back <+: tag

instance (tag text : Text) : Decidable (IsClear tag text) :=
  inferInstanceAs (Decidable (∀ back ∈ text.tails, _))

theorem isClear_of_notMem (h : '<' ∉ text) : IsClear tag text := by
  intro back hback hhead
  obtain ⟨inner, rfl⟩ := List.head?_eq_some_iff.1 hhead
  exact absurd (((List.mem_tails _ _).1 hback).subset List.mem_cons_self) h

namespace IsClear

theorem append (hleft : IsClear tag left) (hright : IsClear tag right) :
    IsClear tag (left ++ right) := by
  intro back hback hhead
  rw [List.mem_tails] at hback
  rcases List.suffix_or_suffix_of_suffix hback (List.suffix_append left right) with
    hshort | ⟨front, rfl⟩
  · exact hright back ((List.mem_tails _ _).2 hshort) hhead
  · cases front with
    | nil => exact hright right ((List.mem_tails _ _).2 List.suffix_rfl) hhead
    | cons c front =>
      obtain ⟨hbegins, hcut⟩ := hleft (c :: front)
        ((List.mem_tails _ _).2 (List.suffix_append_self_iff.1 hback)) hhead
      refine ⟨fun h => ?_, fun h => hcut ((List.prefix_append _ _).trans h)⟩
      exact (List.prefix_or_prefix_of_prefix h (List.prefix_append _ _)).elim hbegins hcut

theorem not_isInfix (h : IsClear tag text) (htag : IsTag tag) : ¬ tag <:+: text := by
  rintro ⟨front, back, rfl⟩
  obtain ⟨inner, rfl, -⟩ := htag.exists_eq_cons
  refine (h ('<' :: inner ++ back) ?_ rfl).1 (List.prefix_append _ _)
  rw [List.mem_tails, List.append_assoc]
  exact List.suffix_append _ _

theorem isSeam (h : IsClear tag text) (htag : IsTag tag) (right : Text) :
    IsSeam tag text right := by
  rintro (_ | ⟨c, head⟩) tail hhead - rfl hends -
  · exact hhead rfl
  · exact (h (c :: head) ((List.mem_tails _ _).2 hends) htag.head?_eq).2 (List.prefix_append _ _)

end IsClear

/-! ### Closing sequences -/

/-- The sequence is a tag with another one behind it and blanks between them. -/
def IsClosing (tag ending sequence : Text) : Prop :=
  ∃ blanks, (∀ c ∈ blanks, isBlank c = true) ∧ sequence = tag ++ blanks ++ ending

/-- The text has a closing sequence. -/
def HasClosing (tag ending text : Text) : Prop :=
  ∃ front sequence back, IsClosing tag ending sequence ∧ text = front ++ sequence ++ back

theorem lt_notMem_of_isBlank {blanks : Text} (h : ∀ c ∈ blanks, isBlank c = true) :
    '<' ∉ blanks :=
  fun hmem => absurd (h '<' hmem) (by decide)

namespace IsClosing

theorem count_eq_two (h : IsClosing tag ending sequence) (htag : IsTag tag)
    (hending : IsTag ending) : sequence.count '<' = 2 := by
  obtain ⟨blanks, hblanks, rfl⟩ := h
  rw [List.count_append, List.count_append, htag.count_eq_one, hending.count_eq_one,
    List.count_eq_zero.2 (lt_notMem_of_isBlank hblanks)]

theorem head?_eq (h : IsClosing tag ending sequence) (htag : IsTag tag) :
    sequence.head? = some '<' := by
  obtain ⟨blanks, -, rfl⟩ := h
  obtain ⟨inner, rfl, -⟩ := htag.exists_eq_cons
  rfl

/-- A closing sequence begins in no other one behind its start: its opening brackets would be one
too many. -/
theorem eq_nil_of_append {front back : Text} (hsequence : IsClosing tag ending sequence)
    (h : IsClosing tag ending (front ++ (sequence ++ back))) (htag : IsTag tag)
    (hending : IsTag ending) : front = [] := by
  cases front with
  | nil => rfl
  | cons c front =>
    obtain rfl : c = '<' := by simpa using h.head?_eq htag
    have hcount := h.count_eq_two htag hending
    rw [List.cons_append, List.count_cons_self, List.count_append, List.count_append,
      hsequence.count_eq_two htag hending] at hcount
    omega

end IsClosing

namespace HasClosing

theorem append_right (h : HasClosing tag ending text) (more : Text) :
    HasClosing tag ending (text ++ more) := by
  obtain ⟨front, sequence, back, hsequence, rfl⟩ := h
  exact ⟨front, sequence, back ++ more, hsequence, by simp⟩

theorem append_left (h : HasClosing tag ending text) (more : Text) :
    HasClosing tag ending (more ++ text) := by
  obtain ⟨front, sequence, back, hsequence, rfl⟩ := h
  exact ⟨more ++ front, sequence, back, hsequence, by simp⟩

theorem infix_ending (h : HasClosing tag ending text) : ending <:+: text := by
  obtain ⟨front, found, back, ⟨blanks, -, rfl⟩, rfl⟩ := h
  exact ⟨front ++ (tag ++ blanks), back, by simp⟩

end HasClosing

theorem closing?_eq_some_iff (hending : IsTag ending) :
    closing? tag ending text = some (sequence, after) ↔
      IsClosing tag ending sequence ∧ text = sequence ++ after := by
  constructor
  · intro h
    rw [closing?] at h
    split at h
    · simp at h
    next rest htag =>
    split at h
    · simp at h
    next tail hend =>
    obtain ⟨rfl, rfl⟩ := by simpa using h
    refine ⟨⟨rest.takeWhile isBlank, fun c hc => List.mem_takeWhile_imp hc, by simp⟩, ?_⟩
    rw [eq_append_of_isPrefixOf? htag, List.append_assoc, List.append_assoc,
      ← eq_append_of_isPrefixOf? hend, List.takeWhile_append_dropWhile]
  · rintro ⟨⟨blanks, hblanks, rfl⟩, rfl⟩
    have hrest : tag.isPrefixOf? (tag ++ blanks ++ ending ++ after) =
        some (blanks ++ (ending ++ after)) :=
      isPrefixOf?_eq_some_iff.2 (by simp)
    have hafter : ending.isPrefixOf? (ending ++ after) = some after :=
      isPrefixOf?_eq_some_iff.2 rfl
    simp only [closing?, hrest, hending.dropWhile_append hblanks, hafter,
      hending.takeWhile_append hblanks]

/-- No closing sequence is a part of another one. -/
theorem IsClosing.eq_nil_and_eq_nil {front back : Text} (hsequence : IsClosing tag ending sequence)
    (h : IsClosing tag ending (front ++ (sequence ++ back))) (htag : IsTag tag)
    (hending : IsTag ending) : front = [] ∧ back = [] := by
  obtain rfl := hsequence.eq_nil_of_append h htag hending
  have hlong := (closing?_eq_some_iff hending).2 ⟨h, (List.append_nil _).symm⟩
  rw [List.nil_append, (closing?_eq_some_iff hending).2 ⟨hsequence, rfl⟩] at hlong
  exact ⟨rfl, (Prod.mk.inj (Option.some.inj hlong)).2⟩

theorem isClosing_and_eq_of_splitClosing? (hending : IsTag ending)
    (h : splitClosing? tag ending text = some (before, sequence, after)) :
    IsClosing tag ending sequence ∧ text = before ++ sequence ++ after := by
  induction text generalizing before with
  | nil => simp [splitClosing?] at h
  | cons c text ih =>
    rw [splitClosing?] at h
    split at h
    · next found rest hfound =>
      obtain ⟨rfl, rfl, rfl⟩ := by simpa using h
      exact (closing?_eq_some_iff hending).1 hfound
    · obtain ⟨⟨front, found, rest⟩, hrest, heq⟩ := Option.map_eq_some_iff.1 h
      obtain ⟨rfl, rfl, rfl⟩ := by simpa using heq
      obtain ⟨hfound, rfl⟩ := ih hrest
      exact ⟨hfound, rfl⟩

theorem splitClosing?_eq_none_iff (htag : IsTag tag) (hending : IsTag ending) :
    splitClosing? tag ending text = none ↔ ¬ HasClosing tag ending text := by
  constructor
  · rintro h ⟨front, found, back, hfound, rfl⟩
    induction front with
    | nil =>
      obtain ⟨inner, rfl⟩ := List.head?_eq_some_iff.1 (hfound.head?_eq htag)
      rw [List.nil_append, List.cons_append, splitClosing?, ← List.cons_append,
        (closing?_eq_some_iff hending).2 ⟨hfound, rfl⟩] at h
      simp at h
    | cons c front ih =>
      rw [List.cons_append, List.cons_append, splitClosing?] at h
      split at h
      · simp at h
      · exact ih (Option.map_eq_none_iff.1 h)
  · intro h
    cases hsplit : splitClosing? tag ending text with
    | none => rfl
    | some cut =>
      obtain ⟨hfound, htext⟩ := isClosing_and_eq_of_splitClosing? hending hsplit
      exact absurd ⟨_, _, _, hfound, htext⟩ h

/-- No closing sequence begins in front of the first one. -/
theorem length_le_of_splitClosing? (hending : IsTag ending)
    (h : splitClosing? tag ending text = some (before, sequence, after)) {front found back : Text}
    (hfound : IsClosing tag ending found) (htext : text = front ++ found ++ back) :
    before.length ≤ front.length := by
  induction text generalizing before front with
  | nil => simp [splitClosing?] at h
  | cons c text ih =>
    rw [splitClosing?] at h
    split at h
    · obtain ⟨rfl, -⟩ := by simpa using h
      exact Nat.zero_le _
    · next hnone =>
      obtain ⟨⟨inner, first, rest⟩, hrest, heq⟩ := Option.map_eq_some_iff.1 h
      obtain ⟨rfl, rfl, rfl⟩ := by simpa using heq
      cases front with
      | nil =>
        rw [(closing?_eq_some_iff hending).2 ⟨hfound, htext⟩] at hnone
        simp at hnone
      | cons d front =>
        obtain ⟨-, htail⟩ := by simpa using htext
        exact Nat.succ_le_succ (ih hrest (by simpa using htail))

/-- The first closing sequence in a text is the one in front of which no other one begins. -/
theorem splitClosing?_eq_some_iff (htag : IsTag tag) (hending : IsTag ending) :
    splitClosing? tag ending text = some (before, sequence, after) ↔
      IsClosing tag ending sequence ∧ text = before ++ sequence ++ after ∧
        ∀ front found back, IsClosing tag ending found → text = front ++ found ++ back →
          before.length ≤ front.length := by
  constructor
  · intro h
    obtain ⟨hsequence, htext⟩ := isClosing_and_eq_of_splitClosing? hending h
    exact ⟨hsequence, htext, fun _ _ _ => length_le_of_splitClosing? hending h⟩
  · rintro ⟨hsequence, htext, hfirst⟩
    cases h : splitClosing? tag ending text with
    | none =>
      exact absurd ⟨_, _, _, hsequence, htext⟩ ((splitClosing?_eq_none_iff htag hending).1 h)
    | some cut =>
      obtain ⟨front, found, back⟩ := cut
      obtain ⟨hfound, hcut⟩ := isClosing_and_eq_of_splitClosing? hending h
      have hlen : front.length = before.length := Nat.le_antisymm
        (length_le_of_splitClosing? hending h hsequence htext) (hfirst _ _ _ hfound hcut)
      have heq : front ++ (found ++ back) = before ++ (sequence ++ after) := by
        rw [← List.append_assoc, ← List.append_assoc, ← hcut, ← htext]
      obtain ⟨rfl, htail⟩ := List.append_inj heq hlen
      have hsame := (closing?_eq_some_iff hending).2 ⟨hfound, htail.symm⟩
      rw [(closing?_eq_some_iff hending).2 ⟨hsequence, rfl⟩] at hsame
      obtain ⟨rfl, rfl⟩ := by simpa using hsame
      rfl

/-- The first closing sequence in a text stays the first one when the text is continued, as it does
not fit into one that begins in front of it. -/
theorem splitClosing?_append (htag : IsTag tag) (hending : IsTag ending)
    (h : splitClosing? tag ending text = some (before, sequence, after)) (more : Text) :
    splitClosing? tag ending (text ++ more) = some (before, sequence, after ++ more) := by
  obtain ⟨hsequence, htext, hfirst⟩ := (splitClosing?_eq_some_iff htag hending).1 h
  refine (splitClosing?_eq_some_iff htag hending).2
    ⟨hsequence, by simp [htext], fun front found back hfound heq => ?_⟩
  by_contra hlt
  have hends : ¬ front ++ found <+: text := by
    rintro ⟨rest, hrest⟩
    exact hlt (hfirst front found rest hfound hrest.symm)
  have hlong : before ++ sequence <+: front ++ found := by
    have hfront : front ++ found <+: text ++ more := ⟨back, heq.symm⟩
    have htext' : text <+: front ++ found :=
      (List.prefix_or_prefix_of_prefix hfront (List.prefix_append text more)).resolve_left hends
    exact (htext ▸ List.prefix_append _ after).trans htext'
  obtain ⟨rest, hrest⟩ := hlong
  obtain ⟨inner, rfl⟩ : front <+: before := by
    refine List.prefix_of_prefix_length_le (List.prefix_append front found) ?_ (by omega)
    exact ⟨sequence ++ rest, by rw [← hrest, List.append_assoc]⟩
  obtain rfl : found = inner ++ (sequence ++ rest) := by simpa using hrest.symm
  obtain rfl := hsequence.eq_nil_of_append hfound htag hending
  simp at hlt

/-- The first closing sequence in a text is found as well if something else stands behind it. -/
theorem splitClosing?_of_after (htag : IsTag tag) (hending : IsTag ending)
    (h : splitClosing? tag ending (before ++ (sequence ++ after)) = some (before, sequence, after))
    (more : Text) :
    splitClosing? tag ending (before ++ (sequence ++ more)) = some (before, sequence, more) := by
  obtain ⟨hsequence, -, hfirst⟩ := (splitClosing?_eq_some_iff htag hending).1 h
  have hshort : splitClosing? tag ending (before ++ sequence) = some (before, sequence, []) := by
    refine (splitClosing?_eq_some_iff htag hending).2
      ⟨hsequence, (List.append_nil _).symm, fun front found back hfound heq => ?_⟩
    refine hfirst front found (back ++ after) hfound ?_
    rw [← List.append_assoc, heq, List.append_assoc]
  have hlong := splitClosing?_append htag hending hshort more
  rwa [List.append_assoc, List.nil_append] at hlong

/-- A text clear of the tag adds no closing sequence to what follows it. -/
theorem hasClosing_append_iff_of_isClear (htag : IsTag tag) (h : IsClear tag left) :
    HasClosing tag ending (left ++ right) ↔ HasClosing tag ending right := by
  refine ⟨?_, fun hright => hright.append_left left⟩
  rintro ⟨front, found, back, ⟨blanks, hblanks, rfl⟩, heq⟩
  rw [List.append_assoc, List.append_assoc, List.append_assoc, ← List.append_assoc front] at heq
  rcases (h.isSeam htag right).eq_or_eq heq with ⟨rest, hleft, -⟩ | ⟨rest, hright, -⟩
  · exact absurd ⟨front, rest, hleft.symm⟩ (h.not_isInfix htag)
  · refine ⟨rest, tag ++ blanks ++ ending, back, ⟨blanks, hblanks, rfl⟩, ?_⟩
    simp [hright]

/-- A line end with a text without opening brackets behind it adds no closing sequence to what
precedes it. -/
theorem hasClosing_append_lineEnd_iff (hending : IsTag ending) (h : '<' ∉ right) :
    HasClosing tag ending (left ++ '\n' :: right) ↔ HasClosing tag ending left := by
  refine ⟨?_, fun hleft => hleft.append_right _⟩
  rintro ⟨front, found, back, ⟨blanks, hblanks, rfl⟩, heq⟩
  have htags : left ++ '\n' :: right = front ++ tag ++ blanks ++ ending ++ back := by
    simpa using heq
  rcases (hending.isSeam_lineEnd left right).eq_or_eq htags with ⟨rest, hleft, -⟩ | ⟨rest, hright, -⟩
  · exact ⟨front, tag ++ blanks ++ ending, rest, ⟨blanks, hblanks, rfl⟩, by simp [hleft]⟩
  · obtain ⟨inner, rfl, -⟩ := hending.exists_eq_cons
    have hmem : '<' ∈ '\n' :: right := hright ▸ by simp
    exact absurd hmem (by simpa using h)

/-- The first closing sequence behind a text that is clear of the tag. -/
theorem splitClosing?_append_of_isClear (htag : IsTag tag) (hending : IsTag ending)
    (hleft : IsClear tag left)
    (h : splitClosing? tag ending right = some (before, sequence, after)) :
    splitClosing? tag ending (left ++ right) = some (left ++ before, sequence, after) := by
  obtain ⟨hsequence, rfl, hfirst⟩ := (splitClosing?_eq_some_iff htag hending).1 h
  refine (splitClosing?_eq_some_iff htag hending).2
    ⟨hsequence, by simp, fun front found back hfound heq => ?_⟩
  obtain ⟨blanks, -, rfl⟩ := id hfound
  have htags : left ++ (before ++ sequence ++ after) =
      front ++ tag ++ (blanks ++ ending ++ back) := by rw [heq]; simp
  rcases (hleft.isSeam htag _).eq_or_eq htags with ⟨rest, htext, -⟩ | ⟨rest, hright, rfl⟩
  · exact absurd ⟨front, rest, htext.symm⟩ (hleft.not_isInfix htag)
  · have hle := hfirst rest _ back hfound (by rw [hright]; simp)
    simp only [List.length_append]
    omega

/-- A closing sequence around a gap of blanks has its first tag at the end of what stands in front
of the gap, but for blanks. -/
theorem hasClosing_append_lineEnd (htag : IsTag tag) (hending : IsTag ending) {gap : Text}
    (hgap : ∀ c ∈ gap, isBlank c = true)
    (h : HasClosing tag ending (left ++ '\n' :: gap ++ right)) :
    HasClosing tag ending left ∨ HasClosing tag ending right ∨
      ∃ front blanks, (∀ c ∈ blanks, isBlank c = true) ∧ left = front ++ tag ++ blanks := by
  obtain ⟨front, found, back, ⟨blanks, hblanks, rfl⟩, heq⟩ := h
  have hgap' : '<' ∉ '\n' :: gap := by
    rw [List.mem_cons, not_or]
    exact ⟨by decide, lt_notMem_of_isBlank hgap⟩
  have htags : left ++ '\n' :: (gap ++ right) = front ++ tag ++ (blanks ++ (ending ++ back)) := by
    simpa using heq
  rcases (htag.isSeam_lineEnd left (gap ++ right)).eq_or_eq htags with
    ⟨rest, hleft, hrest⟩ | ⟨rest, hright, -⟩
  · rw [← List.append_assoc blanks] at hrest
    rcases (hending.isSeam_lineEnd rest (gap ++ right)).eq_or_eq hrest.symm with
      ⟨tail, hinside, -⟩ | ⟨tail, -, hbehind⟩
    · exact Or.inl ⟨front, tag ++ blanks ++ ending, tail, ⟨blanks, hblanks, rfl⟩,
        by simp [hleft, hinside]⟩
    · refine Or.inr (Or.inr ⟨front, rest, fun c hc => hblanks c ?_, hleft⟩)
      rw [hbehind]
      exact List.mem_append_left tail hc
  · refine Or.inr (Or.inl ?_)
    rw [← hasClosing_append_iff_of_isClear htag (isClear_of_notMem hgap')]
    exact ⟨rest, tag ++ blanks ++ ending, back, ⟨blanks, hblanks, rfl⟩, by simpa using hright⟩

end Text

end SiteWeave
