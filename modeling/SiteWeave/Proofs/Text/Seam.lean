import SiteWeave.Text.Search
import Mathlib.Data.List.Infix

/-!
# Occurrences where texts meet

Where two texts are set side by side, an occurrence of a third one may begin in the first and end in
the second. A token is a text whose shape rules this out at the places where pages are cut: it has
no line end, an opening angle bracket only at its start, a closing one only at its end, and it does
not start with an indent. The comments, tags and attributes that the build looks for are tokens.

## Main definitions

* `Text.IsSeam`: no occurrence of a text crosses from one text into another.
* `Text.IsToken`: the shape of a token.
* `Text.Fits`: a text set between two others makes and breaks no token.
* `Text.IsFollowed`: an occurrence of one text with an occurrence of another somewhere behind it.

## Main results

* `Text.IsSeam.eq_or_eq`: an occurrence in two texts side by side lies in one of them.
* `Text.Fits.infix_iff`, `Text.Fits.isFollowed_iff`: what an inserted text adds.
-/

namespace SiteWeave

namespace Text

variable {needle closer left inserted right : Text}

/-! ### Seams -/

/-- No occurrence of `needle` begins in `left` and ends in `right`. -/
def IsSeam (needle left right : Text) : Prop :=
  ∀ head tail, head ≠ [] → tail ≠ [] → needle = head ++ tail → head <:+ left → ¬ tail <+: right

namespace IsSeam

theorem nil_left (needle right : Text) : IsSeam needle [] right :=
  fun _ _ hhead _ _ hsuffix => absurd (List.suffix_nil.1 hsuffix) hhead

theorem nil_right (needle left : Text) : IsSeam needle left [] :=
  fun _ _ _ htail _ _ hbegins => htail (List.prefix_nil.1 hbegins)

theorem of_isSuffix {front : Text} (h : IsSeam needle left right) (hfront : front <:+ left) :
    IsSeam needle front right :=
  fun head tail hhead htail heq hsuffix => h head tail hhead htail heq (hsuffix.trans hfront)

theorem of_isPrefix {back : Text} (h : IsSeam needle left right) (hback : back <+: right) :
    IsSeam needle left back :=
  fun head tail hhead htail heq hends hbegins =>
    h head tail hhead htail heq hends (hbegins.trans hback)

/-- What crosses neither end of `middle` does not reach from `left` over it. -/
theorem append_right {middle : Text} (h : IsSeam needle left middle)
    (hmiddle : IsSeam needle (left ++ middle) right) : IsSeam needle left (middle ++ right) := by
  rintro head tail hhead htail rfl hends hbegins
  rcases List.prefix_or_prefix_of_prefix hbegins (List.prefix_append middle right) with
    hshort | ⟨rest, rfl⟩
  · exact h head tail hhead htail rfl hends hshort
  · cases rest with
    | nil => exact h head _ hhead htail rfl hends (by simp)
    | cons c rest =>
      obtain ⟨front, rfl⟩ := hends
      exact hmiddle (head ++ middle) (c :: rest) (by simp [hhead]) (by simp)
        (List.append_assoc _ _ _).symm ⟨front, by simp⟩ ((List.prefix_append_right_inj _).1 hbegins)

/-- What crosses neither end of `middle` does not reach over it into `right`. -/
theorem append_left {middle : Text} (h : IsSeam needle middle right)
    (hmiddle : IsSeam needle left (middle ++ right)) : IsSeam needle (left ++ middle) right := by
  rintro head tail hhead htail rfl hends hbegins
  rcases List.suffix_or_suffix_of_suffix hends (List.suffix_append left middle) with
    hshort | ⟨front, rfl⟩
  · exact h head tail hhead htail rfl hshort hbegins
  · cases front with
    | nil => exact h _ tail hhead htail rfl (by simp) hbegins
    | cons c front =>
      obtain ⟨rest, rfl⟩ := hbegins
      exact hmiddle (c :: front) (middle ++ tail) (by simp) (by simp [htail])
        (List.append_assoc _ _ _) (List.suffix_append_self_iff.1 hends) ⟨rest, by simp⟩

theorem infix_append_iff (h : IsSeam needle left right) :
    needle <:+: left ++ right ↔ needle <:+: left ∨ needle <:+: right := by
  rw [List.infix_append_iff_ne_nil, ← or_assoc, or_iff_left]
  rintro ⟨head, tail, hhead, htail, heq, hsuffix, hbegins⟩
  exact h head tail hhead htail heq hsuffix hbegins

/-- An occurrence in two texts side by side lies in one of them. -/
theorem eq_or_eq (h : IsSeam needle left right) {front back : Text}
    (heq : left ++ right = front ++ needle ++ back) :
    (∃ rest, left = front ++ needle ++ rest ∧ back = rest ++ right) ∨
      ∃ rest, right = rest ++ needle ++ back ∧ front = left ++ rest := by
  rw [List.append_assoc] at heq
  rcases List.append_eq_append_iff.1 heq with ⟨rest, rfl, rfl⟩ | ⟨head, rfl, hrest⟩
  · exact Or.inr ⟨rest, by rw [List.append_assoc], rfl⟩
  · rcases List.append_eq_append_iff.1 hrest with ⟨rest, rfl, rfl⟩ | ⟨tail, rfl, rfl⟩
    · exact Or.inl ⟨rest, by rw [List.append_assoc], rfl⟩
    · -- The occurrence is `head ++ tail`; the seam leaves only the cuts at its two ends.
      by_cases hhead : head = []
      · exact Or.inr ⟨[], by simp [hhead], by simp [hhead]⟩
      · by_cases htail : tail = []
        · exact Or.inl ⟨[], by simp [htail], by simp [htail]⟩
        · exact absurd (List.prefix_append tail back)
            (h head tail hhead htail rfl (List.suffix_append front head))

end IsSeam

/-! ### Tokens -/

/-- The shape of the texts that the build looks for in a page. -/
structure IsToken (token : Text) : Prop where
  ne_nil : token ≠ []
  lineEnd_notMem : '\n' ∉ token
  lt_notMem_tail : '<' ∉ token.tail
  gt_notMem_dropLast : '>' ∉ token.dropLast
  head_ne_space : token.head? ≠ some ' '
  head_ne_tab : token.head? ≠ some '\t'

namespace IsToken

variable {token : Text}

theorem isSeam_lt (h : IsToken token) (left right : Text) : IsSeam token left ('<' :: right) := by
  rintro (_ | ⟨c, head⟩) (_ | ⟨d, tail⟩) hhead htail rfl - hbegins
  · exact hhead rfl
  · exact hhead rfl
  · exact htail rfl
  · obtain ⟨rfl, -⟩ := List.cons_prefix_cons.1 hbegins
    exact h.lt_notMem_tail (by simp)

theorem isSeam_lineEnd (h : IsToken token) (left right : Text) :
    IsSeam token left ('\n' :: right) := by
  rintro head (_ | ⟨d, tail⟩) - htail rfl - hbegins
  · exact htail rfl
  · obtain ⟨rfl, -⟩ := List.cons_prefix_cons.1 hbegins
    exact h.lineEnd_notMem (by simp)

theorem isSeam_gt (h : IsToken token) (left right : Text) :
    IsSeam token (left ++ ['>']) right := by
  rintro head tail hhead htail rfl hsuffix -
  rcases List.suffix_concat_iff.1 hsuffix with rfl | ⟨front, rfl, -⟩
  · exact hhead rfl
  · refine h.gt_notMem_dropLast ?_
    rw [List.dropLast_append_of_ne_nil htail]
    simp

/-- A token does not begin in an indent. -/
theorem isSeam_of_indent (h : IsToken token) {indent : Text}
    (hindent : ∀ c ∈ indent, c = ' ' ∨ c = '\t') (right : Text) : IsSeam token indent right := by
  rintro (_ | ⟨c, head⟩) tail hhead - rfl hends -
  · exact hhead rfl
  · rcases hindent c (hends.subset List.mem_cons_self) with rfl | rfl
    · exact h.head_ne_space rfl
    · exact h.head_ne_tab rfl

theorem not_infix_indent (h : IsToken token) {indent : Text}
    (hindent : ∀ c ∈ indent, c = ' ' ∨ c = '\t') : ¬ token <:+: indent := by
  obtain ⟨c, inner, rfl⟩ := List.exists_cons_of_ne_nil h.ne_nil
  intro hoccurs
  rcases hindent c (hoccurs.subset List.mem_cons_self) with rfl | rfl
  · exact h.head_ne_space rfl
  · exact h.head_ne_tab rfl

theorem infix_cons_lineEnd_iff (h : IsToken token) (text : Text) :
    token <:+: '\n' :: text ↔ token <:+: text := by
  obtain ⟨c, inner, rfl⟩ := List.exists_cons_of_ne_nil h.ne_nil
  rw [List.infix_cons_iff, or_iff_right]
  intro hbegins
  obtain ⟨rfl, -⟩ := List.cons_prefix_cons.1 hbegins
  exact h.lineEnd_notMem List.mem_cons_self

/-- A token does not begin in a line end with an indent behind it. -/
theorem isSeam_indent (h : IsToken token) (left right : Text) {indent : Text}
    (hindent : ∀ c ∈ indent, c = ' ' ∨ c = '\t') :
    IsSeam token (left ++ '\n' :: indent) right := by
  rintro (_ | ⟨c, head⟩) tail hhead - rfl hsuffix -
  · exact hhead rfl
  · rcases List.suffix_or_suffix_of_suffix hsuffix (List.suffix_append left ('\n' :: indent))
      with hshort | hlong
    · rcases List.suffix_cons_iff.1 hshort with heq | hin
      · obtain ⟨rfl, -⟩ := List.cons.inj heq
        exact h.lineEnd_notMem (by simp)
      · rcases hindent c (hin.subset List.mem_cons_self) with rfl | rfl
        · exact h.head_ne_space rfl
        · exact h.head_ne_tab rfl
    · exact h.lineEnd_notMem (List.mem_append_left tail (hlong.subset List.mem_cons_self))

end IsToken

/-! ### One text behind another -/

/-- Some occurrence of `needle` has an occurrence of `closer` behind it. -/
def IsFollowed (needle closer text : Text) : Prop :=
  ∃ front back, text = front ++ needle ++ back ∧ closer <:+: back

theorem IsFollowed.infix_left {text : Text} (h : IsFollowed needle closer text) :
    needle <:+: text := by
  obtain ⟨front, back, rfl, -⟩ := h
  exact ⟨front, back, rfl⟩

theorem isFollowed_append_iff (hneedle : IsSeam needle left right)
    (hcloser : IsSeam closer left right) :
    IsFollowed needle closer (left ++ right) ↔
      IsFollowed needle closer left ∨ (needle <:+: left ∧ closer <:+: right) ∨
        IsFollowed needle closer right := by
  constructor
  · rintro ⟨front, back, heq, hback⟩
    rcases hneedle.eq_or_eq heq with ⟨rest, hleft, rfl⟩ | ⟨rest, hright, -⟩
    · have hrest : IsSeam closer rest right :=
        hcloser.of_isSuffix (hleft ▸ List.suffix_append _ rest)
      rcases hrest.infix_append_iff.1 hback with h | h
      · exact Or.inl ⟨front, rest, hleft, h⟩
      · exact Or.inr (Or.inl ⟨⟨front, rest, hleft.symm⟩, h⟩)
    · exact Or.inr (Or.inr ⟨rest, back, hright, hback⟩)
  · rintro (⟨front, back, rfl, hback⟩ | ⟨⟨front, back, rfl⟩, hright⟩ | ⟨front, back, rfl, hback⟩)
    · exact ⟨front, back ++ right, by simp, List.infix_append_of_infix_left hback⟩
    · exact ⟨front, back ++ right, by simp, List.infix_append_of_infix_right hright⟩
    · exact ⟨left ++ front, back, by simp, hback⟩

/-! ### Insertions -/

/-- No token crosses the place between `left` and `right`, nor either end of `inserted` when it is
set between them. -/
structure Fits (left inserted right : Text) : Prop where
  isSeam : ∀ {token}, IsToken token → IsSeam token left right
  isSeam_front : ∀ {token}, IsToken token → IsSeam token left (inserted ++ right)
  isSeam_back : ∀ {token}, IsToken token → IsSeam token inserted right

namespace Fits

variable {token : Text}

theorem infix_iff (h : Fits left inserted right) (htoken : IsToken token) :
    token <:+: left ++ (inserted ++ right) ↔ token <:+: left ++ right ∨ token <:+: inserted := by
  rw [(h.isSeam_front htoken).infix_append_iff, (h.isSeam_back htoken).infix_append_iff,
    (h.isSeam htoken).infix_append_iff]
  tauto

/-- Set between two texts, a text without `needle` gives occurrences of `needle` in front of it the
occurrences of `closer` that it has, and nothing more. -/
theorem isFollowed_iff (h : Fits left inserted right) (hneedle : IsToken needle)
    (hcloser : IsToken closer) (hnot : ¬ needle <:+: inserted) :
    IsFollowed needle closer (left ++ (inserted ++ right)) ↔
      IsFollowed needle closer (left ++ right) ∨ needle <:+: left ∧ closer <:+: inserted := by
  have hinserted : ¬ IsFollowed needle closer inserted := fun hf => hnot hf.infix_left
  rw [isFollowed_append_iff (h.isSeam_front hneedle) (h.isSeam_front hcloser),
    isFollowed_append_iff (h.isSeam_back hneedle) (h.isSeam_back hcloser),
    isFollowed_append_iff (h.isSeam hneedle) (h.isSeam hcloser),
    (h.isSeam_back hcloser).infix_append_iff]
  tauto

end Fits

end Text

end SiteWeave
