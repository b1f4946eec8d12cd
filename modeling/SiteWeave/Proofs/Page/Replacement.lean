import SiteWeave.Proofs.Page.Settled

/-!
# Replacing text in a page

A stretch of text outside the regions can be replaced without a run taking notice: if the old and
the new text hold nothing that a run looks for, and no token crosses their ends, then the page is
read with the same regions as before, and what was there to be found is found, and nothing else. Two
stretches of text that lie apart can be replaced one after the other.

## Main definitions

* `Text.IsNeutral`: a text that holds nothing that a run looks for.
* `Text.IsCut`: brackets at both ends of a text that no token crosses.
* `Place.withText`: a page with a text set at a place.
* `Page.HasTextAt`: a text outside the regions of a page, behind a given text.

## Main results

* `Page.IsCanonical.replace`: the segments of a page with a text replaced.
* `Page.IsBuilt.withText`: a page that a run leaves alone stays one.
* `Page.HasTextAt.exists_places`: two texts that lie apart are replaced one after the other.
-/

namespace SiteWeave

namespace Text

variable {token left old new text right front back part : Text}

/-! ### Texts between brackets -/

/-- The text holds nothing that a run looks for. -/
structure IsNeutral (text : Text) : Prop where
  isMarkerFree : text.IsMarkerFree
  landmark_not_isInfix : ∀ landmark ∈ runLandmarks, ¬ landmark <:+: text

/-- At the front of the text a bracket opens or one is closed in front of it, and at its end a
bracket is closed or one opens behind it. -/
structure IsCut (left text right : Text) : Prop where
  front : text.head? = some '<' ∨ left.getLast? = some '>'
  back : text.getLast? = some '>' ∨ right.head? = some '<'

namespace IsCut

theorem isSeam_front (h : IsCut left text right) (htoken : IsToken token)
    (hpart : part <:+ front ++ left) (more : Text) : IsSeam token part (text ++ more) := by
  rcases h.front with hhead | hlast
  · obtain ⟨inner, rfl⟩ := List.head?_eq_some_iff.1 hhead
    exact htoken.isSeam_lt part (inner ++ more)
  · obtain ⟨inner, rfl⟩ := List.getLast?_eq_some_iff.1 hlast
    rw [← List.append_assoc] at hpart
    exact (htoken.isSeam_gt (front ++ inner) _).of_isSuffix hpart

theorem isSeam_back (h : IsCut left text right) (htoken : IsToken token) (more : Text) :
    IsSeam token text (right ++ more) := by
  rcases h.back with hlast | hhead
  · obtain ⟨inner, rfl⟩ := List.getLast?_eq_some_iff.1 hlast
    exact htoken.isSeam_gt inner _
  · obtain ⟨inner, rfl⟩ := List.head?_eq_some_iff.1 hhead
    exact htoken.isSeam_lt text (inner ++ more)

theorem infix_iff (h : IsCut left text right) (htoken : IsToken token)
    (hpart : part <:+ front ++ left) (back : Text) :
    token <:+: part ++ (text ++ (right ++ back)) ↔
      token <:+: part ∨ token <:+: text ∨ token <:+: right ++ back := by
  rw [(h.isSeam_front htoken hpart _).infix_append_iff, (h.isSeam_back htoken _).infix_append_iff]

/-- What neither of two texts holds stands around the one where it stands around the other. -/
theorem infix_congr (hold : IsCut left old right) (hnew : IsCut left new right)
    (htoken : IsToken token) (hnotOld : ¬ token <:+: old) (hnotNew : ¬ token <:+: new)
    (front back : Text) :
    token <:+: front ++ left ++ (new ++ (right ++ back)) ↔
      token <:+: front ++ left ++ (old ++ (right ++ back)) := by
  rw [hnew.infix_iff htoken List.suffix_rfl, hold.infix_iff htoken List.suffix_rfl,
    or_iff_right hnotNew, or_iff_right hnotOld]

/-- What the new text does not hold stood around the old one already. -/
theorem infix_of_infix (hold : IsCut left old right) (hnew : IsCut left new right)
    (htoken : IsToken token) (hnot : ¬ token <:+: new) (hpart : part <:+ front ++ left)
    (h : token <:+: part ++ (new ++ (right ++ back))) :
    token <:+: part ++ (old ++ (right ++ back)) := by
  rw [hnew.infix_iff htoken hpart, or_iff_right hnot] at h
  rw [hold.infix_iff htoken hpart]
  exact h.imp_right Or.inr

end IsCut

end Text

open Text

namespace Page

variable {f : PageFragments} {page before after : Page} {left old new right content : Text}

/-! ### The segments of the page -/

theorem isText_head?_replace (h : ∀ segment ∈ (before ++ .text old :: after).head?,
    segment.isText = false) (new : Text) :
    ∀ segment ∈ (before ++ .text new :: after).head?, segment.isText = false := by
  cases before with
  | nil => exact absurd (h (.text old) rfl) (by simp [Segment.isText])
  | cons segment before => exact h

/-- A text without markers between brackets does not change how the page is read around it. -/
theorem IsCanonical.replace (h : IsCanonical (before ++ .text (left ++ (old ++ right)) :: after))
    (hold : IsCut left old right) (hnew : IsCut left new right) (hfree : new.IsMarkerFree)
    (hne : new ≠ []) : IsCanonical (before ++ .text (left ++ (new ++ right)) :: after) := by
  induction before with
  | nil =>
    obtain ⟨-, hhead, hunpaired, hafter⟩ := isCanonical_cons_text.1 h
    refine isCanonical_cons_text.2 ⟨by simp [hne], hhead, fun kind l r hcontent hend => ?_, hafter⟩
    have hbegin := kind.isToken_beginMarker
    rcases (hnew.isSeam_front hbegin (List.suffix_append [] left) right).eq_or_eq hcontent with
      ⟨rest, hleft, rfl⟩ | ⟨rest, hmiddle, rfl⟩
    · -- The begin marker is in front of the text.
      refine hunpaired kind l (rest ++ (old ++ right)) (by simp [hleft]) ?_
      rw [List.append_assoc, List.append_assoc] at hend ⊢
      have hrest : rest <:+ [] ++ left := ⟨l ++ kind.beginMarker, hleft.symm⟩
      exact hold.infix_of_infix hnew kind.isToken_endMarker (hfree kind).2 hrest hend
    · have hback := hnew.isSeam_back hbegin []
      rw [List.append_nil] at hback
      rcases hback.eq_or_eq hmiddle with ⟨inner, htext, -⟩ | ⟨inner, hright, -⟩
      · exact (hfree kind).1 ⟨rest, inner, htext.symm⟩
      · exact hunpaired kind (left ++ (old ++ inner)) r (by simp [hright]) hend
  | cons segment before ih =>
    cases segment with
    | region kind body =>
      obtain ⟨hbody, hpage⟩ := isCanonical_cons_region.1 h
      exact isCanonical_cons_region.2 ⟨hbody, ih hpage⟩
    | text content =>
      obtain ⟨hcontent, hhead, hunpaired, hpage⟩ := isCanonical_cons_text.1 h
      refine isCanonical_cons_text.2 ⟨hcontent, isText_head?_replace hhead _,
        fun kind l r heq hend => hunpaired kind l r heq ?_, ih hpage⟩
      have hrender (text : Text) :
          r ++ render (before ++ .text (left ++ (text ++ right)) :: after) =
            r ++ render before ++ left ++ (text ++ (right ++ render after)) := by
        simp [Segment.render]
      change kind.endMarker <:+: r ++ render (before ++ _ :: after) at hend
      change kind.endMarker <:+: r ++ render (before ++ _ :: after)
      rw [hrender] at hend ⊢
      exact hold.infix_of_infix hnew kind.isToken_endMarker (hfree kind).2 List.suffix_rfl hend

end Page

/-! ### A text at a place -/

/-- The page with a text set at the place. -/
def Place.withText (place : Place) (text : Text) : Page :=
  place.before ++ .text (place.left ++ (text ++ place.right)) :: place.after

namespace Page

variable {f : PageFragments} {page : Page} {place : Place}
  {old new text front between back : Text}

theorem render_withText (place : Place) (text : Text) : (place.withText text).render =
    place.before.render ++ place.left ++ (text ++ (place.right ++ place.after.render)) := by
  simp [Place.withText, Segment.render]

theorem outline_withText (place : Place) (text : Text) : (place.withText text).outline =
    place.before.outline ++ place.left ++ (text ++ (place.right ++ place.after.outline)) := by
  simp [Place.withText]

/-- **A run does not notice a replacement.** A page that a run leaves alone stays one when a text in
it that holds nothing that a run looks for is replaced by another one. -/
theorem IsBuilt.withText (h : (place.withText old).IsBuilt f)
    (hold : IsCut place.left old place.right) (hnew : IsCut place.left new place.right)
    (holdNeutral : old.IsNeutral) (hnewNeutral : new.IsNeutral) (hne : new ≠ []) :
    (place.withText new).IsBuilt f := by
  refine h.congr (h.isCanonical.replace hold hnew hnewNeutral.isMarkerFree hne)
    (fun kind body => by simp [Place.withText]) fun landmark hmem => ?_
  rw [outline_withText, outline_withText]
  exact hold.infix_congr hnew (isLandmark_of_mem_runLandmarks hmem).toIsToken
    (holdNeutral.landmark_not_isInfix landmark hmem)
    (hnewNeutral.landmark_not_isInfix landmark hmem) _ _

/-- The text stands outside the regions of the page, behind the text `front`. -/
def HasTextAt (page : Page) (front text : Text) : Prop :=
  ∃ place : Place, place.withText text = page ∧ place.before.render ++ place.left = front

/-- Two cuts of a page at a segment are the same, or the one is in front of the other. -/
theorem eq_or_exists_of_append_cons_eq {before after before' after' : Page}
    {segment other : Segment} (h : before ++ segment :: after = before' ++ other :: after') :
    (before = before' ∧ segment = other ∧ after = after') ∨
      (∃ middle, before' = before ++ segment :: middle ∧ after = middle ++ other :: after') ∨
        ∃ middle, before = before' ++ other :: middle ∧ after' = middle ++ segment :: after := by
  rcases List.append_eq_append_iff.1 h with ⟨middle, rfl, hmiddle⟩ | ⟨middle, rfl, hmiddle⟩
  · cases middle with
    | nil =>
      obtain ⟨rfl, rfl⟩ := List.cons.inj hmiddle
      exact Or.inl ⟨by simp, rfl, rfl⟩
    | cons first middle =>
      obtain ⟨rfl, rfl⟩ := List.cons.inj hmiddle
      exact Or.inr (Or.inl ⟨middle, rfl, rfl⟩)
  · cases middle with
    | nil =>
      obtain ⟨rfl, rfl⟩ := List.cons.inj hmiddle
      exact Or.inl ⟨by simp, rfl, rfl⟩
    | cons first middle =>
      obtain ⟨rfl, rfl⟩ := List.cons.inj hmiddle
      exact Or.inr (Or.inr ⟨middle, rfl, rfl⟩)

/-- A text further back in the page moves when a text in front of it is replaced. -/
theorem HasTextAt.withText
    (h : (place.withText old).HasTextAt
      (place.before.render ++ place.left ++ (old ++ between)) text) (hne : text ≠ [])
    (new : Text) : (place.withText new).HasTextAt
      (place.before.render ++ place.left ++ (new ++ between)) text := by
  obtain ⟨⟨before, left, right, after⟩, heq, hfront⟩ := h
  obtain ⟨before', left', right', after'⟩ := place
  simp only [Place.withText] at heq hfront ⊢
  rcases eq_or_exists_of_append_cons_eq heq with
    ⟨rfl, hcontent, rfl⟩ | ⟨middle, rfl, -⟩ | ⟨middle, rfl, rfl⟩
  · -- Both texts stand in one segment.
    rw [List.append_assoc, List.append_cancel_left_eq] at hfront
    subst hfront
    obtain rfl : between ++ (text ++ right) = right' := by simpa using Segment.text.inj hcontent
    exact ⟨⟨before, left' ++ (new ++ between), right, after⟩, by simp [Place.withText], by simp⟩
  · -- The text would be in front of the one that is replaced.
    have hlen := congrArg List.length hfront
    simp only [render_append, render_cons, Segment.render, List.length_append] at hlen
    exact absurd (List.length_eq_zero_iff.1 (by omega)) hne
  · have hbetween : right' ++ (render middle ++ left) = between := by
      simpa [Segment.render] using hfront
    refine ⟨⟨before' ++ .text (left' ++ (new ++ right')) :: middle, left, right, after⟩,
      by simp [Place.withText], ?_⟩
    simp [Segment.render, ← hbetween]

/-- **Two texts that lie apart are replaced one after the other.** Once the one in front is
replaced, the other one stands at a place of the new page. -/
theorem HasTextAt.exists_places (hfirst : page.HasTextAt front old)
    (hsecond : page.HasTextAt (front ++ (old ++ between)) text) (hne : text ≠ [])
    (hrender : page.render = front ++ (old ++ (between ++ (text ++ back)))) :
    ∃ place : Place, place.withText old = page ∧ ∀ new, ∃ next : Place,
      next.withText text = place.withText new ∧
        ∀ other, (next.withText other).render = front ++ (new ++ (between ++ (other ++ back))) := by
  obtain ⟨place, rfl, rfl⟩ := hfirst
  refine ⟨place, rfl, fun new => ?_⟩
  obtain ⟨next, hnext, hfront⟩ := hsecond.withText hne new
  refine ⟨next, hnext, fun other => ?_⟩
  have hplace : place.right ++ place.after.render = between ++ (text ++ back) := by
    simpa [render_withText] using hrender
  have hback : next.right ++ next.after.render = back := by
    have heq := congrArg render hnext
    rw [render_withText, render_withText, hfront, hplace] at heq
    simpa using heq
  rw [render_withText, hfront, hback]
  simp

end Page

end SiteWeave
