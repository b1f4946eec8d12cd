import SiteWeave.Proofs.Page.Interior
import Mathlib.Data.List.TakeWhile

/-!
# Insertions into a page

The build inserts in front of a closing tag outside the regions, or in front of the line that such a
tag stands on. These places are seams, and what is inserted begins and ends at seams as well. So an
insertion adds the tokens that it brings to the outline of the page, and changes nothing else in it.

## Main definitions

* `Place.Fits`: an insertion at a place makes and breaks no token.
* `Place.IsBefore`: a place in front of a tag outside the regions.

## Main results

* `Place.Fits.infix_outline_iff`, `Place.Fits.isInert_iff`, `Place.Fits.isIntact`: what an insertion
  does to the outline.
* `Page.firstPlace?_eq_none_iff`, `Page.lastPlace?_eq_none_iff`: when a tag has no place.
* `Page.exists_insertFooterLine_eq`: the footer links are inserted as a line of text that fits.
-/

namespace SiteWeave

open Text

/-! ### Landmarks of the build -/

theorem isLandmark_footerClose : IsLandmark footerClose :=
  ⟨⟨by decide, by decide, by decide, by decide, by decide, by decide⟩, fun kind => by
    rw [← contains_eq_true_iff]; cases kind <;> decide⟩

theorem isLandmark_bodyClose : IsLandmark bodyClose :=
  ⟨⟨by decide, by decide, by decide, by decide, by decide, by decide⟩, fun kind => by
    rw [← contains_eq_true_iff]; cases kind <;> decide⟩

theorem isLandmark_footerLinksId : IsLandmark footerLinksId :=
  ⟨⟨by decide, by decide, by decide, by decide, by decide, by decide⟩, fun kind => by
    rw [← contains_eq_true_iff]; cases kind <;> decide⟩

theorem isLandmark_cookieConsentId : IsLandmark cookieConsentId :=
  ⟨⟨by decide, by decide, by decide, by decide, by decide, by decide⟩, fun kind => by
    rw [← contains_eq_true_iff]; cases kind <;> decide⟩

/-! ### Insertions that fit -/

namespace Place

variable {place : Place} {inserted : Page} {kind : RegionKind} {body token : Text}

/-- No token crosses the place, nor either end of what is inserted there. -/
def Fits (place : Place) (inserted : Page) : Prop :=
  Text.Fits (place.before.outline ++ place.left) inserted.outline
    (place.right ++ place.after.outline)

theorem outline_page (place : Place) : place.page.outline =
    place.before.outline ++ place.left ++ (place.right ++ place.after.outline) := by
  simp [page]

theorem outline_insert (place : Place) (inserted : Page) : (place.insert inserted).outline =
    place.before.outline ++ place.left ++
      (inserted.outline ++ (place.right ++ place.after.outline)) := by
  simp [insert]

theorem region_mem_ofText {content : Text} : .region kind body ∉ Page.ofText content := by
  by_cases h : content = []
  · simp [h]
  · simp [Page.ofText_of_ne_nil h]

theorem region_mem_insert : .region kind body ∈ place.insert inserted ↔
    .region kind body ∈ place.page ∨ .region kind body ∈ inserted := by
  simp only [insert, page, List.mem_append, List.mem_cons, reduceCtorEq, false_or,
    region_mem_ofText, or_false]
  tauto

/-- Text in front of the place stays a text of the page, cut short at the place. -/
theorem exists_text_mem_insert {content : Text} (hseam : IsSeam token place.left place.right)
    (hmem : .text content ∈ place.page) (hoccurs : token <:+: content) (hne : token ≠ []) :
    ∃ next, .text next ∈ place.insert inserted ∧ token <:+: next := by
  simp only [page, List.mem_append, List.mem_cons, Segment.text.injEq] at hmem
  rcases hmem with hbefore | rfl | hafter
  · exact ⟨content, by simp [insert, hbefore], hoccurs⟩
  · rcases hseam.infix_append_iff.1 hoccurs with hleft | hright
    · exact ⟨place.left, by simp [insert, Page.ofText_of_ne_nil (hleft.ne_nil hne)], hleft⟩
    · exact ⟨place.right, by simp [insert, Page.ofText_of_ne_nil (hright.ne_nil hne)], hright⟩
  · exact ⟨content, by simp [insert, hafter], hoccurs⟩

namespace Fits

theorem infix_outline_iff (h : place.Fits inserted) (htoken : IsToken token) :
    token <:+: (place.insert inserted).outline ↔
      token <:+: place.page.outline ∨ token <:+: inserted.outline := by
  rw [outline_insert, outline_page, Text.Fits.infix_iff h htoken]

/-- An insertion without begin markers keeps a page inert exactly when no end marker that it brings
closes a begin marker in front of it. -/
theorem isInert_iff (h : place.Fits inserted)
    (hbegin : ∀ kind : RegionKind, ¬ kind.beginMarker <:+: inserted.outline) :
    (place.insert inserted).IsInert ↔ place.page.IsInert ∧
      ∀ kind : RegionKind, kind.endMarker <:+: inserted.outline →
        ¬ kind.beginMarker <:+: place.before.outline ++ place.left := by
  rw [Page.IsInert, Page.IsInert, ← forall_and]
  refine forall_congr' fun kind => ?_
  rw [outline_insert, outline_page, Text.Fits.isFollowed_iff h kind.isToken_beginMarker
    kind.isToken_endMarker (hbegin kind)]
  tauto

theorem isIntact (h : place.Fits inserted) (hpage : place.page.IsIntact)
    (hinserted : inserted.IsIntact) : (place.insert inserted).IsIntact := by
  intro landmark hlandmark hoccurs
  rcases (h.infix_outline_iff hlandmark.toIsToken).1 hoccurs with hoccurs | hoccurs
  · obtain ⟨content, hmem, hcontent⟩ := hpage landmark hlandmark hoccurs
    have hseam : IsSeam landmark place.left place.right :=
      ((h.isSeam hlandmark.toIsToken).of_isSuffix (List.suffix_append _ place.left)).of_isPrefix
        (List.prefix_append place.right _)
    exact exists_text_mem_insert hseam hmem hcontent hlandmark.ne_nil
  · obtain ⟨content, hmem, hcontent⟩ := hinserted landmark hlandmark hoccurs
    exact ⟨content, by simp [insert, hmem], hcontent⟩

/-- In front of a tag there is room for anything that begins with a tag or a line end. -/
theorem of_lt {c : Char} {first rest : Text} (hright : place.right = '<' :: rest)
    (hinserted : inserted.outline = c :: first) (hc : c = '<' ∨ c = '\n') :
    place.Fits inserted where
  isSeam htoken := hright ▸ htoken.isSeam_lt _ _
  isSeam_front htoken := by
    rw [hinserted]
    rcases hc with rfl | rfl
    · exact htoken.isSeam_lt _ _
    · exact htoken.isSeam_lineEnd _ _
  isSeam_back htoken := hright ▸ htoken.isSeam_lt _ _

end Fits

/-! ### Places in front of a tag -/

/-- The place is in front of an occurrence of the tag in a text of the page. -/
structure IsBefore (place : Place) (tag : Text) (page : Page) : Prop where
  page_eq : place.page = page
  exists_right_eq : ∃ rest, place.right = tag ++ rest

end Place

namespace Page

variable {tag : Text} {page : Page} {place : Place}

theorem isBefore_of_firstPlace? (h : firstPlace? tag page = some place) :
    place.IsBefore tag page := by
  refine ⟨eq_page_of_firstPlace? h, ?_⟩
  induction page generalizing place with
  | nil => simp [firstPlace?] at h
  | cons segment page ih =>
    cases segment with
    | region kind body =>
      obtain ⟨inner, hinner, rfl⟩ := Option.map_eq_some_iff.1 h
      obtain ⟨rest, hrest⟩ := ih hinner
      exact ⟨rest, hrest⟩
    | text content =>
      rw [firstPlace?] at h
      split at h
      · next left rest _ =>
        obtain rfl := by simpa using h
        exact ⟨rest, rfl⟩
      · obtain ⟨inner, hinner, rfl⟩ := Option.map_eq_some_iff.1 h
        obtain ⟨rest, hrest⟩ := ih hinner
        exact ⟨rest, hrest⟩

theorem isBefore_of_lastPlace? (h : lastPlace? tag page = some place) :
    place.IsBefore tag page := by
  refine ⟨eq_page_of_lastPlace? h, ?_⟩
  induction page generalizing place with
  | nil => simp [lastPlace?] at h
  | cons segment page ih =>
    cases segment with
    | region kind body =>
      obtain ⟨inner, hinner, rfl⟩ := Option.map_eq_some_iff.1 h
      obtain ⟨rest, hrest⟩ := ih hinner
      exact ⟨rest, hrest⟩
    | text content =>
      rw [lastPlace?] at h
      split at h
      · next inner hinner =>
        obtain rfl := by simpa using h
        obtain ⟨rest, hrest⟩ := ih hinner
        exact ⟨rest, hrest⟩
      · obtain ⟨⟨left, rest⟩, -, rfl⟩ := Option.map_eq_some_iff.1 h
        exact ⟨rest, rfl⟩

theorem firstPlace?_eq_none_iff :
    firstPlace? tag page = none ↔ ∀ content, .text content ∈ page → ¬ tag <:+: content := by
  induction page with
  | nil => simp [firstPlace?]
  | cons segment page ih =>
    cases segment with
    | region kind body => simp [firstPlace?, ih]
    | text content =>
      rw [firstPlace?]
      split
      · next left rest h =>
        have hoccurs : tag <:+: content := ⟨left, rest, (eq_append_of_splitFirst? h).symm⟩
        simp [hoccurs]
      · next h => simp [ih, splitFirst?_eq_none_iff.1 h]

theorem lastPlace?_eq_none_iff :
    lastPlace? tag page = none ↔ ∀ content, .text content ∈ page → ¬ tag <:+: content := by
  induction page with
  | nil => simp [lastPlace?]
  | cons segment page ih =>
    cases segment with
    | region kind body => simp [lastPlace?, ih]
    | text content =>
      rw [lastPlace?]
      split
      · next place h =>
        have hnot : ¬ ∀ content, .text content ∈ page → ¬ tag <:+: content := by
          rw [← ih, h]
          simp
        simp only [reduceCtorEq, List.mem_cons, Segment.text.injEq, false_iff]
        exact fun hall => hnot fun next hmem => hall next (Or.inr hmem)
      · next h => simpa [splitLast?_eq_none_iff] using fun _ => ih.1 h

theorem firstPlace?_eq_none_iff_of_isIntact (hpage : page.IsIntact) (htag : IsLandmark tag) :
    firstPlace? tag page = none ↔ ¬ tag <:+: page.outline := by
  rw [firstPlace?_eq_none_iff, hpage.infix_outline_iff htag]
  simp only [not_exists, not_and]

theorem lastPlace?_eq_none_iff_of_isIntact (hpage : page.IsIntact) (htag : IsLandmark tag) :
    lastPlace? tag page = none ↔ ¬ tag <:+: page.outline := by
  rw [lastPlace?_eq_none_iff, hpage.infix_outline_iff htag]
  simp only [not_exists, not_and]

/-! ### Searching a page -/

theorem contains_eq_true_iff {needle : Text} :
    page.contains needle = true ↔
      (∃ content, .text content ∈ page ∧ needle <:+: content) ∨
        ∃ kind body, .region kind body ∈ page ∧ needle <:+: body := by
  simp only [Page.contains, List.any_eq_true, Text.contains_eq_true_iff]
  constructor
  · rintro ⟨content | ⟨kind, body⟩, hmem, hoccurs⟩
    · exact Or.inl ⟨content, hmem, hoccurs⟩
    · exact Or.inr ⟨kind, body, hmem, hoccurs⟩
  · rintro (⟨content, hmem, hoccurs⟩ | ⟨kind, body, hmem, hoccurs⟩)
    · exact ⟨.text content, hmem, hoccurs⟩
    · exact ⟨.region kind body, hmem, hoccurs⟩

theorem contains_eq_true_iff_of_isIntact {needle : Text} (hpage : page.IsIntact)
    (hneedle : IsLandmark needle) :
    page.contains needle = true ↔
      needle <:+: page.outline ∨ ∃ kind body, .region kind body ∈ page ∧ needle <:+: body := by
  rw [contains_eq_true_iff, hpage.infix_outline_iff hneedle]

/-- What no interior holds is found exactly when it stands outside the regions. -/
theorem contains_eq_true_iff_infix_outline {needle : Text} (hpage : page.IsIntact)
    (hneedle : IsLandmark needle)
    (hbodies : ∀ kind body, .region kind body ∈ page → ¬ needle <:+: body) :
    page.contains needle = true ↔ needle <:+: page.outline := by
  rw [contains_eq_true_iff_of_isIntact hpage hneedle, or_iff_left]
  rintro ⟨kind, body, hmem, hoccurs⟩
  exact hbodies kind body hmem hoccurs

/-! ### The line of the footer links -/

theorem eq_space_or_tab_of_isIndent {c : Char} (h : isIndent c = true) : c = ' ' ∨ c = '\t' := by
  simpa [isIndent] using h

/-- The last line of a text is preceded by nothing or by a line end. -/
theorem exists_append_lastLine (content : Text) :
    ∃ above, content = above ++ lastLine content ∧
      content.take (content.length - (lastLine content).length) = above ∧
      (above = [] ∨ ∃ front, above = front ++ ['\n']) := by
  have hcut : content = (content.reverse.dropWhile (· ≠ '\n')).reverse ++ lastLine content := by
    rw [lastLine, ← List.reverse_append, List.takeWhile_append_dropWhile, List.reverse_reverse]
  refine ⟨_, hcut, ?_, ?_⟩
  · have hlen := congrArg List.length hcut
    rw [List.length_append] at hlen
    rw [hlen, Nat.add_sub_cancel]
    exact (congrArg (List.take _) hcut).trans List.take_left
  · cases hrest : content.reverse.dropWhile (· ≠ '\n') with
    | nil => exact Or.inl rfl
    | cons c rest =>
      have hstop := List.head?_dropWhile_not (fun c : Char => decide (c ≠ '\n')) content.reverse
      rw [hrest] at hstop
      have hc : c = '\n' := by simpa using hstop
      exact Or.inr ⟨rest.reverse, by simp [hc]⟩

/-- A token in front of the first text of a page, or in front of a text behind a region, does not
reach into it. -/
theorem isSeam_outline_before {token : Text} (htoken : IsToken token) {before after : Page}
    {content : Text} (h : HasTextsApart (before ++ .text content :: after)) (right : Text) :
    IsSeam token before.outline right := by
  rcases List.eq_nil_or_concat' before with rfl | ⟨front, segment, rfl⟩
  · exact IsSeam.nil_left token right
  · cases segment with
    | text old =>
      have hchain := h.texts_apart
      rw [List.append_assoc, List.singleton_append] at hchain
      have hpair := (List.isChain_append_cons_cons.1 hchain).2.1
      simp [Segment.isText] at hpair
    | region kind body =>
      obtain ⟨inner, heq⟩ := kind.exists_endMarker_eq_append
      rw [outline_append, outline_cons_region, outline_nil, List.append_nil, heq,
        ← List.append_assoc]
      exact htoken.isSeam_gt _ right

/-- A token in an indented line of text is a token of the text. -/
theorem infix_indented_iff {token indent : Text} (htoken : IsToken token)
    (hindent : ∀ c ∈ indent, c = ' ' ∨ c = '\t') {links tail : Text}
    (htail : ∀ c ∈ tail, c = ' ' ∨ c = '\t') :
    token <:+: indent ++ (links ++ '\n' :: tail) ↔ token <:+: links := by
  rw [(htoken.isSeam_of_indent hindent _).infix_append_iff,
    or_iff_right (htoken.not_infix_indent hindent),
    (htoken.isSeam_lineEnd links tail).infix_append_iff, htoken.infix_cons_lineEnd_iff,
    or_iff_left (htoken.not_infix_indent htail)]

/-- The footer links are inserted as one text that fits, with no token but those of the links. -/
theorem exists_insertFooterLine_eq (links : Text) {place : Place} {rest : Text}
    (hright : place.right = '<' :: rest) (hpage : HasTextsApart place.page) :
    ∃ (target : Place) (line : Text), insertFooterLine links place = target.insert [.text line] ∧
      target.page = place.page ∧ target.Fits [.text line] ∧
      ∀ token, IsToken token → (token <:+: line ↔ token <:+: links) := by
  have hindent : ∀ c ∈ (lastLine place.left).takeWhile isIndent, c = ' ' ∨ c = '\t' :=
    fun c hc => eq_space_or_tab_of_isIndent (List.mem_takeWhile_imp hc)
  have hwide : ∀ c ∈ (lastLine place.left).takeWhile isIndent ++ "  ".toList,
      c = ' ' ∨ c = '\t' := by
    intro c hc
    rcases List.mem_append.1 hc with hc | hc
    · exact hindent c hc
    · exact Or.inl (by simpa using hc)
  by_cases hline : (lastLine place.left).takeWhile isIndent = lastLine place.left
  · -- The tag starts its line, and the place moves up to the start of the line.
    obtain ⟨above, hleft, htake, habove⟩ := exists_append_lastLine place.left
    have hseam {token : Text} (htoken : IsToken token) (right : Text) :
        IsSeam token (place.before.outline ++ above) right := by
      rcases habove with rfl | ⟨front, rfl⟩
      · rw [List.append_nil]
        exact isSeam_outline_before htoken hpage right
      · rw [← List.append_assoc]
        exact htoken.isSeam_indent _ right (by simp)
    refine ⟨⟨place.before, above, lastLine place.left ++ place.right, place.after⟩,
      (lastLine place.left).takeWhile isIndent ++ "  ".toList ++ links ++ ['\n'], ?_, ?_,
      ⟨fun htoken => hseam htoken _, fun htoken => hseam htoken _, fun htoken => ?_⟩,
      fun token htoken => ?_⟩
    · rw [insertFooterLine, if_pos hline, htake]
    · rw [Place.page, Place.page, ← List.append_assoc, ← hleft]
    · rw [outline_cons_text, outline_nil, List.append_nil]
      exact htoken.isSeam_indent _ _ (by simp)
    · rw [List.append_assoc]
      exact infix_indented_iff htoken hwide (by simp)
  · refine ⟨place, '\n' :: ((lastLine place.left).takeWhile isIndent ++ "  ".toList ++ links ++
      '\n' :: (lastLine place.left).takeWhile isIndent),
      by rw [insertFooterLine, if_neg hline]; rfl, rfl,
      Place.Fits.of_lt hright (by rw [outline_cons_text]; rfl) (Or.inr rfl),
      fun token htoken => ?_⟩
    rw [htoken.infix_cons_lineEnd_iff, List.append_assoc]
    exact infix_indented_iff htoken hwide hindent

end Page

end SiteWeave
