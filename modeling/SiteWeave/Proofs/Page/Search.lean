import SiteWeave.Proofs.Page.Cell
import SiteWeave.Proofs.Page.Run
import Mathlib.Order.Bounds.Defs

/-!
# Searches of a page and of its text

The steps of a run ask a page whether an attribute occurs in it, and where a tag occurs first or
last outside the regions. They look into one segment at a time. A search of the whole text of the
page answers the same: no token crosses a border of segments, neither in the page that a run reads
nor behind any of its steps, although the steps leave texts side by side.

A position of the text is the number of characters in front of it. An occurrence of a tag never
belongs to a region in part, so that it does not matter whether an occurrence is outside the regions
as soon as no region holds it, or only when it meets none.

## Main definitions

* `Place.position`: a place as a position of the text.
* `Page.LiesInRegion`, `Page.LiesOutside`: a stretch of the text in a region, or apart from all.
* `Page.OccursAt`: an occurrence of a tag in the text that no region holds.
* `Page.FindsOccurrences`: the searches for a tag find its occurrences in the text.
* `Page.stages`: the pages of a run, from the page that is read to the page that is written.

## Main results

* `Page.IsSeamed.occursAt_iff`: the occurrences in the text are those among the cells.
* `Page.IsSeamed.findsOccurrences`, `Page.IsSeamed.contains_eq_true_iff_infix_render`: searches of a
  page whose borders no token crosses.
* `Page.isSeamed_of_mem_stages`: no token crosses a border at any stage of a run.
* `searches_of_mem_stages`: the searches at any stage of a run.
-/

namespace SiteWeave

open Text

/-- The number of characters of the page in front of the place. -/
def Place.position (place : Place) : Nat :=
  (place.before.render ++ place.left).length

namespace Page

variable {page : Page} {place : Place} {tag front back : Text} {left right : List Cell}
  {start stop n : Nat}

/-! ### Stretches of the text -/

/-- The text between two positions lies in one region of the page, markers included. -/
def LiesInRegion (page : Page) (start stop : Nat) : Prop :=
  ∃ (before : Page) (kind : RegionKind) (body : Text) (after : Page),
    page = before ++ .region kind body :: after ∧ before.render.length ≤ start ∧
      stop ≤ before.render.length + (Segment.region kind body).render.length

/-- The text between two positions shares no character with a region of the page, markers
included. -/
def LiesOutside (page : Page) (start stop : Nat) : Prop :=
  ∀ (before : Page) (kind : RegionKind) (body : Text) (after : Page),
    page = before ++ .region kind body :: after → stop ≤ before.render.length ∨
      before.render.length + (Segment.region kind body).render.length ≤ start

/-- The tag occurs in the text of the page behind `n` characters, and no region holds this
occurrence. -/
structure OccursAt (tag : Text) (page : Page) (n : Nat) : Prop where
  exists_eq : ∃ front back, page.render = front ++ tag ++ back ∧ front.length = n
  not_liesInRegion : ¬ page.LiesInRegion n (n + tag.length)

theorem LiesInRegion.cons (h : page.LiesInRegion start stop) (segment : Segment) :
    LiesInRegion (segment :: page) (segment.render.length + start)
      (segment.render.length + stop) := by
  obtain ⟨before, kind, body, after, rfl, hstart, hstop⟩ := h
  refine ⟨segment :: before, kind, body, after, rfl, ?_, ?_⟩
  · rw [render_cons, List.length_append]
    omega
  · rw [render_cons, List.length_append]
    omega

theorem LiesOutside.not_liesInRegion (h : page.LiesOutside start stop) (hlt : start < stop) :
    ¬ page.LiesInRegion start stop := by
  rintro ⟨before, kind, body, after, heq, hstart, hstop⟩
  rcases h before kind body after heq with hle | hle
  · omega
  · omega

/-! ### Occurrences in the text and among the cells -/

/-- An occurrence among the cells is apart from the regions, as each of them is one cell. -/
theorem liesOutside_of_cells (hcells : page.cells = left ++ right) (htag : tag.cells <+: right) :
    page.LiesOutside (left.flatMap Cell.render).length
      ((left.flatMap Cell.render).length + tag.length) := by
  obtain ⟨rest, rfl⟩ := htag
  rintro before kind body after rfl
  rw [← flatMap_render_cells before]
  rw [cells_append, cells_cons_region] at hcells
  rcases List.append_eq_append_iff.1 hcells with ⟨middle, rfl, hrest⟩ | ⟨middle, heq, hrest⟩
  · -- The region stands in front of the occurrence, or the occurrence is empty.
    cases middle with
    | nil =>
      cases tag with
      | nil => simp
      | cons c tag => simp at hrest
    | cons cell middle =>
      obtain ⟨rfl, -⟩ := List.cons.inj hrest
      right
      simp [Cell.render]
  · rw [heq]
    rcases List.append_eq_append_iff.1 hrest with ⟨more, rfl, -⟩ | ⟨more, htag, hmore⟩
    · left
      simp
    · cases more with
      | nil =>
        rw [List.append_nil] at htag
        left
        simp [← htag]
      | cons cell more =>
        obtain ⟨rfl, -⟩ := List.cons.inj hmore
        have hmem : .region kind body ∈ tag.cells := by simp [htag]
        exact absurd hmem region_notMem_cells

/-- What no token crosses in the outline of a page, it does not cross in its text. -/
theorem IsSeamed.isSeam_render {token left : Text} (h : IsSeamed page) (htoken : IsToken token)
    (hleft : IsSeam token left page.outline) : IsSeam token left page.render := by
  induction page generalizing left with
  | nil => exact IsSeam.nil_right token left
  | cons segment page ih =>
    cases segment with
    | region kind body =>
      rw [render_cons, Segment.render, List.append_assoc, List.append_assoc]
      exact htoken.isSeam_beginMarker left kind _
    | text content =>
      rw [outline_cons_text] at hleft
      rw [render_cons, Segment.render]
      have hcontent := (isSeam_of_isSeamed_cons htoken h).append_left hleft
      exact (hleft.of_isPrefix (List.prefix_append _ _)).append_right (ih h.of_cons hcontent)

/-- A token in the text of a page lies in a region or stands among the cells: it crosses neither end
of a region, nor any other border of segments. -/
theorem IsSeamed.liesInRegion_or_exists_cells (h : IsSeamed page) (htag : IsToken tag)
    (heq : page.render = front ++ tag ++ back) :
    page.LiesInRegion front.length (front.length + tag.length) ∨
      ∃ left right, page.cells = left ++ right ∧ tag.cells <+: right ∧
        left.flatMap Cell.render = front := by
  induction page generalizing front with
  | nil => simp [htag.ne_nil] at heq
  | cons segment page ih =>
    have hseam : IsSeam tag segment.render (render page) := by
      cases segment with
      | text content => exact h.of_cons.isSeam_render htag (isSeam_of_isSeamed_cons htag h)
      | region kind body =>
        obtain ⟨inner, hend⟩ := kind.exists_endMarker_eq_append
        rw [Segment.render, hend, ← List.append_assoc]
        exact htag.isSeam_gt _ _
    rw [render_cons] at heq
    rcases hseam.eq_or_eq heq with ⟨rest, hsegment, -⟩ | ⟨rest, hpage, rfl⟩
    · cases segment with
      | text content =>
        right
        refine ⟨front.cells, tag.cells ++ (rest.cells ++ cells page), ?_,
          List.prefix_append _ _, Text.flatMap_render_cells front⟩
        have hcontent : content = front ++ tag ++ rest := hsegment
        simp [hcontent]
      | region kind body =>
        left
        refine ⟨[], kind, body, page, rfl, Nat.zero_le _, ?_⟩
        rw [hsegment, render_nil, List.length_append, List.length_append, List.length_nil]
        omega
    · rcases ih h.of_cons hpage with hin | ⟨left, right, hcells, hbegins, rfl⟩
      · left
        have hin := hin.cons segment
        rwa [← Nat.add_assoc, ← List.length_append] at hin
      · right
        refine ⟨segment.cells ++ left, right, ?_, hbegins, ?_⟩
        · rw [List.append_assoc, ← hcells]
          rfl
        · cases segment with
          | text content => simp [Segment.cells, Segment.render]
          | region kind body => simp [Segment.cells, Cell.render]

/-- **Occurrences in the text are occurrences among the cells.** -/
theorem IsSeamed.occursAt_iff (h : IsSeamed page) (htag : IsToken tag) : page.OccursAt tag n ↔
    ∃ left right, page.cells = left ++ right ∧ tag.cells <+: right ∧
      (left.flatMap Cell.render).length = n := by
  constructor
  · rintro ⟨⟨front, back, heq, rfl⟩, hnot⟩
    obtain ⟨left, right, hcells, hbegins, rfl⟩ :=
      (h.liesInRegion_or_exists_cells htag heq).resolve_left hnot
    exact ⟨left, right, hcells, hbegins, rfl⟩
  · rintro ⟨left, right, hcells, hbegins, rfl⟩
    have hpos := List.length_pos_iff.2 htag.ne_nil
    refine ⟨?_, (liesOutside_of_cells hcells hbegins).not_liesInRegion (by omega)⟩
    obtain ⟨rest, rfl⟩ := hbegins
    refine ⟨left.flatMap Cell.render, rest.flatMap Cell.render, ?_, rfl⟩
    rw [← flatMap_render_cells, hcells, List.flatMap_append, List.flatMap_append,
      Text.flatMap_render_cells, List.append_assoc]

/-! ### Searches for a tag -/

/-- What the searches for a tag find: the places of its first and of its last occurrence in the text
that no region holds, or nothing where there is none. Such an occurrence meets no region. -/
structure FindsOccurrences (tag : Text) (page : Page) : Prop where
  firstPlace? : ∀ place, page.firstPlace? tag = some place →
    place.page = page ∧ IsLeast {n | page.OccursAt tag n} place.position
  firstPlace?_eq_none_iff : page.firstPlace? tag = none ↔ ∀ n, ¬ page.OccursAt tag n
  lastPlace? : ∀ place, page.lastPlace? tag = some place →
    place.page = page ∧ IsGreatest {n | page.OccursAt tag n} place.position
  lastPlace?_eq_none_iff : page.lastPlace? tag = none ↔ ∀ n, ¬ page.OccursAt tag n
  liesOutside : ∀ n, page.OccursAt tag n → page.LiesOutside n (n + tag.length)

theorem flatMap_render_place (place : Place) :
    ((place.before.cells ++ place.left.cells).flatMap Cell.render).length = place.position := by
  rw [List.flatMap_append, flatMap_render_cells, Text.flatMap_render_cells, Place.position]

/-- A cut of the cells further to the front is a position further to the front. -/
theorem length_flatMap_render_le {cells others : List Cell}
    (heq : cells ++ right = left ++ others) (hle : cells.length ≤ left.length) :
    (cells.flatMap Cell.render).length ≤ (left.flatMap Cell.render).length := by
  obtain ⟨middle, rfl⟩ := List.prefix_of_prefix_length_le ⟨right, heq⟩
    (List.prefix_append left others) hle
  rw [List.flatMap_append, List.length_append]
  exact Nat.le_add_right _ _

namespace IsSeamed

theorem occursAt_position (h : IsSeamed page) (htag : IsToken tag) (hpage : place.page = page)
    (hbegins : tag.cells <+: place.right.cells ++ place.after.cells) :
    page.OccursAt tag place.position := by
  refine (h.occursAt_iff htag).2 ⟨_, _, ?_, hbegins, flatMap_render_place place⟩
  rw [← hpage, cells_page]

/-- The first place of a tag is its first occurrence in the text. -/
theorem isLeast_position (h : IsSeamed page) (htag : IsToken tag)
    (hplace : firstPlace? tag page = some place) :
    IsLeast {n | page.OccursAt tag n} place.position := by
  have hfirst := h.isFirst htag hplace
  have hpage := eq_page_of_firstPlace? hplace
  refine ⟨h.occursAt_position htag hpage hfirst.isPrefix, fun n hn => ?_⟩
  obtain ⟨left, right, hcells, hbegins, rfl⟩ := (h.occursAt_iff htag).1 hn
  rw [← hpage, cells_page] at hcells
  rw [← flatMap_render_place]
  exact length_flatMap_render_le hcells (hfirst.length_le left right hcells hbegins)

/-- The last place of a tag is its last occurrence in the text. -/
theorem isGreatest_position (h : IsSeamed page) (htag : IsToken tag)
    (hplace : lastPlace? tag page = some place) :
    IsGreatest {n | page.OccursAt tag n} place.position := by
  have hlast := h.isLast htag hplace
  have hpage := eq_page_of_lastPlace? hplace
  refine ⟨h.occursAt_position htag hpage hlast.isPrefix, fun n hn => ?_⟩
  obtain ⟨left, right, hcells, hbegins, rfl⟩ := (h.occursAt_iff htag).1 hn
  rw [← hpage, cells_page] at hcells
  rw [← flatMap_render_place]
  exact length_flatMap_render_le hcells.symm (hlast.length_le left right hcells hbegins)

/-- A tag without a place does not occur in the text outside the regions. -/
theorem lastPlace?_eq_none_iff_not_occursAt (h : IsSeamed page) (htag : IsToken tag) :
    lastPlace? tag page = none ↔ ∀ n, ¬ page.OccursAt tag n := by
  constructor
  · intro hnone n hn
    obtain ⟨left, right, hcells, hbegins, -⟩ := (h.occursAt_iff htag).1 hn
    exact h.not_isPrefix_of_lastPlace? htag hnone hcells hbegins
  · intro hnot
    cases hplace : lastPlace? tag page with
    | none => rfl
    | some place => exact absurd (h.isGreatest_position htag hplace).1 (hnot place.position)

/-- **Searches for a tag.** In a page whose borders no token crosses, the places of a tag are its
occurrences in the text outside the regions. -/
theorem findsOccurrences (h : IsSeamed page) (htag : IsToken tag) : FindsOccurrences tag page where
  firstPlace? place hplace := ⟨eq_page_of_firstPlace? hplace, h.isLeast_position htag hplace⟩
  firstPlace?_eq_none_iff := by
    rw [Page.firstPlace?_eq_none_iff, ← Page.lastPlace?_eq_none_iff,
      h.lastPlace?_eq_none_iff_not_occursAt htag]
  lastPlace? place hplace := ⟨eq_page_of_lastPlace? hplace, h.isGreatest_position htag hplace⟩
  lastPlace?_eq_none_iff := h.lastPlace?_eq_none_iff_not_occursAt htag
  liesOutside n hn := by
    obtain ⟨left, right, hcells, hbegins, rfl⟩ := (h.occursAt_iff htag).1 hn
    exact liesOutside_of_cells hcells hbegins

/-! ### Searches for an attribute -/

/-- **Searches for an attribute.** In a page whose borders no token crosses, a token that is no part
of a marker is found exactly when it occurs in the text. -/
theorem contains_eq_true_iff_infix_render {needle : Text} (h : IsSeamed page)
    (hneedle : IsLandmark needle)
    (hbegin : ∀ kind : RegionKind, ¬ needle <:+: kind.beginMarker) :
    page.contains needle = true ↔ needle <:+: page.render := by
  induction page with
  | nil => simp [Page.contains, hneedle.ne_nil]
  | cons segment page ih =>
    have hcons : contains needle (segment :: page) = true ↔
        needle <:+: segment.interior ∨ needle <:+: render page := by
      rw [← ih h.of_cons, ← Text.contains_eq_true_iff]
      simp [Page.contains]
    rw [hcons, render_cons]
    cases segment with
    | text content =>
      have hseam := h.of_cons.isSeam_render hneedle.toIsToken
        (isSeam_of_isSeamed_cons hneedle.toIsToken h)
      rw [Segment.render, hseam.infix_append_iff, Segment.interior]
    | region kind body =>
      rw [Segment.render, Segment.interior, List.append_assoc, List.append_assoc,
        (hneedle.beginMarker_isSeam kind _).infix_append_iff, or_iff_right (hbegin kind),
        (hneedle.isSeam_endMarker body kind _).infix_append_iff,
        (hneedle.endMarker_isSeam kind _).infix_append_iff,
        or_iff_right (hneedle.not_infix_endMarker kind)]

end IsSeamed

/-! ### The stages of a run -/

variable {f : PageFragments}

/-- The pages of a run: the page that is read, the pages between two steps, and the page that is
written. -/
def stages (f : PageFragments) (page : Page) : List Page :=
  [page, page.withNav f, page.withLinks f, page.withBanner f, (page.weaveAll f).1]

/-- **No token crosses a border at any stage of a run.** Every step keeps this. -/
theorem isSeamed_of_mem_stages {stage : Page} (hpage : HasTextsApart page)
    (h : stage ∈ page.stages f) : IsSeamed stage := by
  have hrun := isRun_weaveAll f hpage
  have hnav := hrun.nav.isSeamed hpage.isSeamed
  have hlinks := hrun.footerLinks.isSeamed hnav
  have hbanner := hrun.cookieConsent.isSeamed hlinks
  have hscripts := hrun.sharedScripts.isSeamed hbanner
  simp only [stages, List.mem_cons, List.not_mem_nil, or_false] at h
  rcases h with rfl | rfl | rfl | rfl | rfl
  · exact hpage.isSeamed
  · exact hnav
  · exact hlinks
  · exact hbanner
  · exact hscripts

end Page

theorem not_infix_beginMarker_of_mem {guard : Text} (h : guard ∈ [footerLinksId, cookieConsentId])
    (kind : RegionKind) : ¬ guard <:+: kind.beginMarker := by
  rw [← contains_eq_true_iff]
  rcases List.mem_pair.1 h with rfl | rfl
  · cases kind <;> decide
  · cases kind <;> decide

/-- **Searches of a page are searches of its text.** At every stage of a run, each of the two
attributes is found exactly when it occurs in the text of the page, and the places that are found
for each of the two tags are its first and its last occurrence in the text outside the regions. No
place is found exactly when there is no such occurrence. -/
theorem searches_of_mem_stages (source : Text) (f : PageFragments) {page : Page}
    (h : page ∈ (Page.parse source).stages f) :
    (∀ guard ∈ [footerLinksId, cookieConsentId],
      page.contains guard = true ↔ guard <:+: page.render) ∧
        ∀ tag ∈ [footerClose, bodyClose], page.FindsOccurrences tag := by
  have hpage := Page.isSeamed_of_mem_stages (Page.isCanonical_parse source).toHasTextsApart h
  constructor
  · intro guard hguard
    have hbegin := not_infix_beginMarker_of_mem hguard
    rcases List.mem_pair.1 hguard with rfl | rfl
    · exact hpage.contains_eq_true_iff_infix_render isLandmark_footerLinksId hbegin
    · exact hpage.contains_eq_true_iff_infix_render isLandmark_cookieConsentId hbegin
  · intro tag htag
    rcases List.mem_pair.1 htag with rfl | rfl
    · exact hpage.findsOccurrences isLandmark_footerClose.toIsToken
    · exact hpage.findsOccurrences isLandmark_bodyClose.toIsToken

/-- A page with a region for the navigation in front of its footer. -/
def twoFootersPage : Text :=
  "<!-- SITE_NAV --><!-- /SITE_NAV -->\n  </footer>\n</body>".toList

/-- Fragments that bring the end of a second footer into the navigation, and footer links. -/
def twoFootersFragments : PageFragments :=
  { nav := footerClose, footerLinks := "<a id=\"cookie-settings-btn\"></a>".toList }

/-- Behind the step for the footer links, the text of the page is cut on both sides of them. They
are found, and the first end of a footer is found behind them and not in the navigation. -/
theorem searches_of_mem_stages_twoFootersPage :
    (Page.parse twoFootersPage).withLinks twoFootersFragments ∈
        (Page.parse twoFootersPage).stages twoFootersFragments ∧
      footerLinksId <:+: ((Page.parse twoFootersPage).withLinks twoFootersFragments).render ∧
        IsLeast {n | ((Page.parse twoFootersPage).withLinks twoFootersFragments).OccursAt
          footerClose n} 86 := by
  have hmem : (Page.parse twoFootersPage).withLinks twoFootersFragments ∈
      (Page.parse twoFootersPage).stages twoFootersFragments := by
    simp [Page.stages]
  obtain ⟨hguards, htags⟩ := searches_of_mem_stages twoFootersPage twoFootersFragments hmem
  have hlinks : ((Page.parse twoFootersPage).withLinks twoFootersFragments).contains
      footerLinksId = true := by
    decide +kernel
  obtain ⟨place, hplace, hposition⟩ : ∃ place, ((Page.parse twoFootersPage).withLinks
      twoFootersFragments).firstPlace? footerClose = some place ∧ place.position = 86 :=
    Option.map_eq_some_iff.1 (by decide +kernel)
  have hfirst := ((htags footerClose List.mem_cons_self).firstPlace? place hplace).2
  rw [hposition] at hfirst
  exact ⟨hmem, (hguards footerLinksId List.mem_cons_self).1 hlinks, hfirst⟩

end SiteWeave
