import SiteWeave.Proofs.BlogIndex.Succession
import SiteWeave.Proofs.Page.Replacement

/-!
# The index in a woven page

The index and the fragments share a page, and each is found by its own markup. On a page that has
all its fragments, the index replaces text outside the regions, and neither the text that goes nor
the text that comes holds anything that a run looks for. So a run leaves the page alone with the
index in it as it did before, and a second splice finds what the first one wrote.

## Main definitions

* `BlogIndex.IsUnguarded`: markup without the attributes that a run takes for its own elements.
* `BlogIndex.IsHost`: a page with all its fragments that has room for the index.

## Main results

* `BlogIndex.IsPlain.isNeutral_featured`, `BlogIndex.IsPlain.isNeutral_inside_fill`: the generated
  markup holds nothing that a run looks for.
* `BlogIndex.IsHost.weave_splice`: a run leaves a page with the index alone.
* `BlogIndex.IsHost.splice_weave_splice`: a splice after that leaves it alone as well.
-/

namespace SiteWeave

open Text

namespace BlogIndex

variable {index : BlogIndex} {f : PageFragments} {content between text : Text}
  {block : Block} {grid : Grid} {place : Place}

/-! ### What a run looks for -/

/-- The tags and comments among what a run looks for. -/
def runTags : List Text :=
  [footerClose, bodyClose, RegionKind.nav.beginMarker, RegionKind.nav.endMarker,
    RegionKind.cookieConsent.beginMarker, RegionKind.cookieConsent.endMarker,
    RegionKind.sharedScripts.beginMarker, RegionKind.sharedScripts.endMarker]

/-- The attributes that a run takes for those of its own elements. -/
def runGuards : List Text := [footerLinksId, cookieConsentId]

theorem mem_landmarks_of_mem_runTags {tag : Text} (h : tag ∈ runTags) : tag ∈ landmarks :=
  List.mem_append_right [featuredComment, gridOpen, emptyStateComment, articleClose] h

theorem beginMarker_mem_runTags (kind : RegionKind) : kind.beginMarker ∈ runTags := by
  cases kind <;> simp [runTags]

theorem endMarker_mem_runTags (kind : RegionKind) : kind.endMarker ∈ runTags := by
  cases kind <;> simp [runTags]

/-- A text that no tag begins in and that holds no guard holds nothing that a run looks for. -/
theorem isNeutral_of_isClear (hclear : ∀ tag ∈ runTags, IsClear tag text)
    (hguards : ∀ guard ∈ runGuards, ¬ guard <:+: text) : text.IsNeutral := by
  refine ⟨fun kind => ⟨?_, ?_⟩, ?_⟩
  · exact (hclear _ (beginMarker_mem_runTags kind)).not_isInfix
      ⟨kind.isToken_beginMarker, by cases kind <;> rfl⟩
  · exact (hclear _ (endMarker_mem_runTags kind)).not_isInfix
      ⟨kind.isToken_endMarker, by cases kind <;> rfl⟩
  · refine List.forall_mem_cons.2 ⟨?_, List.forall_mem_cons.2 ⟨?_, hguards⟩⟩
    · exact (hclear footerClose (by simp [runTags])).not_isInfix
        ⟨isLandmark_footerClose.toIsToken, rfl⟩
    · exact (hclear bodyClose (by simp [runTags])).not_isInfix
        ⟨isLandmark_bodyClose.toIsToken, rfl⟩

/-- The generated markup holds no guard of a run. -/
structure IsUnguarded (index : BlogIndex) : Prop where
  not_isInfix_featured : ∀ guard ∈ runGuards, ¬ guard <:+: index.featuredHtml.toList
  not_isInfix_cards : ∀ guard ∈ runGuards, ¬ guard <:+: index.cardsHtml.toList

theorem isToken_of_mem_runGuards {guard : Text} (h : guard ∈ runGuards) : IsToken guard :=
  (isLandmark_of_mem_runLandmarks (List.mem_cons_of_mem _ (List.mem_cons_of_mem _ h))).toIsToken

namespace IsPlain

theorem isNeutral_featured (h : index.IsPlain) (hguards : index.IsUnguarded) :
    IsNeutral index.featuredHtml.toList := by
  have hcomment : ∀ tag ∈ runTags, IsClear tag featuredComment := by decide +kernel
  have hend : ∀ tag ∈ runTags, IsClear tag blockEnd := by decide +kernel
  exact isNeutral_of_isClear (fun tag htag => h.isClear_featured
    (mem_landmarks_of_mem_runTags htag) (hcomment tag htag) (hend tag htag))
    hguards.not_isInfix_featured

/-- The line breaks around the cards are no part of what a run looks for. -/
theorem isNeutral_inside_fill (h : index.IsPlain) (hguards : index.IsUnguarded) (grid : Grid) :
    (grid.fill index.cardsHtml.toList).inside.IsNeutral := by
  have hclose : ∀ tag ∈ runTags, IsClear tag articleClose := by decide +kernel
  refine isNeutral_of_isClear (fun tag htag => Grid.isClear_inside_fill
    (h.isClear_cards tag (mem_landmarks_of_mem_runTags htag) (hclose tag htag))) ?_
  intro guard hguard
  have htoken := isToken_of_mem_runGuards hguard
  have hinside : (grid.fill index.cardsHtml.toList).inside =
      '\n' :: (index.cardsHtml.toList ++ '\n' :: "      ".toList) := rfl
  rw [hinside, htoken.infix_cons_lineEnd_iff, (htoken.isSeam_lineEnd _ _).infix_append_iff,
    htoken.infix_cons_lineEnd_iff, not_or]
  exact ⟨hguards.not_isInfix_cards guard hguard, htoken.not_infix_indent (by simp)⟩

/-- The generated featured block stands between its own brackets. -/
theorem isCut_featured (h : index.IsPlain) (left right : Text) :
    IsCut left index.featuredHtml.toList right := by
  obtain ⟨body, hhtml, -⟩ := h.exists_featured_eq
  obtain ⟨last, hlast⟩ := h.exists_featured_eq_append
  exact ⟨Or.inl (by rw [hhtml]; rfl), Or.inl (by simp [hlast])⟩

end IsPlain

/-! ### One replacement -/

theorem Block.isCut_markup (block : Block) (left right : Text) :
    IsCut left block.markup right :=
  ⟨Or.inl rfl, Or.inl (by simp [Block.markup, Block.ending, divisionClose])⟩

/-- What stands in the grid stands between the brackets of its container. -/
theorem Grid.isCut_inside (grid : Grid) (left text right : Text) :
    IsCut (left ++ grid.startTag) text (grid.closing ++ right) :=
  ⟨Or.inr (by simp [Grid.startTag]), Or.inr rfl⟩

/-- A run leaves the page alone with another featured block. -/
theorem isBuilt_withFeatured (h : (place.withText block.markup).IsBuilt f)
    (hblock : block.markup.IsNeutral) (hplain : index.IsPlain) (hguards : index.IsUnguarded) :
    (place.withText index.featuredHtml.toList).IsBuilt f := by
  obtain ⟨body, hhtml, -⟩ := hplain.exists_featured_eq
  exact h.withText (block.isCut_markup _ _) (hplain.isCut_featured _ _) hblock
    (hplain.isNeutral_featured hguards) (by rw [hhtml]; exact List.cons_ne_nil _ _)

theorem withText_markup (place : Place) (grid : Grid) : place.withText grid.markup =
    Place.withText ⟨place.before, place.left ++ grid.startTag, grid.closing ++ place.right,
      place.after⟩ grid.inside := by
  simp [Place.withText, Grid.markup]

/-- A run leaves the page alone with other cards. -/
theorem isBuilt_withCards (h : (place.withText grid.markup).IsBuilt f)
    (hgrid : grid.inside.IsNeutral) (hplain : index.IsPlain) (hguards : index.IsUnguarded) :
    (place.withText (grid.fill index.cardsHtml.toList).markup).IsBuilt f := by
  rw [withText_markup] at h ⊢
  exact h.withText (grid.isCut_inside _ _ _) (grid.isCut_inside _ _ _) hgrid
    (hplain.isNeutral_inside_fill hguards grid) (List.cons_ne_nil _ _)

/-! ### Both replacements -/

/-- The page has all its fragments, and outside its regions a featured block and a grid that hold
nothing that a run looks for. -/
structure IsHost (f : PageFragments) (content : Text) (block : Block) (grid : Grid) : Prop where
  weave_eq : (weave content f).1 = content
  body_eq : ∀ kind body, .region kind body ∈ Page.parse content → body = f.body kind
  areApart : AreApart content block grid
  hasTextAt_block : (Page.parse content).HasTextAt block.front block.markup
  hasTextAt_grid : (Page.parse content).HasTextAt grid.front grid.markup
  isNeutral_markup : block.markup.IsNeutral
  isNeutral_inside : grid.inside.IsNeutral

namespace IsHost

theorem exists_isBuilt_of_block_first (h : IsHost f content block grid) (hplain : index.IsPlain)
    (hguards : index.IsUnguarded)
    (hfront : grid.front = block.front ++ (block.markup ++ between)) :
    ∃ page : Page, page.IsBuilt f ∧ page.render = (index.splice content).1 := by
  obtain ⟨hblock, rfl, hgrid, htext, -⟩ := h.areApart
  have hpage : (Page.parse block.text).render =
      block.front ++ (block.markup ++ (between ++ (grid.markup ++ grid.behind))) := by
    rw [Page.render_parse, ← htext, Grid.text_eq, hfront]
    simp
  obtain ⟨place, hplace, hplaces⟩ := h.hasTextAt_block.exists_places
    (hfront ▸ h.hasTextAt_grid) grid.markup_ne_nil hpage
  obtain ⟨next, hnext, hrender⟩ := hplaces index.featuredHtml.toList
  have hbuilt := isBuilt_withFeatured (hplace ▸ Page.isBuilt_parse h.weave_eq h.body_eq)
    h.isNeutral_markup hplain hguards
  refine ⟨_, isBuilt_withCards (hnext ▸ hbuilt) h.isNeutral_inside hplain hguards, ?_⟩
  rw [hrender, splice_of_block_first hplain.hasWholeBlock hplain.gridOpen_not_infix_featured hblock
    hgrid htext.symm hfront, Grid.text_eq]
  simp [Grid.fill, Grid.markup, Grid.startTag, Grid.closing]

theorem exists_isBuilt_of_grid_first (h : IsHost f content block grid) (hplain : index.IsPlain)
    (hguards : index.IsUnguarded)
    (hfront : block.front = grid.front ++ (grid.markup ++ between)) :
    ∃ page : Page, page.IsBuilt f ∧ page.render = (index.splice content).1 := by
  obtain ⟨hblock, rfl, hgrid, htext, -⟩ := h.areApart
  have hpage : (Page.parse block.text).render =
      grid.front ++ (grid.markup ++ (between ++ (block.markup ++ block.behind))) := by
    rw [Page.render_parse, Block.text, hfront]
    simp
  obtain ⟨place, hplace, hplaces⟩ := h.hasTextAt_grid.exists_places
    (hfront ▸ h.hasTextAt_block) block.markup_ne_nil hpage
  obtain ⟨next, hnext, hrender⟩ := hplaces (grid.fill index.cardsHtml.toList).markup
  have hbuilt := isBuilt_withCards (hplace ▸ Page.isBuilt_parse h.weave_eq h.body_eq)
    h.isNeutral_inside hplain hguards
  refine ⟨_, isBuilt_withFeatured (hnext ▸ hbuilt) h.isNeutral_markup hplain hguards, ?_⟩
  rw [hrender, splice_of_grid_first hblock hgrid hfront, Grid.text_eq]
  simp [Grid.fill, Grid.markup, Grid.startTag, Grid.closing]

/-- **A run leaves a page with the index alone.** -/
theorem weave_splice (h : IsHost f content block grid) (hplain : index.IsPlain)
    (hguards : index.IsUnguarded) :
    (weave (index.splice content).1 f).1 = (index.splice content).1 := by
  obtain ⟨page, hbuilt, hrender⟩ :
      ∃ page : Page, page.IsBuilt f ∧ page.render = (index.splice content).1 := by
    obtain ⟨-, hblock, -, hgrid, hle | hle⟩ := h.areApart
    · obtain ⟨between, hfront⟩ := exists_eq_append
        (hblock.trans (hgrid.symm.trans grid.text_eq)) hle
      exact exists_isBuilt_of_block_first h hplain hguards hfront
    · obtain ⟨between, hfront⟩ := exists_eq_append
        (grid.text_eq.symm.trans (hgrid.trans hblock.symm)) hle
      exact exists_isBuilt_of_grid_first h hplain hguards hfront
  rw [← hrender]
  exact hbuilt.weave_render

/-- **A rebuild leaves a page with the index alone.** -/
theorem splice_weave_splice (h : IsHost f content block grid) (hplain : index.IsPlain)
    (hguards : index.IsUnguarded) :
    (index.splice (weave (index.splice content).1 f).1).1 = (index.splice content).1 := by
  rw [h.weave_splice hplain hguards, h.areApart.splice_splice hplain hplain]

end IsHost

end BlogIndex

end SiteWeave
