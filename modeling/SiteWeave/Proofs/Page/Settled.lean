import SiteWeave.Proofs.Page.Run

/-!
# Pages that a run leaves alone

Once the fragments are in a page, a run with the same fragments writes the page that it reads. Such
a page has the prescribed interior in every region, and no step finds anything to insert: every
insertion would make the page longer, and no later step makes it shorter again.

What keeps the steps from inserting can be read off the outline and the regions of the page. So a
page with the same regions whose outline shows the same guards and anchors is left alone as well.

## Main definitions

* `runLandmarks`: the tags and attributes that a run looks for outside the regions.
* `Page.IsBuilt`: a page that has all that a run would bring.

## Main results

* `Page.IsBuilt.weave_render`: a run leaves a built page alone.
* `Page.isBuilt_parse`: a page with the prescribed interiors that a run leaves alone is built.
* `Page.IsBuilt.congr`: what a page needs to be built like another one.
-/

namespace SiteWeave

open Text

/-- The tags and attributes that a run looks for outside the regions. -/
def runLandmarks : List Text := [footerClose, bodyClose, footerLinksId, cookieConsentId]

theorem isLandmark_of_mem_runLandmarks {landmark : Text} (h : landmark ∈ runLandmarks) :
    IsLandmark landmark := by
  simp only [runLandmarks, List.mem_cons, List.not_mem_nil, or_false] at h
  rcases h with rfl | rfl | rfl | rfl
  · exact isLandmark_footerClose
  · exact isLandmark_bodyClose
  · exact isLandmark_footerLinksId
  · exact isLandmark_cookieConsentId

namespace Page

variable {f : PageFragments} {page other next : Page} {kind : RegionKind} {body : Text}

/-- The page reads as it is written, its regions hold what the fragments prescribe, and a run finds
nothing to insert. -/
structure IsBuilt (f : PageFragments) (page : Page) : Prop where
  isCanonical : page.IsCanonical
  body_eq : ∀ kind body, .region kind body ∈ page → body = f.body kind
  isSettled : page.IsSettled f

/-- **A run leaves a built page alone.** -/
theorem IsBuilt.weave_render (h : page.IsBuilt f) : (weave page.render f).1 = page.render := by
  change ((parse page.render).weaveAll f).1.render = page.render
  rw [parse_render_of_isCanonical page h.isCanonical,
    h.isSettled.weaveAll_eq_fill h.isCanonical.toHasTextsApart, fill_eq_self_iff.2 h.body_eq]

theorem setRegions_eq_self (h : ∀ old, .region kind old ∈ page → old = body) :
    page.setRegions kind body = page := by
  refine mapInteriors_eq_self fun k old hmem => ?_
  split
  · next hkind => exact (h old (hkind ▸ hmem)).symm
  · rfl

/-! ### Insertions make a page longer -/

theorem length_lt_insertFooterLine (links : Text) (place : Place) :
    place.page.render.length < (insertFooterLine links place).render.length := by
  obtain ⟨above, hleft, htake, -⟩ := exists_append_lastLine place.left
  have hlen := congrArg List.length hleft
  rw [List.length_append] at hlen
  rw [insertFooterLine, htake]
  split
  · simp only [Place.render_insert, Place.page, render_append, render_cons, render_nil,
      Segment.render, List.length_append, List.length_cons, List.length_nil]
    omega
  · simp only [Place.render_insert, Place.page, render_append, render_cons, render_nil,
      Segment.render, List.length_append, List.length_cons, List.length_nil]
    omega

theorem refusesLinks_or_length_lt (links : Text) (hpage : page.IsIntact) :
    page.RefusesLinks links ∨
      page.render.length < (page.weaveFooterLinks links).1.render.length := by
  rw [RefusesLinks, ← firstPlace?_eq_none_iff_of_isIntact hpage isLandmark_footerClose,
    weaveFooterLinks]
  split
  · next hnone => exact Or.inl (Or.inl hnone)
  next place hplace =>
  split
  · next hguard => exact Or.inl (Or.inr (Or.inl hguard))
  split
  · next hblank => exact Or.inl (Or.inr (Or.inr (List.isEmpty_iff.1 hblank)))
  · rw [← eq_page_of_firstPlace? hplace]
    exact Or.inr (length_lt_insertFooterLine links.trim place)

namespace RegionStep

variable {refuses : Prop}

theorem length_lt_insert {place : Place} {block : Page} (hblock : IsBlock kind body block) :
    place.page.render.length < (place.insert block).render.length := by
  cases hblock <;>
    simp only [Place.render_insert, Place.page, render_append, render_cons, render_nil,
      Segment.render, List.length_append, List.length_cons, List.length_nil] <;> omega

theorem refuses_or_length_lt (h : RegionStep kind body refuses page next)
    (hnone : page.hasRegion kind = false) : refuses ∨ page.render.length < next.render.length := by
  cases h with
  | fill h => exact absurd (h.symm.trans hnone) (by decide)
  | skip h hrefuses => exact Or.inl hrefuses
  | insert h hrefuses place block hplace hblock =>
    exact Or.inr (hplace.page_eq ▸ length_lt_insert hblock)

/-- A step over prescribed interiors makes the page no shorter. -/
theorem length_le (h : RegionStep kind body refuses page next)
    (hbodies : ∀ old, .region kind old ∈ page → old = body) :
    page.render.length ≤ next.render.length := by
  cases h with
  | fill h => rw [setRegions_eq_self hbodies]
  | skip h hrefuses => exact Nat.le_refl _
  | insert h hrefuses place block hplace hblock =>
    exact hplace.page_eq ▸ (length_lt_insert hblock).le

end RegionStep

/-- A run that makes a page with prescribed interiors no longer finds nothing to insert. -/
theorem isSettled_of_length_le (hpage : HasTextsApart page)
    (hbodies : ∀ kind body, .region kind body ∈ page → body = f.body kind)
    (hlen : (page.weaveAll f).1.render.length ≤ page.render.length) : page.IsSettled f := by
  have hrun := isRun_weaveAll f hpage
  have hfilled : page.withNav f = page := by
    rw [hrun.filled_eq, setRegions_eq_self (hbodies .nav)]
  have hlinkedBodies : ∀ kind body, .region kind body ∈ page.withLinks f → body = f.body kind :=
    fun kind body hmem =>
      hbodies kind body (hfilled ▸ hrun.footerLinks.region_mem_iff.1 hmem)
  have hcookieLe := hrun.cookieConsent.length_le (hlinkedBodies .cookieConsent)
  have hscriptsLe : (page.withBanner f).render.length ≤ (page.weaveAll f).1.render.length := by
    refine hrun.sharedScripts.length_le fun old hmem => ?_
    rcases hrun.cookieConsent.region_mem_iff.1 hmem with ⟨hkind, -, -⟩ | ⟨-, hmem⟩
    · exact absurd hkind (by decide)
    · exact hlinkedBodies .sharedScripts old hmem
  have hlinks : page.RefusesLinks f.footerLinks := by
    refine (refusesLinks_or_length_lt f.footerLinks hpage.isIntact).resolve_right fun hlt => ?_
    have hlinked : page.weaveFooterLinks f.footerLinks =
        (page.withNav f).weaveFooterLinks f.footerLinks := by rw [hfilled]
    rw [hlinked] at hlt
    exact absurd (hlt.trans_le (hcookieLe.trans hscriptsLe)) hlen.not_gt
  have hlinked : page.withLinks f = page := by
    rw [hrun.footerLinks.eq_self (hfilled.symm ▸ hlinks), hfilled]
  have hbannered : page.hasRegion .cookieConsent = false → page.RefusesBanner f.cookieConsent := by
    intro hnone
    have hrefuses := hrun.cookieConsent.refuses_or_length_lt (hlinked.symm ▸ hnone)
    rw [hlinked] at hrefuses
    exact hrefuses.resolve_right fun hlt => absurd (hlt.trans_le hscriptsLe) hlen.not_gt
  have hbanner : page.withBanner f = page := by
    rw [hrun.cookieConsent.eq_setRegions (hlinked.symm ▸ hbannered), hlinked,
      setRegions_eq_self (hbodies .cookieConsent)]
  have hnav : page.setRegions .nav (f.body .nav) = page := setRegions_eq_self (hbodies .nav)
  refine ⟨hnav.symm ▸ hlinks, hnav.symm ▸ hbannered, fun hnone => ?_⟩
  have hrefuses := hrun.sharedScripts.refuses_or_length_lt (hbanner.symm ▸ hnone)
  rw [hbanner] at hrefuses
  exact hrefuses.resolve_right hlen.not_gt

/-- **A page with the prescribed interiors that a run leaves alone is built.** -/
theorem isBuilt_parse {source : Text} (h : (weave source f).1 = source)
    (hbodies : ∀ kind body, .region kind body ∈ parse source → body = f.body kind) :
    (parse source).IsBuilt f := by
  have hcanonical := isCanonical_parse source
  refine ⟨hcanonical, hbodies, isSettled_of_length_le hcanonical.toHasTextsApart hbodies ?_⟩
  have hrender : ((parse source).weaveAll f).1.render = source := h
  rw [hrender, render_parse]

/-! ### Pages that show the same -/

/-- A page is built like another one if it has the same regions and its outline shows the same
guards and anchors. -/
theorem IsBuilt.congr (h : page.IsBuilt f) (hother : other.IsCanonical)
    (hregions : ∀ kind body, .region kind body ∈ other ↔ .region kind body ∈ page)
    (houtline : ∀ landmark ∈ runLandmarks,
      (landmark <:+: other.outline ↔ landmark <:+: page.outline)) : other.IsBuilt f := by
  have hbodies : ∀ kind body, .region kind body ∈ other → body = f.body kind :=
    fun kind body hmem => h.body_eq kind body ((hregions kind body).1 hmem)
  have hnav : other.setRegions .nav (f.body .nav) = other := setRegions_eq_self (hbodies .nav)
  have hnavPage : page.setRegions .nav (f.body .nav) = page :=
    setRegions_eq_self (h.body_eq .nav)
  have hcontains {guard : Text} (hmem : guard ∈ runLandmarks) :
      other.contains guard = page.contains guard := by
    have hguard := isLandmark_of_mem_runLandmarks hmem
    rw [Bool.eq_iff_iff,
      contains_eq_true_iff_of_isIntact hother.toHasTextsApart.isIntact hguard,
      contains_eq_true_iff_of_isIntact h.isCanonical.toHasTextsApart.isIntact hguard,
      houtline guard hmem]
    simp only [hregions]
  have hhasRegion (kind : RegionKind) : other.hasRegion kind = page.hasRegion kind := by
    rw [Bool.eq_iff_iff, hasRegion_iff, hasRegion_iff]
    simp only [hregions]
  obtain ⟨hlinks, hbanner, hscripts⟩ := h.isSettled
  rw [hnavPage] at hlinks hbanner
  refine ⟨hother, hbodies, ?_, ?_, ?_⟩
  · rw [hnav, RefusesLinks, houtline footerClose (by simp [runLandmarks]),
      hcontains (by simp [runLandmarks])]
    exact hlinks
  · rw [hnav, RefusesBanner, houtline bodyClose (by simp [runLandmarks]),
      hcontains (by simp [runLandmarks]), hhasRegion]
    exact hbanner
  · rw [hhasRegion, houtline bodyClose (by simp [runLandmarks])]
    exact hscripts

end Page

end SiteWeave
