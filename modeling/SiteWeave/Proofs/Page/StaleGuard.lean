import SiteWeave.Proofs.Page.Agreement

/-!
# Guards in stale interiors

A run overwrites the interiors of all regions, so that what the last build left there should not
matter to it. It matters in one way. The steps for the footer links and for the cookie banner look
for their guards in the whole page, while some interiors are still those of the last build; a guard
that stands there keeps links or a banner away from a page that does not have them in the end.

## Main definitions

* `Page.HoldsStale`: an interior that is overwritten behind the guarded steps holds a text.
* `Page.TakesLinks`, `Page.TakesBanner`: some fragments insert links or a banner into the page.

## Main results

* `Page.IsRun.contains_linked_iff`: where a guarded step finds a guard.
* `weave_eq_weave_iff_takes`: stale interiors influence no build exactly when the pages take links
  both or neither, and a banner both or neither.
-/

namespace SiteWeave

open Text

namespace Page

variable {page other filled linked bannered last : Page} {f : PageFragments} {guard : Text}

/-! ### What the guarded steps find -/

/-- An interior that is overwritten only behind the steps that look for guards holds the text. -/
def HoldsStale (guard : Text) (page : Page) : Prop :=
  ∃ kind body, kind ≠ RegionKind.nav ∧ .region kind body ∈ page ∧ guard <:+: body

instance (guard : Text) (page : Page) : Decidable (page.HoldsStale guard) :=
  decidable_of_iff (page.any fun
      | .text _ => false
      | .region kind body => kind ≠ .nav && Text.contains guard body) <| by
    rw [List.any_eq_true, HoldsStale]
    constructor
    · rintro ⟨content | ⟨kind, body⟩, hmem, hholds⟩
      · exact absurd hholds Bool.false_ne_true
      · have hpair : kind ≠ .nav ∧ guard <:+: body := by
          simpa [Text.contains_eq_true_iff] using hholds
        exact ⟨kind, body, hpair.1, hmem, hpair.2⟩
    · rintro ⟨kind, body, hkind, hmem, hoccurs⟩
      exact ⟨.region kind body, hmem, by simp [hkind, Text.contains_eq_true_iff, hoccurs]⟩

/-- Some footer links are inserted into the page. -/
def TakesLinks (page : Page) : Prop :=
  footerClose <:+: page.outline ∧ ¬ footerLinksId <:+: page.outline ∧
    ¬ page.HoldsStale footerLinksId

instance (page : Page) : Decidable page.TakesLinks :=
  inferInstanceAs (Decidable (_ ∧ _))

/-- Some banner is inserted into the page. Where its body has no end, the footer links may bring
one. -/
def TakesBanner (page : Page) : Prop :=
  page.hasRegion .cookieConsent = false ∧ ¬ cookieConsentId <:+: page.outline ∧
    ¬ page.HoldsStale cookieConsentId ∧ (bodyClose <:+: page.outline ∨ page.TakesLinks)

instance (page : Page) : Decidable page.TakesBanner :=
  inferInstanceAs (Decidable (_ ∧ _))

namespace IsRun

/-- The interiors that the guarded steps see: the fresh navigation, and the stale ones. -/
theorem exists_region_linked_iff (h : IsRun f page filled linked bannered last)
    (hguard : IsToken guard) :
    (∃ kind body, .region kind body ∈ linked ∧ guard <:+: body) ↔
      (page.hasRegion .nav = true ∧ guard <:+: f.nav) ∨ page.HoldsStale guard := by
  have hnav : filled.hasRegion .nav = page.hasRegion .nav := by
    rw [h.filled_eq, setRegions_eq_mapInteriors, hasRegion_mapInteriors]
  constructor
  · rintro ⟨kind, body, hmem, hoccurs⟩
    rcases h.region_mem_linked_iff.1 hmem with ⟨-, rfl, hregion⟩ | ⟨hkind, hmem⟩
    · exact Or.inl ⟨hnav ▸ hregion, (infix_ownLines_iff hguard).1 hoccurs⟩
    · exact Or.inr ⟨kind, body, hkind, hmem, hoccurs⟩
  · rintro (⟨hregion, hoccurs⟩ | ⟨kind, body, hkind, hmem, hoccurs⟩)
    · refine ⟨.nav, f.body .nav, h.region_mem_linked_iff.2 (Or.inl ⟨rfl, rfl, hnav ▸ hregion⟩), ?_⟩
      exact (infix_ownLines_iff hguard).2 hoccurs
    · exact ⟨kind, body, h.region_mem_linked_iff.2 (Or.inr ⟨hkind, hmem⟩), hoccurs⟩

/-- What the step for the cookie banner finds in the page. -/
theorem contains_linked_iff (h : IsRun f page filled linked bannered last)
    (hpage : page.IsIntact) (hguard : IsLandmark guard) :
    linked.contains guard = true ↔ guard <:+: linked.outline ∨
      (page.hasRegion .nav = true ∧ guard <:+: f.nav) ∨ page.HoldsStale guard := by
  rw [contains_eq_true_iff_of_isIntact (h.isExtension_linked.isIntact hpage) hguard,
    h.exists_region_linked_iff hguard.toIsToken]

/-- What the step for the footer links finds in the page. -/
theorem contains_filled_iff (h : IsRun f page filled linked bannered last)
    (hpage : page.IsIntact) (hguard : IsLandmark guard) :
    filled.contains guard = true ↔ guard <:+: page.outline ∨
      (page.hasRegion .nav = true ∧ guard <:+: f.nav) ∨ page.HoldsStale guard := by
  rw [contains_eq_true_iff_of_isIntact (h.nav.isExtension.isIntact hpage) hguard,
    h.outline_filled, ← h.exists_region_linked_iff hguard.toIsToken]
  simp only [h.footerLinks.region_mem_iff]

/-- A page that does not refuse the links of a run takes links. -/
theorem takesLinks (h : IsRun f page filled linked bannered last) (hpage : page.IsIntact)
    (hrefuses : ¬ filled.RefusesLinks f.footerLinks) : page.TakesLinks := by
  rw [RefusesLinks, h.outline_filled,
    h.contains_filled_iff hpage isLandmark_footerLinksId] at hrefuses
  push Not at hrefuses
  obtain ⟨hclose, ⟨hid, -, hstale⟩, -⟩ := hrefuses
  exact ⟨hclose, hid, hstale⟩

/-- A page that takes links does not refuse links that are there, if the navigation does not hold
their guard. -/
theorem not_refusesLinks_iff (h : IsRun f page filled linked bannered last) (hpage : page.IsIntact)
    (hnav : ¬ footerLinksId <:+: f.nav) (hblank : f.footerLinks.trim ≠ []) :
    ¬ filled.RefusesLinks f.footerLinks ↔ page.TakesLinks := by
  refine ⟨h.takesLinks hpage, ?_⟩
  rintro ⟨hclose, hid, hstale⟩
  rw [RefusesLinks, h.outline_filled, h.contains_filled_iff hpage isLandmark_footerLinksId]
  simp [hclose, hid, hstale, hnav, hblank]

/-- The body has an end for the cookie banner if it had one, or if links are inserted that bring
one. -/
theorem bodyClose_infix_outline_linked (h : IsRun f page filled linked bannered last)
    (hpage : page.IsIntact) (hclose : bodyClose <:+: linked.outline) :
    bodyClose <:+: page.outline ∨ page.TakesLinks := by
  rw [h.footerLinks.infix_outline_iff isLandmark_bodyClose.toIsToken, h.outline_filled] at hclose
  exact hclose.imp_right fun hlinks => h.takesLinks hpage hlinks.1

end IsRun

/-! ### Pages that take the same -/

namespace Agrees

theorem holdsStale_footerLinksId_iff (h : Agrees page other)
    (hlinks : page.TakesLinks ↔ other.TakesLinks) (hclose : footerClose <:+: page.outline)
    (hid : ¬ footerLinksId <:+: page.outline) :
    page.HoldsStale footerLinksId ↔ other.HoldsStale footerLinksId := by
  rw [TakesLinks, TakesLinks, ← h.outline_eq, and_iff_right hclose, and_iff_right hid,
    and_iff_right hclose, and_iff_right hid] at hlinks
  exact not_iff_not.1 hlinks

theorem holdsStale_cookieConsentId_iff (h : Agrees page other)
    (hlinks : page.TakesLinks ↔ other.TakesLinks) (hbanner : page.TakesBanner ↔ other.TakesBanner)
    (hregion : page.hasRegion .cookieConsent = false)
    (hid : ¬ cookieConsentId <:+: page.outline)
    (hclose : bodyClose <:+: page.outline ∨ page.TakesLinks) :
    page.HoldsStale cookieConsentId ↔ other.HoldsStale cookieConsentId := by
  rw [TakesBanner, TakesBanner, ← h.outline_eq, ← h.hasRegion_eq, ← hlinks, and_iff_right hregion,
    and_iff_right hregion, and_iff_right hid, and_iff_right hid, and_iff_left hclose,
    and_iff_left hclose] at hbanner
  exact not_iff_not.1 hbanner

/-- Runs with the same fragments keep pages in agreement that take the same. -/
theorem weaveAll_of_takes (h : Agrees page other) (hpage : page.HasTextsApart)
    (hother : other.HasTextsApart) (hlinks : page.TakesLinks ↔ other.TakesLinks)
    (hbanner : page.TakesBanner ↔ other.TakesBanner) (f : PageFragments) :
    Agrees (page.weaveAll f).1 (other.weaveAll f).1 := by
  have hrun := isRun_weaveAll f hpage
  have hrun' := isRun_weaveAll f hother
  refine h.weaveAll rfl rfl (fun hplace => ?_) fun hlinked hnone hplace => ?_
  · rw [ne_eq, firstPlace?_eq_none_iff_of_isIntact (hrun.nav.isExtension.isIntact hpage.isIntact)
      isLandmark_footerClose, not_not, hrun.outline_filled] at hplace
    rw [Bool.eq_iff_iff, hrun.contains_filled_iff hpage.isIntact isLandmark_footerLinksId,
      hrun'.contains_filled_iff hother.isIntact isLandmark_footerLinksId, ← h.outline_eq,
      ← h.hasRegion_eq]
    refine or_congr_right' fun hid => or_congr_right ?_
    exact h.holdsStale_footerLinksId_iff hlinks hplace hid
  · rw [ne_eq, firstPlace?_eq_none_iff_of_isIntact
      (hrun.isExtension_linked.isIntact hpage.isIntact) isLandmark_bodyClose, not_not] at hplace
    rw [Bool.eq_iff_iff, hrun.contains_linked_iff hpage.isIntact isLandmark_cookieConsentId,
      hrun'.contains_linked_iff hother.isIntact isLandmark_cookieConsentId, ← hlinked.outline_eq,
      ← h.hasRegion_eq]
    refine or_congr_right' fun hid => or_congr_right ?_
    refine h.holdsStale_cookieConsentId_iff hlinks hbanner
      (hrun.isExtension_linked.hasRegion_eq_false hnone) (fun hin => hid ?_)
      (hrun.bodyClose_infix_outline_linked hpage.isIntact hplace)
    exact hrun.isExtension_linked.infix_outline _ isLandmark_cookieConsentId.toIsToken hin

end Agrees

/-! ### Fragments that show what a page takes -/

/-- Footer links that consist of their guard. -/
def linksProbe : PageFragments where
  footerLinks := footerLinksId

/-- A banner that consists of its guard, with footer links that bring an end of the body. -/
def bannerProbe : PageFragments where
  footerLinks := bodyClose
  cookieConsent := cookieConsentId

/-- What is in a page after a run stands outside the regions, or in an interior that the fragments
prescribe. -/
theorem IsRun.infix_render_iff (h : IsRun f page filled linked bannered last)
    (hguard : IsLandmark guard) (hbegin : ∀ kind : RegionKind, ¬ guard <:+: kind.beginMarker) :
    guard <:+: last.render ↔ guard <:+: linked.outline ∨
      ∃ kind, last.hasRegion kind = true ∧ guard <:+: f.body kind := by
  rw [Page.infix_render_iff hguard.toIsToken, h.infix_outline_last_iff hguard]
  refine or_congr_right ⟨?_, ?_⟩
  · rintro ⟨kind, body, hmem, hin⟩
    exact ⟨kind, hasRegion_iff.2 ⟨body, hmem⟩, h.body_eq hmem ▸ hin.resolve_left (hbegin kind)⟩
  · rintro ⟨kind, hregion, hin⟩
    obtain ⟨body, hmem⟩ := hasRegion_iff.1 hregion
    exact ⟨kind, body, hmem, Or.inr (h.body_eq hmem ▸ hin)⟩

/-- The links that consist of their guard show whether the page takes links. -/
theorem takesLinks_iff (hpage : page.HasTextsApart) :
    page.TakesLinks ↔ ¬ footerLinksId <:+: page.outline ∧
      footerLinksId <:+: (page.weaveAll linksProbe).1.render := by
  have hrun := isRun_weaveAll linksProbe hpage
  have hbegin (kind : RegionKind) : ¬ footerLinksId <:+: kind.beginMarker := by
    cases kind <;> decide
  have hbodies (kind : RegionKind) : ¬ footerLinksId <:+: linksProbe.body kind := by
    cases kind <;> decide
  have hlinks : footerLinksId <:+: linksProbe.footerLinks.trim := by decide
  rw [hrun.infix_render_iff isLandmark_footerLinksId hbegin,
    hrun.footerLinks.infix_outline_iff isLandmark_footerLinksId.toIsToken, hrun.outline_filled,
    hrun.not_refusesLinks_iff hpage.isIntact (by decide) (by decide), and_iff_left hlinks]
  simp only [hbodies, and_false, exists_false, or_false]
  exact ⟨fun h => ⟨h.2.1, Or.inr h⟩, fun h => h.2.resolve_left h.1⟩

/-- The banner that consists of its guard shows whether the page takes a banner. -/
theorem takesBanner_iff (hpage : page.HasTextsApart) :
    page.TakesBanner ↔ page.hasRegion .cookieConsent = false ∧
      ¬ cookieConsentId <:+: page.outline ∧
        cookieConsentId <:+: (page.weaveAll bannerProbe).1.render := by
  have hrun := isRun_weaveAll bannerProbe hpage
  have hbegin (kind : RegionKind) : ¬ cookieConsentId <:+: kind.beginMarker := by
    cases kind <;> decide
  have hbodies (kind : RegionKind) :
      cookieConsentId <:+: bannerProbe.body kind ↔ kind = .cookieConsent := by
    cases kind <;> decide
  have hlinks : ¬ cookieConsentId <:+: bannerProbe.footerLinks.trim := by decide
  have hclose : bodyClose <:+: bannerProbe.footerLinks.trim := by decide
  have hregion : (page.withLinks bannerProbe).hasRegion .cookieConsent =
      page.hasRegion .cookieConsent := by
    rw [hrun.footerLinks.hasRegion_eq, hrun.nav.hasRegion_of_ne (by decide)]
  have htakes := hrun.not_refusesLinks_iff hpage.isIntact (by decide) (by decide)
  have hclosed : bodyClose <:+: (page.withLinks bannerProbe).outline ↔
      bodyClose <:+: page.outline ∨ page.TakesLinks := by
    rw [hrun.footerLinks.infix_outline_iff isLandmark_bodyClose.toIsToken, hrun.outline_filled,
      htakes, and_iff_left hclose]
  have hid : cookieConsentId <:+: (page.withLinks bannerProbe).outline ↔
      cookieConsentId <:+: page.outline := by
    rw [hrun.footerLinks.infix_outline_iff isLandmark_cookieConsentId.toIsToken,
      hrun.outline_filled]
    exact or_iff_left fun h => hlinks h.2
  have hrefuses : ¬ (page.withLinks bannerProbe).RefusesBanner bannerProbe.cookieConsent ↔
      ¬ cookieConsentId <:+: page.outline ∧ ¬ page.HoldsStale cookieConsentId ∧
        (bodyClose <:+: page.outline ∨ page.TakesLinks) := by
    rw [RefusesBanner, hrun.contains_linked_iff hpage.isIntact isLandmark_cookieConsentId, hid,
      hclosed]
    have hnav : ¬ cookieConsentId <:+: bannerProbe.nav := by decide
    have hblank : bannerProbe.cookieConsent.trim ≠ [] := by decide
    simp only [hnav, hblank, and_false, false_or, not_or, not_and_or, not_not, and_assoc]
  rw [hrun.infix_render_iff isLandmark_cookieConsentId hbegin, hid]
  simp only [hbodies, exists_eq_right]
  rw [hrun.sharedScripts.hasRegion_of_ne (by decide), hrun.cookieConsent.hasRegion_iff_not, hregion,
    hrefuses, TakesBanner]
  refine and_congr_right fun hnone => and_congr_right fun hout => ?_
  simp only [hnone, hout, Bool.false_eq_true, false_or, not_false_eq_true, true_and]

end Page

/-! ### Two builds -/

variable {source other : Text}

/-- **Stale interiors influence a build through guards only.** Let two sources be read as pages that
differ in nothing but the interiors of their regions. All fragments are built into both with the
same outcome exactly when both pages take footer links, or neither does, and both take a banner, or
neither does. -/
theorem weave_eq_weave_iff_takes (source other : Text)
    (h : Page.Agrees (Page.parse source) (Page.parse other)) :
    (∀ f, (weave source f).1 = (weave other f).1) ↔
      ((Page.parse source).TakesLinks ↔ (Page.parse other).TakesLinks) ∧
        ((Page.parse source).TakesBanner ↔ (Page.parse other).TakesBanner) := by
  have hpage := (Page.isCanonical_parse source).toHasTextsApart
  have hother := (Page.isCanonical_parse other).toHasTextsApart
  constructor
  · intro hsame
    have hlinks : ((Page.parse source).weaveAll Page.linksProbe).1.render =
        ((Page.parse other).weaveAll Page.linksProbe).1.render := hsame Page.linksProbe
    have hbanner : ((Page.parse source).weaveAll Page.bannerProbe).1.render =
        ((Page.parse other).weaveAll Page.bannerProbe).1.render := hsame Page.bannerProbe
    rw [Page.takesLinks_iff hpage, Page.takesLinks_iff hother, Page.takesBanner_iff hpage,
      Page.takesBanner_iff hother, hlinks, hbanner, h.outline_eq, h.hasRegion_eq]
    exact ⟨Iff.rfl, Iff.rfl⟩
  · rintro ⟨hlinks, hbanner⟩ f
    have hagrees := h.weaveAll_of_takes hpage hother hlinks hbanner f
    calc (weave source f).1
        = (((Page.parse source).weaveAll f).1.fill f.body).render := by
          rw [(Page.isRun_weaveAll f hpage).fill_eq_self]
          rfl
      _ = (((Page.parse other).weaveAll f).1.fill f.body).render := by rw [hagrees.fill_eq]
      _ = (weave other f).1 := by
          rw [(Page.isRun_weaveAll f hother).fill_eq_self]
          rfl

/-- A page that takes links and a banner, with an interior that the last build left. -/
def takingSource : Text :=
  "<!-- SITE_NAV -->id=\"cookie-consent\"<!-- /SITE_NAV --></footer></body>".toList

/-- The page with nothing in the interior. -/
def clearedSource : Text :=
  "<!-- SITE_NAV --><!-- /SITE_NAV --></footer></body>".toList

/-- What the last build left in the navigation influences no build. -/
theorem weave_eq_weave_iff_takes_navigation :
    Page.Agrees (Page.parse takingSource) (Page.parse clearedSource) ∧
      ∀ f, (weave takingSource f).1 = (weave clearedSource f).1 := by
  have hagrees : Page.Agrees (Page.parse takingSource) (Page.parse clearedSource) := by
    decide +kernel
  exact ⟨hagrees, (weave_eq_weave_iff_takes takingSource clearedSource hagrees).2
    (by decide +kernel)⟩

/-- A page with footer links in the cookie region of the last build. -/
def staleSource : Text :=
  "<!-- COOKIE_CONSENT --><a id=\"cookie-settings-btn\"><!-- /COOKIE_CONSENT --></footer>".toList

/-- The page with nothing in the cookie region. -/
def freshSource : Text :=
  "<!-- COOKIE_CONSENT --><!-- /COOKIE_CONSENT --></footer>".toList

/-- Footer links in a region that the run overwrites keep the links of the run away. -/
theorem not_weave_eq_weave_of_agrees :
    ¬ ∀ (source other : Text) (f : PageFragments),
      Page.Agrees (Page.parse source) (Page.parse other) →
        (Page.parse source).HasFreeBodies → (Page.parse other).HasFreeBodies →
          (weave source f).1 = (weave other f).1 := by
  intro h
  have hstale : Page.parse staleSource =
      [.region .cookieConsent "<a id=\"cookie-settings-btn\">".toList,
        .text "</footer>".toList] := by decide +kernel
  have hfresh : Page.parse freshSource =
      [.region .cookieConsent [], .text "</footer>".toList] := by decide +kernel
  have hfree {body : Text} (hbody : body.IsMarkerFree) :
      Page.HasFreeBodies [.region .cookieConsent body, .text "</footer>".toList] := by
    simpa [Page.HasFreeBodies] using hbody
  have hsame := h staleSource freshSource
    { footerLinks := "<a id=\"cookie-settings-btn\">".toList } (by decide +kernel)
    (hstale ▸ hfree (by decide)) (hfresh ▸ hfree (by decide))
  exact absurd hsame (by decide +kernel)

end SiteWeave
