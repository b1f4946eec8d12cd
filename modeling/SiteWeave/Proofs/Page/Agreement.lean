import SiteWeave.Proofs.Page.Run

/-!
# Pages that agree

Two pages agree when they differ in nothing but the interiors of their regions. The steps of a run
read a page through its places and regions, which agreeing pages share, and through the guards that
they look for. So two runs that find the same guards keep pages in agreement.

## Main definitions

* `Page.Agrees`, `Place.Agrees`: what differs in nothing but the interiors of regions.

## Main results

* `Page.Agrees.weaveFooterLinks`, `Page.Agrees.weaveCookieConsent`, `Page.Agrees.weaveScripts`: the
  steps keep pages in agreement.
* `Page.Agrees.weaveAll`: two runs with the same links over pages that agree give such pages.
-/

namespace SiteWeave

open Text

/-- The places differ in nothing but the interiors of regions. -/
def Place.Agrees (place other : Place) : Prop :=
  place.mapInteriors (fun _ _ => []) = other.mapInteriors (fun _ _ => [])

/-- Two searches that agree find both a place, or both none. -/
theorem Place.eq_none_or_exists_agrees {place? other? : Option Place}
    (h : place?.map (Place.mapInteriors fun _ _ => []) =
      other?.map (Place.mapInteriors fun _ _ => [])) :
    (place? = none ∧ other? = none) ∨
      ∃ place other, place? = some place ∧ other? = some other ∧ place.Agrees other := by
  cases place? with
  | none => exact Or.inl ⟨rfl, Option.map_eq_none_iff.1 h.symm⟩
  | some place =>
    obtain ⟨other, hother, hplace⟩ := Option.map_eq_some_iff.1 h.symm
    exact Or.inr ⟨place, other, rfl, hother, hplace.symm⟩

namespace Page

variable {page other : Page} {kind : RegionKind}

/-! ### Pages that agree -/

/-- The pages differ in nothing but the interiors of their regions. -/
def Agrees (page other : Page) : Prop :=
  page.fill (fun _ => []) = other.fill (fun _ => [])

instance (page other : Page) : Decidable (page.Agrees other) :=
  inferInstanceAs (Decidable (_ = _))

namespace Agrees

theorem fill_eq (h : Agrees page other) (bodies : RegionKind → Text) :
    page.fill bodies = other.fill bodies := by
  have hfill (p : Page) : (p.fill fun _ => []).fill bodies = p.fill bodies :=
    fill_mapInteriors bodies p
  rw [← hfill page, ← hfill other]
  exact congrArg (fill bodies) h

theorem outline_eq (h : Agrees page other) : page.outline = other.outline := by
  have houtline := congrArg outline h
  rwa [fill, fill, outline_mapInteriors, outline_mapInteriors] at houtline

theorem hasRegion_eq (h : Agrees page other) (kind : RegionKind) :
    page.hasRegion kind = other.hasRegion kind := by
  have hregion := congrArg (hasRegion kind) h
  rwa [fill, fill, hasRegion_mapInteriors, hasRegion_mapInteriors] at hregion

theorem mapInteriors (h : Agrees page other) (g g' : RegionKind → Text → Text) :
    Agrees (Page.mapInteriors g page) (Page.mapInteriors g' other) := by
  rw [Agrees, fill_mapInteriors, fill_mapInteriors]
  exact h

theorem insert {place place' : Place} {inserted inserted' : Page} (hplace : place.Agrees place')
    (hinserted : Agrees inserted inserted') :
    Agrees (place.insert inserted) (place'.insert inserted') := by
  rw [Place.Agrees] at hplace
  rw [Agrees, fill, fill] at hinserted ⊢
  rw [mapInteriors_insert, mapInteriors_insert, hplace, hinserted]

/-- A tag has a first place in both of two pages that agree, or in none. -/
theorem firstPlace? (h : Agrees page other) (tag : Text) :
    (page.firstPlace? tag = none ∧ other.firstPlace? tag = none) ∨
      ∃ place place', page.firstPlace? tag = some place ∧ other.firstPlace? tag = some place' ∧
        place.Agrees place' := by
  refine Place.eq_none_or_exists_agrees ?_
  rw [← firstPlace?_mapInteriors, ← firstPlace?_mapInteriors]
  exact congrArg (Page.firstPlace? tag) h

/-- A tag has a last place in both of two pages that agree, or in none. -/
theorem lastPlace? (h : Agrees page other) (tag : Text) :
    (page.lastPlace? tag = none ∧ other.lastPlace? tag = none) ∨
      ∃ place place', page.lastPlace? tag = some place ∧ other.lastPlace? tag = some place' ∧
        place.Agrees place' := by
  refine Place.eq_none_or_exists_agrees ?_
  rw [← lastPlace?_mapInteriors, ← lastPlace?_mapInteriors]
  exact congrArg (Page.lastPlace? tag) h

/-- The line of the footer links goes to the same place of pages that agree. -/
theorem insertFooterLine {place place' : Place} (hplace : place.Agrees place') (links : Text) :
    Agrees (Page.insertFooterLine links place) (Page.insertFooterLine links place') := by
  obtain ⟨before, left, right, after⟩ := place
  obtain ⟨before', left', right', after'⟩ := place'
  simp only [Place.Agrees, Place.mapInteriors, Place.mk.injEq] at hplace
  obtain ⟨hbefore, rfl, rfl, hafter⟩ := hplace
  rw [Page.insertFooterLine, Page.insertFooterLine]
  dsimp only
  split
  · exact insert (by simp [Place.Agrees, Place.mapInteriors, hbefore, hafter]) rfl
  · exact insert (by simp [Place.Agrees, Place.mapInteriors, hbefore, hafter]) rfl

/-- Pages that agree still do after the step for the navigation, with any two navigations. -/
theorem weaveNav (h : Agrees page other) (nav nav' : Text) :
    Agrees (page.weaveNav nav).1 (other.weaveNav nav').1 := by
  rw [(weaveNav_regionStep nav page).eq_setRegions fun _ => trivial,
    (weaveNav_regionStep nav' other).eq_setRegions fun _ => trivial]
  exact h.mapInteriors _ _

/-- Pages that agree still do after the step for the footer links, if they agree on the guard where
it decides. -/
theorem weaveFooterLinks (h : Agrees page other) (links : Text)
    (hguard : page.firstPlace? footerClose ≠ none →
      page.contains footerLinksId = other.contains footerLinksId) :
    Agrees (page.weaveFooterLinks links).1 (other.weaveFooterLinks links).1 := by
  rw [Page.weaveFooterLinks, Page.weaveFooterLinks]
  rcases h.firstPlace? footerClose with ⟨hpage, hother⟩ | ⟨place, place', hpage, hother, hplace⟩
  · rw [hpage, hother]
    exact h
  · rw [hpage] at hguard
    rw [hpage, hother, hguard (Option.some_ne_none place)]
    dsimp only
    split
    · exact h
    · split
      · exact h
      · exact insertFooterLine hplace links.trim

theorem weaveCookieConsent_fst_of_firstPlace?_eq_none (banner : Text)
    (hregion : page.hasRegion .cookieConsent = false)
    (hplace : page.firstPlace? bodyClose = none) : (page.weaveCookieConsent banner).1 = page := by
  rw [Page.weaveCookieConsent, hregion, if_neg (by decide), hplace]
  split
  · rfl
  · split <;> rfl

/-- Pages that agree still do after the step for the cookie banner, if they agree on the guard where
it decides, and the banners are both blank or both not. -/
theorem weaveCookieConsent (h : Agrees page other) {banner banner' : Text}
    (hblank : banner.trim.isEmpty = banner'.trim.isEmpty)
    (hguard : page.hasRegion .cookieConsent = false → page.firstPlace? bodyClose ≠ none →
      page.contains cookieConsentId = other.contains cookieConsentId) :
    Agrees (page.weaveCookieConsent banner).1 (other.weaveCookieConsent banner').1 := by
  by_cases hregion : page.hasRegion .cookieConsent = true
  · rw [Page.weaveCookieConsent, Page.weaveCookieConsent, ← h.hasRegion_eq, if_pos hregion,
      if_pos hregion]
    exact h.mapInteriors _ _
  have hnone : page.hasRegion .cookieConsent = false := Bool.eq_false_iff.2 hregion
  rcases h.firstPlace? bodyClose with ⟨hpage, hother⟩ | ⟨place, place', hpage, hother, hplace⟩
  · -- Without an end of the body, no answer of the guard has an effect.
    rw [weaveCookieConsent_fst_of_firstPlace?_eq_none banner hnone hpage,
      weaveCookieConsent_fst_of_firstPlace?_eq_none banner' (h.hasRegion_eq _ ▸ hnone) hother]
    exact h
  · rw [Page.weaveCookieConsent, Page.weaveCookieConsent, ← h.hasRegion_eq, hblank,
      if_neg hregion, if_neg hregion, hguard hnone (hpage ▸ Option.some_ne_none place), hpage,
      hother]
    split
    · exact h
    split
    · exact h
    exact insert hplace rfl

/-- Pages that agree still do after the step for the shared scripts, with any two scripts. -/
theorem weaveScripts (h : Agrees page other) (scripts scripts' : Text) :
    Agrees (page.weaveScripts scripts).1 (other.weaveScripts scripts').1 := by
  rw [Page.weaveScripts, Page.weaveScripts, ← h.hasRegion_eq]
  by_cases hregion : page.hasRegion .sharedScripts = true
  · rw [if_pos hregion, if_pos hregion]
    exact h.mapInteriors _ _
  · rw [if_neg hregion, if_neg hregion]
    rcases h.lastPlace? bodyClose with ⟨hpage, hother⟩ | ⟨place, place', hpage, hother, hplace⟩
    · rw [hpage, hother]
      exact h
    · rw [hpage, hother]
      exact insert hplace rfl

/-- Two runs with the same links over pages that agree give pages that agree, when each of their
guards is found by both where it decides, or by none. -/
theorem weaveAll (h : Agrees page other) {f g : PageFragments}
    (hlinks : f.footerLinks = g.footerLinks)
    (hblank : f.cookieConsent.trim.isEmpty = g.cookieConsent.trim.isEmpty)
    (hfooter : (page.withNav f).firstPlace? footerClose ≠ none →
      (page.withNav f).contains footerLinksId = (other.withNav g).contains footerLinksId)
    (hcookie : Agrees (page.withLinks f) (other.withLinks g) →
      (page.withLinks f).hasRegion .cookieConsent = false →
      (page.withLinks f).firstPlace? bodyClose ≠ none →
      (page.withLinks f).contains cookieConsentId = (other.withLinks g).contains cookieConsentId) :
    Agrees (page.weaveAll f).1 (other.weaveAll g).1 := by
  have hnav : Agrees (page.withNav f) (other.withNav g) := h.weaveNav f.nav g.nav
  have hlinked : Agrees (page.withLinks f) (other.withLinks g) := by
    rw [withLinks, withLinks, hlinks]
    exact hnav.weaveFooterLinks g.footerLinks hfooter
  have hbanner : Agrees (page.withBanner f) (other.withBanner g) :=
    hlinked.weaveCookieConsent hblank (hcookie hlinked)
  exact hbanner.weaveScripts f.scripts g.scripts

end Agrees

end Page

end SiteWeave
