import SiteWeave.Proofs.Page.Extension

/-!
# What a step does to a page

A step for the regions of a kind fills them, leaves the page alone, or inserts a region in front of
a tag. The step for the footer links leaves the page alone or inserts a line of text. Each of these
relations lists all that its step can do, with the reason where the page is left alone, so that
later arguments run over these cases and not over the code of the steps.

Every step extends the page, and a step can close a begin marker only by inserting a region behind
it.

## Main definitions

* `Page.Captures`: a region was inserted behind a begin marker of its kind.
* `Page.RegionStep`: what the step for a kind of region can do.
* `Page.FooterStep`: what the step for the footer links can do.

## Main results

* `Page.weaveNav_regionStep`, `Page.weaveFooterLinks_footerStep`,
  `Page.weaveCookieConsent_regionStep`, `Page.weaveScripts_regionStep`: the steps of the build.
* `Page.RegionStep.isExtension`, `Page.FooterStep.isExtension`: the steps extend the page.
* `Page.RegionStep.isInert_iff`, `Page.FooterStep.isInert_iff`: when a begin marker gets closed.
-/

namespace SiteWeave

open Text

namespace Page

variable {page next last : Page} {kind : RegionKind} {body : Text}

/-! ### Steps for a kind of region -/

/-- A region with a line end behind it, and perhaps one in front of it. -/
inductive IsBlock (kind : RegionKind) (body : Text) : Page → Prop
  | behind : IsBlock kind body [.region kind body, .text ['\n']]
  | apart : IsBlock kind body [.text ['\n'], .region kind body, .text ['\n']]

namespace IsBlock

variable {block : Page}

theorem region_mem_iff (h : IsBlock kind body block) {k : RegionKind} {b : Text} :
    .region k b ∈ block ↔ k = kind ∧ b = body := by
  cases h <;> simp

theorem infix_outline_iff (h : IsBlock kind body block) {token : Text} (htoken : IsToken token) :
    token <:+: block.outline ↔ token <:+: kind.endMarker := by
  have hlineEnd : ¬ token <:+: ['\n'] := by
    rw [htoken.infix_cons_lineEnd_iff, List.infix_nil]
    exact htoken.ne_nil
  cases h with
  | behind =>
    simp only [outline_cons_region, outline_cons_text, outline_nil, List.append_nil]
    rw [(htoken.endMarker_isSeam kind _).infix_append_iff, or_iff_left hlineEnd]
  | apart =>
    simp only [outline_cons_region, outline_cons_text, outline_nil, List.append_nil,
      List.singleton_append]
    rw [htoken.infix_cons_lineEnd_iff, (htoken.endMarker_isSeam kind _).infix_append_iff,
      or_iff_left hlineEnd]

theorem beginMarker_not_infix_outline (h : IsBlock kind body block) (k : RegionKind) :
    ¬ k.beginMarker <:+: block.outline := by
  rw [h.infix_outline_iff k.isToken_beginMarker]
  exact k.not_beginMarker_infix_endMarker kind

theorem isIntact (h : IsBlock kind body block) : block.IsIntact := fun _ hlandmark hoccurs =>
  absurd ((h.infix_outline_iff hlandmark.toIsToken).1 hoccurs) (hlandmark.not_infix_endMarker kind)

/-- A text in front of the place is in front of the inserted region. -/
theorem isAhead (h : IsBlock kind body block) (place : Place) {token : Text}
    (hoccurs : token <:+: place.before.outline ++ place.left) :
    IsAhead token kind (place.insert block) := by
  cases h with
  | behind =>
    exact ⟨place.before ++ ofText place.left, body,
      .text ['\n'] :: (ofText place.right ++ place.after), by simp [Place.insert], by simpa⟩
  | apart =>
    refine ⟨place.before ++ ofText place.left ++ [.text ['\n']], body,
      .text ['\n'] :: (ofText place.right ++ place.after), by simp [Place.insert], ?_⟩
    rw [outline_append, outline_append, outline_ofText]
    exact List.infix_append_of_infix_left hoccurs

/-- A region fits in front of the end of the body. -/
theorem fits (h : IsBlock kind body block) {place : Place}
    (hplace : place.IsBefore bodyClose page) : place.Fits block := by
  obtain ⟨rest, hright⟩ := hplace.exists_right_eq
  obtain ⟨inner, hinner⟩ := kind.exists_endMarker_eq
  cases h with
  | behind =>
    exact Place.Fits.of_lt hright (by rw [outline_cons_region, hinner]; rfl) (Or.inl rfl)
  | apart => exact Place.Fits.of_lt hright (by rw [outline_cons_text]; rfl) (Or.inr rfl)

end IsBlock

/-- Between the two pages a region was inserted with a begin marker of its kind in front of it. -/
def Captures (page next : Page) : Prop :=
  ∃ kind : RegionKind, page.hasRegion kind = false ∧ IsAhead kind.beginMarker kind next

theorem Captures.not_isInert (h : Captures page next) : ¬ next.IsInert := by
  obtain ⟨kind, -, front, body, back, rfl, ⟨left, right, heq⟩⟩ := h
  refine fun hinert => hinert kind ⟨left, right ++ (kind.endMarker ++ outline back), ?_, ?_⟩
  · rw [outline_append, outline_cons_region, ← heq, List.append_assoc]
  · exact List.infix_append_of_infix_right (List.prefix_append _ _).isInfix

theorem Captures.extend {first : Page} (h : Captures page next) (hfirst : IsExtension first page)
    (hlast : IsExtension next last) : Captures first last := by
  obtain ⟨kind, hregion, hahead⟩ := h
  exact ⟨kind, hfirst.hasRegion_eq_false hregion,
    hlast.isAhead _ kind kind.isToken_beginMarker hahead⟩

/-- What the step for the regions of a kind can do to a page. A page without such regions is left
alone when it refuses a new one. -/
inductive RegionStep (kind : RegionKind) (body : Text) (refuses : Prop) (page : Page) : Page → Prop
  | fill (h : page.hasRegion kind = true) :
      RegionStep kind body refuses page (page.setRegions kind body)
  | skip (h : page.hasRegion kind = false) (hrefuses : refuses) :
      RegionStep kind body refuses page page
  | insert (h : page.hasRegion kind = false) (hrefuses : ¬ refuses) (place : Place) (block : Page)
      (hplace : place.IsBefore bodyClose page) (hblock : IsBlock kind body block) :
      RegionStep kind body refuses page (place.insert block)

namespace RegionStep

variable {refuses : Prop}

theorem isExtension (h : RegionStep kind body refuses page next) : IsExtension page next := by
  cases h with
  | fill h => exact IsExtension.mapInteriors _ page
  | skip h hrefuses => exact IsExtension.refl page
  | insert h hrefuses place block hplace hblock =>
    exact hplace.page_eq ▸ IsExtension.insert (hblock.fits hplace) hblock.isIntact

theorem infix_outline_iff (h : RegionStep kind body refuses page next) {landmark : Text}
    (hlandmark : IsLandmark landmark) :
    landmark <:+: next.outline ↔ landmark <:+: page.outline := by
  cases h with
  | fill h => rw [setRegions_eq_mapInteriors, outline_mapInteriors]
  | skip h hrefuses => rfl
  | insert h hrefuses place block hplace hblock =>
    rw [(hblock.fits hplace).infix_outline_iff hlandmark.toIsToken, hplace.page_eq,
      hblock.infix_outline_iff hlandmark.toIsToken,
      or_iff_left (hlandmark.not_infix_endMarker kind)]

/-- After the step, all regions of the kind have the interior of the step; the others are those that
the page had. -/
theorem region_mem_iff (h : RegionStep kind body refuses page next) {k : RegionKind} {b : Text} :
    .region k b ∈ next ↔ (k = kind ∧ b = body ∧ next.hasRegion kind = true) ∨
      (k ≠ kind ∧ .region k b ∈ page) := by
  cases h with
  | fill h =>
    rw [setRegions_eq_mapInteriors, region_mem_mapInteriors, hasRegion_mapInteriors]
    constructor
    · rintro ⟨old, hmem, rfl⟩
      by_cases hk : k = kind
      · exact Or.inl ⟨hk, if_pos hk, h⟩
      · exact Or.inr ⟨hk, by rwa [if_neg hk]⟩
    · rintro (⟨rfl, rfl, -⟩ | ⟨hk, hmem⟩)
      · obtain ⟨old, hold⟩ := hasRegion_iff.1 h
        exact ⟨old, hold, (if_pos rfl).symm⟩
      · exact ⟨b, hmem, (if_neg hk).symm⟩
  | skip h hrefuses =>
    rw [h]
    refine ⟨fun hmem => Or.inr ⟨?_, hmem⟩, ?_⟩
    · rintro rfl
      exact not_region_mem h b hmem
    · rintro (⟨-, -, hfalse⟩ | ⟨-, hmem⟩)
      · exact absurd hfalse (by decide)
      · exact hmem
  | insert h hrefuses place block hplace hblock =>
    have hregion : (place.insert block).hasRegion kind = true := hasRegion_iff.2
      ⟨body, Place.region_mem_insert.2 (Or.inr (hblock.region_mem_iff.2 ⟨rfl, rfl⟩))⟩
    rw [Place.region_mem_insert, hplace.page_eq, hblock.region_mem_iff, hregion]
    constructor
    · rintro (hmem | ⟨rfl, rfl⟩)
      · refine Or.inr ⟨?_, hmem⟩
        rintro rfl
        rw [hasRegion_iff.2 ⟨b, hmem⟩] at h
        exact absurd h (by decide)
      · exact Or.inl ⟨rfl, rfl, rfl⟩
    · rintro (⟨rfl, rfl, -⟩ | ⟨-, hmem⟩)
      · exact Or.inr ⟨rfl, rfl⟩
      · exact Or.inl hmem

/-- The page has regions of the kind after the step if it had some or takes a new one. -/
theorem hasRegion_iff_not (h : RegionStep kind body refuses page next) :
    next.hasRegion kind = true ↔ page.hasRegion kind = true ∨ ¬ refuses := by
  cases h with
  | fill h => simp [setRegions_eq_mapInteriors, h]
  | skip h hrefuses => simp [h, hrefuses]
  | insert h hrefuses place block hplace hblock =>
    refine iff_of_true (hasRegion_iff.2 ⟨body, ?_⟩) (Or.inr hrefuses)
    exact Place.region_mem_insert.2 (Or.inr (hblock.region_mem_iff.2 ⟨rfl, rfl⟩))

/-- The step leaves the regions of other kinds. -/
theorem hasRegion_of_ne (h : RegionStep kind body refuses page next) {k : RegionKind}
    (hk : k ≠ kind) : next.hasRegion k = page.hasRegion k := by
  rw [Bool.eq_iff_iff, hasRegion_iff, hasRegion_iff]
  simp [h.region_mem_iff, hk]

/-- A page that has no region of the kind after the step was left alone. -/
theorem eq_and_refuses (h : RegionStep kind body refuses page next)
    (hnot : next.hasRegion kind = false) : next = page ∧ refuses := by
  cases h with
  | fill h =>
    rw [setRegions_eq_mapInteriors, hasRegion_mapInteriors, h] at hnot
    exact absurd hnot (by decide)
  | skip h hrefuses => exact ⟨rfl, hrefuses⟩
  | insert h hrefuses place block hplace hblock =>
    rw [hasRegion_iff.2
      ⟨body, Place.region_mem_insert.2 (Or.inr (hblock.region_mem_iff.2 ⟨rfl, rfl⟩))⟩] at hnot
    exact absurd hnot (by decide)

/-- The step closes a begin marker exactly when it inserts a region behind one of its kind. -/
theorem isInert_iff (h : RegionStep kind body refuses page next) :
    next.IsInert ↔ page.IsInert ∧ ¬ Captures page next := by
  constructor
  · intro hinert
    refine ⟨?_, fun hcaptures => hcaptures.not_isInert hinert⟩
    cases h with
    | fill h => rwa [setRegions_eq_mapInteriors, IsInert, outline_mapInteriors] at hinert
    | skip h hrefuses => exact hinert
    | insert h hrefuses place block hplace hblock =>
      rw [(hblock.fits hplace).isInert_iff hblock.beginMarker_not_infix_outline] at hinert
      exact hplace.page_eq ▸ hinert.1
  · rintro ⟨hinert, hcaptures⟩
    cases h with
    | fill h => rwa [setRegions_eq_mapInteriors, IsInert, outline_mapInteriors]
    | skip h hrefuses => exact hinert
    | insert h hrefuses place block hplace hblock =>
      rw [(hblock.fits hplace).isInert_iff hblock.beginMarker_not_infix_outline, hplace.page_eq]
      refine ⟨hinert, fun k hend hbegin => hcaptures ⟨kind, h, ?_⟩⟩
      obtain rfl : k = kind := RegionKind.endMarker_infix_endMarker_iff.1
        ((hblock.infix_outline_iff k.isToken_endMarker).1 hend)
      exact hblock.isAhead place hbegin

/-- The step only fills a page that has regions of the kind, or refuses a new one. -/
theorem eq_setRegions (h : RegionStep kind body refuses page next)
    (hsettled : page.hasRegion kind = false → refuses) : next = page.setRegions kind body := by
  cases h with
  | fill h => rfl
  | skip h hrefuses => exact (setRegions_of_not_hasRegion h).symm
  | insert h hrefuses place block hplace hblock => exact absurd (hsettled h) hrefuses

end RegionStep

/-- The page takes no new cookie region: it has the banner, there is no banner, or the body of the
page has no end. -/
def RefusesBanner (banner : Text) (page : Page) : Prop :=
  page.contains cookieConsentId = true ∨ banner.trim = [] ∨ ¬ bodyClose <:+: page.outline

theorem weaveNav_regionStep (nav : Text) (page : Page) :
    RegionStep .nav (ownLines nav) True page (page.weaveNav nav).1 := by
  rw [weaveNav]
  split
  · next h => exact .fill h
  · next h => exact .skip (Bool.eq_false_iff.2 h) trivial

theorem weaveCookieConsent_regionStep (banner : Text) {page : Page} (hpage : page.IsIntact) :
    RegionStep .cookieConsent (cookieBody banner) (page.RefusesBanner banner) page
      (page.weaveCookieConsent banner).1 := by
  rw [weaveCookieConsent]
  split
  · next h => exact .fill h
  next h =>
  have hnone : page.hasRegion .cookieConsent = false := Bool.eq_false_iff.2 h
  split
  · next hguard => exact .skip hnone (Or.inl hguard)
  next hguard =>
  split
  · next hblank => exact .skip hnone (Or.inr (Or.inl (List.isEmpty_iff.1 hblank)))
  next hblank =>
  split
  · next hplace =>
    exact .skip hnone (Or.inr (Or.inr
      ((firstPlace?_eq_none_iff_of_isIntact hpage isLandmark_bodyClose).1 hplace)))
  · next place hplace =>
    refine .insert hnone ?_ place _ (isBefore_of_firstPlace? hplace) .behind
    rintro (hcontains | htrim | hclose)
    · exact hguard hcontains
    · exact hblank (List.isEmpty_iff.2 htrim)
    · rw [(firstPlace?_eq_none_iff_of_isIntact hpage isLandmark_bodyClose).2 hclose] at hplace
      exact absurd hplace (by simp)

theorem weaveScripts_regionStep (scripts : Text) {page : Page} (hpage : page.IsIntact) :
    RegionStep .sharedScripts (ownLines scripts) (¬ bodyClose <:+: page.outline) page
      (page.weaveScripts scripts).1 := by
  rw [weaveScripts]
  split
  · next h => exact .fill h
  next h =>
  have hnone : page.hasRegion .sharedScripts = false := Bool.eq_false_iff.2 h
  split
  · next hplace =>
    exact .skip hnone ((lastPlace?_eq_none_iff_of_isIntact hpage isLandmark_bodyClose).1 hplace)
  · next place hplace =>
    refine .insert hnone ?_ place _ (isBefore_of_lastPlace? hplace) .apart
    rw [← lastPlace?_eq_none_iff_of_isIntact hpage isLandmark_bodyClose, hplace]
    simp

/-! ### The step for the footer links -/

/-- The page takes no footer links: it has no footer, it has the links, or there are none. -/
def RefusesLinks (links : Text) (page : Page) : Prop :=
  ¬ footerClose <:+: page.outline ∨ page.contains footerLinksId = true ∨ links.trim = []

/-- What the step for the footer links can do to a page. -/
inductive FooterStep (links : Text) (page : Page) : Page → Prop
  | skip (hrefuses : page.RefusesLinks links) : FooterStep links page page
  | insert (hrefuses : ¬ page.RefusesLinks links) (place : Place) (line : Text)
      (hplace : place.page = page) (hfits : place.Fits [.text line])
      (hline : ∀ token, IsToken token → (token <:+: line ↔ token <:+: links.trim)) :
      FooterStep links page (place.insert [.text line])

namespace FooterStep

variable {links : Text}

theorem isExtension (h : FooterStep links page next) : IsExtension page next := by
  cases h with
  | skip hrefuses => exact IsExtension.refl page
  | insert hrefuses place line hplace hfits hline =>
    exact hplace ▸ IsExtension.insert hfits (isIntact_of_text line)

theorem region_mem_iff (h : FooterStep links page next) :
    .region kind body ∈ next ↔ .region kind body ∈ page := by
  cases h with
  | skip hrefuses => rfl
  | insert hrefuses place line hplace hfits hline =>
    rw [Place.region_mem_insert, hplace]
    simp

theorem hasRegion_eq (h : FooterStep links page next) (kind : RegionKind) :
    next.hasRegion kind = page.hasRegion kind := by
  rw [Bool.eq_iff_iff, hasRegion_iff, hasRegion_iff]
  simp only [h.region_mem_iff]

/-- The step leaves a page alone that refuses the links. -/
theorem eq_self (h : FooterStep links page next) (hrefuses : page.RefusesLinks links) :
    next = page := by
  cases h with
  | skip _ => rfl
  | insert hnot place line hplace hfits hline => exact absurd hrefuses hnot

/-- The step brings the tokens of the links, and no others. -/
theorem infix_outline_iff (h : FooterStep links page next) {token : Text} (htoken : IsToken token) :
    token <:+: next.outline ↔
      token <:+: page.outline ∨ (¬ page.RefusesLinks links ∧ token <:+: links.trim) := by
  cases h with
  | skip hrefuses => simp [hrefuses]
  | insert hrefuses place line hplace hfits hline =>
    rw [hfits.infix_outline_iff htoken, hplace, outline_cons_text, outline_nil, List.append_nil,
      hline token htoken, and_iff_right hrefuses]

/-- Links without markers do not change whether a begin marker outside the regions is closed. -/
theorem isInert_iff (h : FooterStep links page next) (hlinks : links.trim.IsMarkerFree) :
    next.IsInert ↔ page.IsInert := by
  cases h with
  | skip hrefuses => rfl
  | insert hrefuses place line hplace hfits hline =>
    have hfree : ∀ kind : RegionKind, ¬ kind.beginMarker <:+: outline [.text line] ∧
        ¬ kind.endMarker <:+: outline [.text line] := by
      intro kind
      rw [outline_cons_text, outline_nil, List.append_nil, hline _ kind.isToken_beginMarker,
        hline _ kind.isToken_endMarker]
      exact hlinks kind
    rw [hfits.isInert_iff fun kind => (hfree kind).1, hplace]
    exact and_iff_left fun kind hend => absurd hend (hfree kind).2

end FooterStep

theorem weaveFooterLinks_footerStep (links : Text) {page : Page} (hpage : page.IsIntact)
    (hapart : page.HasTextsApart) : FooterStep links page (page.weaveFooterLinks links).1 := by
  rw [weaveFooterLinks]
  split
  · next hplace =>
    exact .skip (Or.inl
      ((firstPlace?_eq_none_iff_of_isIntact hpage isLandmark_footerClose).1 hplace))
  next place hplace =>
  obtain ⟨hpage_eq, rest, hright⟩ := isBefore_of_firstPlace? hplace
  split
  · next hguard => exact .skip (Or.inr (Or.inl hguard))
  next hguard =>
  split
  · next hblank => exact .skip (Or.inr (Or.inr (List.isEmpty_iff.1 hblank)))
  next hblank =>
  have hrefuses : ¬ page.RefusesLinks links := by
    rintro (hclose | hcontains | htrim)
    · rw [(firstPlace?_eq_none_iff_of_isIntact hpage isLandmark_footerClose).2 hclose] at hplace
      exact absurd hplace (by simp)
    · exact hguard hcontains
    · exact hblank (List.isEmpty_iff.2 htrim)
  obtain ⟨target, line, heq, htarget, hfits, hline⟩ :=
    exists_insertFooterLine_eq links.trim hright (hpage_eq ▸ hapart)
  rw [heq]
  exact .insert hrefuses target line (htarget.trans hpage_eq) hfits hline

/-- The step reports that it inserted the links exactly when the page does not refuse them. -/
theorem weaveFooterLinks_snd_eq_applied_iff (links : Text) (hpage : page.IsIntact) :
    (page.weaveFooterLinks links).2 = .applied ↔ ¬ page.RefusesLinks links := by
  rw [RefusesLinks, ← firstPlace?_eq_none_iff_of_isIntact hpage isLandmark_footerClose,
    ← List.isEmpty_iff, weaveFooterLinks]
  cases page.firstPlace? footerClose with
  | none => simp
  | some place =>
    dsimp only
    split
    · next hguard => simp [hguard]
    next hguard =>
    split
    · next hblank => simp [hblank]
    · next hblank => simp [hguard, hblank]

end Page

end SiteWeave
