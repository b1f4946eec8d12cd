import SiteWeave.Proofs.Page.Step

/-!
# What a run leaves behind

A run is the four steps one behind the other. It keeps everything outside the regions, leaves in
every region the interior that its fragments prescribe, and inserts at most a line of links and one
region of each of two kinds. The page that it writes is read back as it was written unless a region
went behind a begin marker of its kind.

A page is settled when a run finds nothing to insert into it; such a run only fills the regions.
What kept a step of one run from inserting must still be there in the next run, if the page is to be
settled after one run. This can fail when it stood in the interior of a region.

## Main definitions

* `PageFragments.IsMarkerFree`: fragments that hold no marker.
* `Page.IsRun`: the pages between the steps of a run.
* `Page.IsSettled`: a run finds nothing to insert.
* `Page.GuardsLast`: what a run finds in the interiors of regions is there in the next run.
* `Captures`: a run that inserts a region behind a begin marker of its kind.

## Main results

* `Page.isRun_weaveAll`: every run goes through the four steps.
* `Page.IsRun.body_eq`: the interiors after a run.
* `Page.IsRun.isInert_iff`: when the page is inert after a run.
* `Page.IsSettled.weaveAll_eq_fill`: a run over a settled page only fills it.
* `Page.IsRun.isSettled`: a page is settled after a run whose guards last.
* `parse_weave_eq_join_iff`: the page is read back unless a begin marker is captured.
-/

namespace SiteWeave

open Text

/-! ### Fragments without markers -/

theorem infix_ownLines_iff {token content : Text} (htoken : IsToken token) :
    token <:+: ownLines content ↔ token <:+: content := by
  rw [ownLines, List.cons_append, htoken.infix_cons_lineEnd_iff,
    (htoken.isSeam_lineEnd content []).infix_append_iff, htoken.infix_cons_lineEnd_iff,
    List.infix_nil, or_iff_left htoken.ne_nil]

theorem isMarkerFree_ownLines {content : Text} (h : content.IsMarkerFree) :
    (ownLines content).IsMarkerFree := by
  intro kind
  rw [infix_ownLines_iff kind.isToken_beginMarker, infix_ownLines_iff kind.isToken_endMarker]
  exact h kind

/-- The fragments hold no marker, apart from the markers that a cookie banner may stand between. -/
structure PageFragments.IsMarkerFree (fragments : PageFragments) : Prop where
  nav : fragments.nav.IsMarkerFree
  footerLinks : fragments.footerLinks.IsMarkerFree
  cookieConsent : (cookieBody fragments.cookieConsent).IsMarkerFree
  scripts : fragments.scripts.IsMarkerFree

namespace PageFragments.IsMarkerFree

variable {fragments : PageFragments}

theorem body (h : fragments.IsMarkerFree) : ∀ kind, (fragments.body kind).IsMarkerFree
  | .nav => isMarkerFree_ownLines h.nav
  | .cookieConsent => h.cookieConsent
  | .sharedScripts => isMarkerFree_ownLines h.scripts

theorem trim_footerLinks (h : fragments.IsMarkerFree) :
    fragments.footerLinks.trim.IsMarkerFree := fun kind =>
  ⟨fun hoccurs => (h.footerLinks kind).1 (hoccurs.trans (trim_isInfix _)),
    fun hoccurs => (h.footerLinks kind).2 (hoccurs.trans (trim_isInfix _))⟩

end PageFragments.IsMarkerFree

namespace Page

variable {f g : PageFragments} {page filled linked bannered last : Page}

/-! ### The steps of a run -/

/-- The page after the step for the navigation. -/
def withNav (f : PageFragments) (page : Page) : Page :=
  (page.weaveNav f.nav).1

/-- The page after the step for the footer links. -/
def withLinks (f : PageFragments) (page : Page) : Page :=
  ((page.withNav f).weaveFooterLinks f.footerLinks).1

/-- The page after the step for the cookie banner. -/
def withBanner (f : PageFragments) (page : Page) : Page :=
  ((page.withLinks f).weaveCookieConsent f.cookieConsent).1

/-- The pages between the steps of a run: with the navigation filled, with the footer links, and
with the cookie banner. -/
structure IsRun (f : PageFragments) (page filled linked bannered last : Page) : Prop where
  nav : RegionStep .nav (f.body .nav) True page filled
  footerLinks : FooterStep f.footerLinks filled linked
  cookieConsent : RegionStep .cookieConsent (f.body .cookieConsent)
    (linked.RefusesBanner f.cookieConsent) linked bannered
  sharedScripts : RegionStep .sharedScripts (f.body .sharedScripts)
    (¬ bodyClose <:+: bannered.outline) bannered last

theorem isRun_weaveAll (f : PageFragments) (h : HasTextsApart page) :
    IsRun f page (page.withNav f) (page.withLinks f) (page.withBanner f) (page.weaveAll f).1 := by
  have hnav : RegionStep .nav (f.body .nav) True page (page.withNav f) :=
    weaveNav_regionStep f.nav page
  have hfilled : HasTextsApart (page.withNav f) := by
    rw [hnav.eq_setRegions fun _ => trivial, setRegions_eq_mapInteriors]
    exact h.mapInteriors
  have hlinks : FooterStep f.footerLinks (page.withNav f) (page.withLinks f) :=
    weaveFooterLinks_footerStep f.footerLinks hfilled.isIntact hfilled
  have hlinked : IsIntact (page.withLinks f) := hlinks.isExtension.isIntact hfilled.isIntact
  have hbanner : RegionStep .cookieConsent (f.body .cookieConsent)
      ((page.withLinks f).RefusesBanner f.cookieConsent) (page.withLinks f) (page.withBanner f) :=
    weaveCookieConsent_regionStep f.cookieConsent hlinked
  exact ⟨hnav, hlinks, hbanner,
    weaveScripts_regionStep f.scripts (hbanner.isExtension.isIntact hlinked)⟩

namespace IsRun

variable {kind : RegionKind} {body : Text}

theorem filled_eq (h : IsRun f page filled linked bannered last) :
    filled = page.setRegions .nav (f.body .nav) :=
  h.nav.eq_setRegions fun _ => trivial

theorem outline_filled (h : IsRun f page filled linked bannered last) :
    filled.outline = page.outline := by
  rw [h.filled_eq, setRegions_eq_mapInteriors, outline_mapInteriors]

theorem isExtension_linked (h : IsRun f page filled linked bannered last) :
    IsExtension page linked :=
  h.nav.isExtension.trans h.footerLinks.isExtension

theorem isExtension_last (h : IsRun f page filled linked bannered last) :
    IsExtension linked last :=
  h.cookieConsent.isExtension.trans h.sharedScripts.isExtension

theorem isExtension (h : IsRun f page filled linked bannered last) : IsExtension page last :=
  h.isExtension_linked.trans h.isExtension_last

/-- After a run, every region has the interior that the fragments prescribe. -/
theorem body_eq (h : IsRun f page filled linked bannered last)
    (hmem : .region kind body ∈ last) : body = f.body kind := by
  rcases h.sharedScripts.region_mem_iff.1 hmem with ⟨rfl, rfl, -⟩ | ⟨hscripts, hmem⟩
  · rfl
  rcases h.cookieConsent.region_mem_iff.1 hmem with ⟨rfl, rfl, -⟩ | ⟨hcookie, hmem⟩
  · rfl
  rcases h.nav.region_mem_iff.1 (h.footerLinks.region_mem_iff.1 hmem) with
    ⟨rfl, rfl, -⟩ | ⟨hnav, -⟩
  · rfl
  · cases kind <;> contradiction

theorem fill_eq_self (h : IsRun f page filled linked bannered last) : last.fill f.body = last :=
  fill_eq_self_iff.2 fun _ _ hmem => h.body_eq hmem

theorem hasFreeBodies (h : IsRun f page filled linked bannered last) (hfree : f.IsMarkerFree) :
    HasFreeBodies last := by
  intro kind body hmem
  rw [h.body_eq hmem]
  exact hfree.body kind

/-- The regions that the step for the cookie banner finds in the page. -/
theorem region_mem_linked_iff (h : IsRun f page filled linked bannered last) :
    .region kind body ∈ linked ↔
      (kind = .nav ∧ body = f.body .nav ∧ filled.hasRegion .nav = true) ∨
        (kind ≠ .nav ∧ .region kind body ∈ page) :=
  h.footerLinks.region_mem_iff.trans h.nav.region_mem_iff

/-- Behind the step for the footer links, no landmark is added outside the regions. -/
theorem infix_outline_last_iff (h : IsRun f page filled linked bannered last) {landmark : Text}
    (hlandmark : IsLandmark landmark) :
    landmark <:+: last.outline ↔ landmark <:+: linked.outline :=
  (h.sharedScripts.infix_outline_iff hlandmark).trans (h.cookieConsent.infix_outline_iff hlandmark)

/-! ### Begin markers that are captured -/

/-- A run with links without markers closes a begin marker exactly when it inserts a region behind
one of its kind. -/
theorem isInert_iff (h : IsRun f page filled linked bannered last)
    (hlinks : f.footerLinks.trim.IsMarkerFree) :
    last.IsInert ↔ page.IsInert ∧ ¬ Captures page last := by
  have hfilled : filled.IsInert ↔ page.IsInert := by rw [IsInert, IsInert, h.outline_filled]
  constructor
  · intro hlast
    have hbannered := (h.sharedScripts.isInert_iff.1 hlast).1
    have hlinked := (h.cookieConsent.isInert_iff.1 hbannered).1
    exact ⟨hfilled.1 ((h.footerLinks.isInert_iff hlinks).1 hlinked),
      fun hcaptures => hcaptures.not_isInert hlast⟩
  · rintro ⟨hpage, hcaptures⟩
    have hlinked : linked.IsInert := (h.footerLinks.isInert_iff hlinks).2 (hfilled.2 hpage)
    have hbannered : bannered.IsInert := h.cookieConsent.isInert_iff.2 ⟨hlinked, fun hc =>
      hcaptures (hc.extend h.isExtension_linked h.sharedScripts.isExtension)⟩
    exact h.sharedScripts.isInert_iff.2 ⟨hbannered, fun hc => hcaptures
      (hc.extend (h.isExtension_linked.trans h.cookieConsent.isExtension) (IsExtension.refl last))⟩

theorem hasRegion_nav (h : IsRun f page filled linked bannered last)
    (hlast : last.hasRegion .nav = true) : page.hasRegion .nav = true := by
  obtain ⟨body, hmem⟩ := hasRegion_iff.1 hlast
  rw [h.sharedScripts.region_mem_iff, h.cookieConsent.region_mem_iff, h.region_mem_linked_iff,
    h.filled_eq, setRegions_eq_mapInteriors, hasRegion_mapInteriors] at hmem
  have hpair : body = f.body .nav ∧ page.hasRegion .nav = true := by simpa using hmem
  exact hpair.2

/-- A run brings no begin marker outside the regions. -/
theorem beginMarker_infix_outline (h : IsRun f page filled linked bannered last)
    (hlinks : f.footerLinks.trim.IsMarkerFree) (hoccurs : kind.beginMarker <:+: last.outline) :
    kind.beginMarker <:+: page.outline := by
  rw [h.infix_outline_last_iff kind.isLandmark_beginMarker] at hoccurs
  rcases (h.footerLinks.infix_outline_iff kind.isToken_beginMarker).1 hoccurs with
    hfilled | ⟨-, hline⟩
  · rwa [h.outline_filled] at hfilled
  · exact absurd hline (hlinks kind).1

/-- Where no begin marker stands outside the regions, a run captures none. -/
theorem not_captures (h : IsRun f page filled linked bannered last)
    (hlinks : f.footerLinks.trim.IsMarkerFree)
    (hstray : ∀ kind : RegionKind, kind ≠ .nav → ¬ kind.beginMarker <:+: page.outline) :
    ¬ Captures page last := by
  rintro ⟨kind, hregion, front, body, back, heq, hoccurs⟩
  have hnav : kind ≠ .nav := by
    rintro rfl
    rw [h.hasRegion_nav (hasRegion_iff.2 ⟨body, by simp [heq]⟩)] at hregion
    exact absurd hregion (by decide)
  refine hstray kind hnav (h.beginMarker_infix_outline hlinks ?_)
  rw [heq, outline_append]
  exact List.infix_append_of_infix_left hoccurs

end IsRun

/-! ### Settled pages -/

/-- A run with the fragments finds nothing to insert into the page. -/
structure IsSettled (f : PageFragments) (page : Page) : Prop where
  footerLinks : (page.setRegions .nav (f.body .nav)).RefusesLinks f.footerLinks
  cookieConsent : page.hasRegion .cookieConsent = false →
    (page.setRegions .nav (f.body .nav)).RefusesBanner f.cookieConsent
  sharedScripts : page.hasRegion .sharedScripts = false → ¬ bodyClose <:+: page.outline

/-- A run over a settled page only fills its regions. -/
theorem IsSettled.weaveAll_eq_fill (h : IsSettled f page) (hpage : HasTextsApart page) :
    (page.weaveAll f).1 = page.fill f.body := by
  have hrun := isRun_weaveAll f hpage
  have hlinked : page.withLinks f = page.setRegions .nav (f.body .nav) := by
    rw [hrun.footerLinks.eq_self (hrun.filled_eq ▸ h.footerLinks), hrun.filled_eq]
  have hbannered : page.withBanner f =
      (page.withLinks f).setRegions .cookieConsent (f.body .cookieConsent) := by
    refine hrun.cookieConsent.eq_setRegions fun hnone => ?_
    rw [hlinked, setRegions_eq_mapInteriors, hasRegion_mapInteriors] at hnone
    exact hlinked ▸ h.cookieConsent hnone
  have hlast := hrun.sharedScripts.eq_setRegions fun hnone => by
    rw [hbannered, hlinked, setRegions_eq_mapInteriors, setRegions_eq_mapInteriors,
      hasRegion_mapInteriors, hasRegion_mapInteriors] at hnone
    rw [hbannered, hlinked, setRegions_eq_mapInteriors, setRegions_eq_mapInteriors,
      outline_mapInteriors, outline_mapInteriors]
    exact h.sharedScripts hnone
  rw [hlast, hbannered, hlinked, setRegions_eq_mapInteriors, setRegions_eq_mapInteriors,
    setRegions_eq_mapInteriors, mapInteriors_mapInteriors, mapInteriors_mapInteriors, fill]
  refine mapInteriors_congr fun kind body _ => ?_
  cases kind <;> rfl

/-- What kept a step of a run with `f` from inserting is there for a next run with `g`. -/
structure GuardsLast (f g : PageFragments) (page : Page) : Prop where
  footerLinks : f.footerLinks.trim = [] ∨ footerLinksId <:+: f.footerLinks.trim
  footerLinks_blank : f.footerLinks.trim = [] → g.footerLinks.trim = []
  cookieConsent_blank : f.cookieConsent.trim = [] → g.cookieConsent.trim = []
  footerLinksId_nav : footerLinksId <:+: f.nav → footerLinksId <:+: g.nav
  cookieConsentId_nav : cookieConsentId <:+: f.nav → cookieConsentId <:+: g.nav
  footerLinksId_body : ∀ kind body, kind ≠ .nav → .region kind body ∈ page →
    footerLinksId <:+: body → footerLinksId <:+: f.body kind
  cookieConsentId_body : ∀ body, .region .sharedScripts body ∈ page →
    cookieConsentId <:+: body → cookieConsentId <:+: f.body .sharedScripts

namespace IsRun

/-- What the middle of a run finds in the page is there in the next run, if it is in the fresh
interior of a region that it was found in. -/
theorem contains_join (h : IsRun f page filled linked bannered last) (hpage : HasTextsApart page)
    {guard : Text} (hguard : IsLandmark guard) (hseen : linked.contains guard = true)
    (hbodies : ∀ kind body, .region kind body ∈ linked → guard <:+: body →
      guard <:+: if kind = .nav then g.body .nav else f.body kind) :
    ((join last).setRegions .nav (g.body .nav)).contains guard = true := by
  have hlinked : linked.IsIntact := h.isExtension_linked.isIntact hpage.isIntact
  have hnext : IsIntact ((join last).setRegions .nav (g.body .nav)) :=
    (hasTextsApart_join last).mapInteriors.isIntact
  rw [contains_eq_true_iff_of_isIntact hnext hguard]
  rw [contains_eq_true_iff_of_isIntact hlinked hguard] at hseen
  rcases hseen with houtline | ⟨kind, body, hmem, hoccurs⟩
  · left
    rw [setRegions_eq_mapInteriors, outline_mapInteriors, outline_join]
    exact h.isExtension_last.infix_outline _ hguard.toIsToken houtline
  · right
    obtain ⟨fresh, hfresh⟩ :=
      hasRegion_iff.1 (h.isExtension_last.hasRegion kind (hasRegion_iff.2 ⟨body, hmem⟩))
    obtain rfl := h.body_eq hfresh
    refine ⟨kind, _, region_mem_mapInteriors.2 ⟨f.body kind, region_mem_join.2 hfresh, rfl⟩, ?_⟩
    have hlasts := hbodies kind body hmem hoccurs
    by_cases hkind : kind = .nav
    · rw [if_pos hkind] at hlasts ⊢
      exact hlasts
    · rw [if_neg hkind] at hlasts ⊢
      exact hlasts

theorem outline_join_setRegions (h : IsRun f page filled linked bannered last) {landmark : Text}
    (hlandmark : IsLandmark landmark) (hnot : ¬ landmark <:+: linked.outline) (body : Text) :
    ¬ landmark <:+: outline ((join last).setRegions .nav body) := by
  rw [setRegions_eq_mapInteriors, outline_mapInteriors, outline_join,
    h.infix_outline_last_iff hlandmark]
  exact hnot

theorem refusesLinks_join (h : IsRun f page filled linked bannered last)
    (hpage : HasTextsApart page) (hguards : GuardsLast f g page) :
    ((join last).setRegions .nav (g.body .nav)).RefusesLinks g.footerLinks := by
  have hkept (hseen : linked.contains footerLinksId = true) :
      ((join last).setRegions .nav (g.body .nav)).contains footerLinksId = true := by
    refine h.contains_join hpage isLandmark_footerLinksId hseen fun kind body hmem hoccurs => ?_
    rcases h.region_mem_linked_iff.1 hmem with ⟨rfl, rfl, -⟩ | ⟨hkind, hmem⟩
    · rw [if_pos rfl]
      rw [PageFragments.body, infix_ownLines_iff isLandmark_footerLinksId.toIsToken] at hoccurs ⊢
      exact hguards.footerLinksId_nav hoccurs
    · rw [if_neg hkind]
      exact hguards.footerLinksId_body kind body hkind hmem hoccurs
  have hstep := h.footerLinks
  cases hstep with
  | skip hrefuses =>
    rcases hrefuses with hclose | hseen | hblank
    · exact Or.inl (h.outline_join_setRegions isLandmark_footerClose hclose _)
    · exact Or.inr (Or.inl (hkept hseen))
    · exact Or.inr (Or.inr (hguards.footerLinks_blank hblank))
  | insert hrefuses place line hplace hfits hline =>
    -- The links are not blank, so that they have brought their guard.
    have hblank : f.footerLinks.trim ≠ [] := fun hblank => hrefuses (Or.inr (Or.inr hblank))
    have hid : footerLinksId <:+: line := (hline _ isLandmark_footerLinksId.toIsToken).2
      (hguards.footerLinks.resolve_left hblank)
    have hmem : .text line ∈ place.insert [.text line] := by simp [Place.insert]
    exact Or.inr (Or.inl (hkept (contains_eq_true_iff.2 (Or.inl ⟨line, hmem, hid⟩))))

theorem refusesBanner_join (h : IsRun f page filled linked bannered last)
    (hpage : HasTextsApart page) (hguards : GuardsLast f g page)
    (hnone : last.hasRegion .cookieConsent = false) :
    ((join last).setRegions .nav (g.body .nav)).RefusesBanner g.cookieConsent := by
  obtain ⟨rfl, hrefuses⟩ :=
    h.cookieConsent.eq_and_refuses (h.sharedScripts.isExtension.hasRegion_eq_false hnone)
  rcases hrefuses with hseen | hblank | hclose
  · refine Or.inl (h.contains_join hpage isLandmark_cookieConsentId hseen
      fun kind body hmem hoccurs => ?_)
    rcases h.region_mem_linked_iff.1 hmem with ⟨rfl, rfl, -⟩ | ⟨hkind, hpagemem⟩
    · rw [if_pos rfl]
      rw [PageFragments.body, infix_ownLines_iff isLandmark_cookieConsentId.toIsToken] at hoccurs ⊢
      exact hguards.cookieConsentId_nav hoccurs
    · rw [if_neg hkind]
      cases kind with
      | nav => exact absurd rfl hkind
      | cookieConsent =>
        exact absurd hmem (not_region_mem (h.isExtension_last.hasRegion_eq_false hnone) body)
      | sharedScripts => exact hguards.cookieConsentId_body body hpagemem hoccurs
  · exact Or.inr (Or.inl (hguards.cookieConsent_blank hblank))
  · exact Or.inr (Or.inr (h.outline_join_setRegions isLandmark_bodyClose hclose _))

/-- After a run whose guards last, there is nothing left to insert. -/
theorem isSettled (h : IsRun f page filled linked bannered last) (hpage : HasTextsApart page)
    (hguards : GuardsLast f g page) : IsSettled g (join last) where
  footerLinks := h.refusesLinks_join hpage hguards
  cookieConsent hnone := h.refusesBanner_join hpage hguards (hasRegion_join ▸ hnone)
  sharedScripts hnone := by
    rw [hasRegion_join] at hnone
    obtain ⟨rfl, hclose⟩ := h.sharedScripts.eq_and_refuses hnone
    rwa [outline_join]

end IsRun

end Page

/-! ### Reading the page again -/

variable {source : Text} {f : PageFragments}

/-- The run inserts a region behind a begin marker of its kind that stands outside the regions. -/
def Captures (source : Text) (f : PageFragments) : Prop :=
  Page.Captures (Page.parse source) ((Page.parse source).weaveAll f).1

theorem isInert_weaveAll_iff (hfree : f.IsMarkerFree) :
    ((Page.parse source).weaveAll f).1.IsInert ↔ ¬ Captures source f := by
  have hcanonical := Page.isCanonical_parse source
  have hrun := Page.isRun_weaveAll f hcanonical.toHasTextsApart
  rw [hrun.isInert_iff hfree.trim_footerLinks, and_iff_right hcanonical.isInert, Captures]

theorem hasFreeBodies_weaveAll (source : Text) (hfree : f.IsMarkerFree) :
    Page.HasFreeBodies ((Page.parse source).weaveAll f).1 :=
  (Page.isRun_weaveAll f (Page.isCanonical_parse source).toHasTextsApart).hasFreeBodies hfree

/-- **A run is read back unless it captures a begin marker.** After a run with fragments without
markers, the next run reads the segments that this one wrote, up to the cutting of texts, exactly
when no region was inserted behind a begin marker of its kind. -/
theorem parse_weave_eq_join_iff (hfree : f.IsMarkerFree) :
    Page.parse (weave source f).1 = ((Page.parse source).weaveAll f).1.join ↔
      ¬ Captures source f := by
  rw [← isInert_weaveAll_iff hfree]
  exact Page.parse_render_eq_join_iff (hasFreeBodies_weaveAll source hfree)

end SiteWeave
