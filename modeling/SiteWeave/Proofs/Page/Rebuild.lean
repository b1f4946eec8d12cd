import SiteWeave.Proofs.Page.Agreement

/-!
# Rebuilding a page

A site is built again and again over its own output. Two questions are settled here: when a further
run changes nothing, and when a run over an old build gives what a run over the original page gives.

Both go through the same argument. The page that a run wrote is read back with the same segments;
the next run finds it settled, so that it only fills the regions. For the second question, a run of
the old and a run of the new fragments over the original page see pages that agree, and take the
same decisions.

## Main definitions

* `Page.HasNoStrayMarker`: no begin marker of a region that can be inserted stands in a text.
* `Page.HasNoStaleGuard`: no interior that is overwritten holds what an earlier step looks for.

## Main results

* `weave_weave_eq_render_fill`: a second run whose guards have lasted only fills the regions.
* `weave_fixpoint`: the third run changes nothing, and without stale guards the second does not.
* `weave_weave_eq_weave`: an incremental rebuild equals a clean build.
-/

namespace SiteWeave

open Text

namespace Page

variable {f g : PageFragments} {page filled linked bannered last : Page}

/-- No text of the page holds the begin marker of a kind of region that a run can insert. -/
def HasNoStrayMarker (page : Page) : Prop :=
  ∀ kind : RegionKind, kind ≠ .nav → ∀ content, .text content ∈ page →
    ¬ kind.beginMarker <:+: content

/-- No interior holds a guard that a run looks for before it overwrites the interior. -/
structure HasNoStaleGuard (page : Page) : Prop where
  cookieConsent : ∀ body, .region .cookieConsent body ∈ page → ¬ footerLinksId <:+: body
  sharedScripts : ∀ body, .region .sharedScripts body ∈ page →
    ¬ footerLinksId <:+: body ∧ ¬ cookieConsentId <:+: body

instance (page : Page) : Decidable page.HasNoStrayMarker :=
  decidable_of_iff (∀ kind ∈ RegionKind.all, kind ≠ .nav →
      (page.firstPlace? kind.beginMarker).isNone) <| by
    simp only [HasNoStrayMarker, Option.isNone_iff_eq_none, firstPlace?_eq_none_iff]
    exact ⟨fun h kind => h kind kind.mem_all, fun h kind _ => h kind⟩

theorem HasNoStaleGuard.not_footerLinksId (h : page.HasNoStaleGuard) {kind : RegionKind}
    {body : Text} (hkind : kind ≠ .nav) (hmem : .region kind body ∈ page) :
    ¬ footerLinksId <:+: body := by
  cases kind with
  | nav => exact absurd rfl hkind
  | cookieConsent => exact h.cookieConsent body hmem
  | sharedScripts => exact (h.sharedScripts body hmem).1

theorem hasNoStrayMarker_iff (hpage : HasTextsApart page) : page.HasNoStrayMarker ↔
    ∀ kind : RegionKind, kind ≠ .nav → ¬ kind.beginMarker <:+: page.outline := by
  refine forall_congr' fun kind => forall_congr' fun _ => ?_
  rw [hpage.isIntact.infix_outline_iff kind.isLandmark_beginMarker]
  simp only [not_exists, not_and]

/-! ### A second run -/

/-- The guards of a run last for a run with the same fragments, if those that it finds in interiors
are in the fresh interiors as well. -/
theorem GuardsLast.self (hlinks : f.footerLinks.trim = [] ∨ footerLinksId <:+: f.footerLinks.trim)
    (hfooter : ∀ kind body, kind ≠ .nav → .region kind body ∈ page →
      footerLinksId <:+: body → footerLinksId <:+: f.body kind)
    (hcookie : ∀ body, .region .sharedScripts body ∈ page →
      cookieConsentId <:+: body → cookieConsentId <:+: f.body .sharedScripts) :
    GuardsLast f f page :=
  ⟨hlinks, id, id, id, id, hfooter, hcookie⟩

theorem IsRun.hasNoStrayMarker_join (h : IsRun f page filled linked bannered last)
    (hpage : HasTextsApart page) (hlinks : f.footerLinks.trim.IsMarkerFree)
    (hstray : page.HasNoStrayMarker) : (join last).HasNoStrayMarker := by
  rw [hasNoStrayMarker_iff (hasTextsApart_join last), outline_join]
  rw [hasNoStrayMarker_iff hpage] at hstray
  exact fun kind hkind hoccurs => hstray kind hkind (h.beginMarker_infix_outline hlinks hoccurs)

end Page

variable {source : Text} {f g : PageFragments}

theorem not_captures (hfree : f.IsMarkerFree) (hstray : (Page.parse source).HasNoStrayMarker) :
    ¬ Captures source f := by
  have hpage := (Page.isCanonical_parse source).toHasTextsApart
  exact (Page.isRun_weaveAll f hpage).not_captures hfree.trim_footerLinks
    ((Page.hasNoStrayMarker_iff hpage).1 hstray)

/-- Without stray markers, the page that a run wrote is read back. -/
theorem parse_weave (hfree : f.IsMarkerFree) (hstray : (Page.parse source).HasNoStrayMarker) :
    Page.parse (weave source f).1 = ((Page.parse source).weaveAll f).1.join :=
  (parse_weave_eq_join_iff hfree).2 (not_captures hfree hstray)

/-- Without stray markers, the page that a run wrote has none either. -/
theorem hasNoStrayMarker_parse_weave (hfree : f.IsMarkerFree)
    (hstray : (Page.parse source).HasNoStrayMarker) :
    (Page.parse (weave source f).1).HasNoStrayMarker := by
  have hpage := (Page.isCanonical_parse source).toHasTextsApart
  rw [parse_weave hfree hstray]
  exact (Page.isRun_weaveAll f hpage).hasNoStrayMarker_join hpage hfree.trim_footerLinks hstray

/-- A second run whose guards have lasted only fills the regions. -/
theorem weave_weave_eq_render_fill (hfree : f.IsMarkerFree)
    (hstray : (Page.parse source).HasNoStrayMarker)
    (hguards : Page.GuardsLast f g (Page.parse source)) :
    (weave (weave source f).1 g).1 =
      (((Page.parse source).weaveAll f).1.fill g.body).render := by
  have hpage := (Page.isCanonical_parse source).toHasTextsApart
  have hsettled := (Page.isRun_weaveAll f hpage).isSettled hpage hguards
  calc (weave (weave source f).1 g).1
      = ((Page.parse (weave source f).1).weaveAll g).1.render := rfl
    _ = (((Page.parse source).weaveAll f).1.join.weaveAll g).1.render := by
        rw [parse_weave hfree hstray]
    _ = (((Page.parse source).weaveAll f).1.join.fill g.body).render := by
        rw [hsettled.weaveAll_eq_fill (Page.hasTextsApart_join _)]
    _ = (((Page.parse source).weaveAll f).1.fill g.body).render := by
        rw [Page.fill, ← Page.join_mapInteriors, Page.render_join, Page.fill]

/-! ### The same fragments again -/

/-- A second run with the same fragments changes nothing when the guards of the first one last. -/
theorem weave_weave_self (hfree : f.IsMarkerFree) (hstray : (Page.parse source).HasNoStrayMarker)
    (hguards : Page.GuardsLast f f (Page.parse source)) :
    (weave (weave source f).1 f).1 = (weave source f).1 := by
  have hpage := (Page.isCanonical_parse source).toHasTextsApart
  rw [weave_weave_eq_render_fill hfree hstray hguards, (Page.isRun_weaveAll f hpage).fill_eq_self]
  rfl

/-- **Building reaches a fixpoint.** Let the fragments hold no marker, let the footer links be blank
or bring their guard, and let no begin marker of an insertable region stand in a text of the page.
Then the third run changes nothing. If moreover no interior that is overwritten holds a guard, then
the second run changes nothing. -/
theorem weave_fixpoint (source : Text) (f : PageFragments)
    (hlinks : f.footerLinks.trim = [] ∨ footerLinksId <:+: f.footerLinks.trim)
    (hfree : f.IsMarkerFree) (hstray : (Page.parse source).HasNoStrayMarker) :
    (weave (weave (weave source f).1 f).1 f).1 = (weave (weave source f).1 f).1 ∧
      ((Page.parse source).HasNoStaleGuard →
        (weave (weave source f).1 f).1 = (weave source f).1) := by
  have hpage := (Page.isCanonical_parse source).toHasTextsApart
  have hrun := Page.isRun_weaveAll f hpage
  have hnext := parse_weave hfree hstray
  constructor
  · -- After the first run every interior is the one that the next run writes.
    refine weave_weave_self hfree (hasNoStrayMarker_parse_weave hfree hstray)
      (.self hlinks (fun kind body _ hmem hoccurs => ?_) (fun body hmem hoccurs => ?_))
    · rw [hnext, Page.region_mem_join] at hmem
      exact hrun.body_eq hmem ▸ hoccurs
    · rw [hnext, Page.region_mem_join] at hmem
      exact hrun.body_eq hmem ▸ hoccurs
  · intro hstale
    refine weave_weave_self hfree hstray
      (.self hlinks (fun kind body hkind hmem hoccurs => ?_) (fun body hmem hoccurs => ?_))
    · exact absurd hoccurs (hstale.not_footerLinksId hkind hmem)
    · exact absurd hoccurs (hstale.sharedScripts body hmem).2

/-- A page with a region for the navigation and a footer. -/
def samplePage : Text :=
  "<!-- SITE_NAV --><!-- /SITE_NAV -->\n<footer>\n  </footer>\n</body>".toList

/-- Fragments that bring every guard. -/
def sampleFragments : PageFragments where
  nav := "Home".toList
  footerLinks := "<button id=\"cookie-settings-btn\">".toList
  cookieConsent := "<div id=\"cookie-consent\">".toList
  scripts := "<script>".toList

theorem isMarkerFree_sampleFragments : sampleFragments.IsMarkerFree :=
  ⟨by decide, by decide, by decide, by decide⟩

theorem hasNoStaleGuard_samplePage : (Page.parse samplePage).HasNoStaleGuard := by
  have hparse : Page.parse samplePage =
      [.region .nav [], .text "\n<footer>\n  </footer>\n</body>".toList] := by decide +kernel
  rw [hparse]
  exact ⟨by simp, by simp⟩

theorem weave_fixpoint_samplePage :
    (weave (weave samplePage sampleFragments).1 sampleFragments).1 =
      (weave samplePage sampleFragments).1 := by
  have hlinks : footerLinksId <:+: sampleFragments.footerLinks.trim :=
    contains_eq_true_iff.1 (by decide)
  exact (weave_fixpoint samplePage sampleFragments (Or.inr hlinks) isMarkerFree_sampleFragments
    (by decide +kernel)).2 hasNoStaleGuard_samplePage

/-! ### New fragments over an old build -/

namespace Page

/-- What the step for the footer links looks for is found outside the regions, or not at all. -/
theorem contains_withNav_iff (hpage : HasTextsApart page) (hstale : page.HasNoStaleGuard)
    (hnav : ¬ footerLinksId <:+: f.nav) :
    (page.withNav f).contains footerLinksId = true ↔ footerLinksId <:+: page.outline := by
  have hrun := isRun_weaveAll f hpage
  have hintact : (page.withNav f).IsIntact := hrun.nav.isExtension.isIntact hpage.isIntact
  rw [contains_eq_true_iff_infix_outline hintact isLandmark_footerLinksId, hrun.filled_eq,
    setRegions_eq_mapInteriors, outline_mapInteriors]
  intro kind body hmem hoccurs
  rcases hrun.nav.region_mem_iff.1 hmem with ⟨-, rfl, -⟩ | ⟨hkind, hmem⟩
  · exact hnav ((infix_ownLines_iff isLandmark_footerLinksId.toIsToken).1 hoccurs)
  · exact hstale.not_footerLinksId hkind hmem hoccurs

/-- What the step for the cookie banner looks for is found outside the regions, or not at all. -/
theorem contains_withLinks_iff (hpage : HasTextsApart page) (hstale : page.HasNoStaleGuard)
    (hnav : ¬ cookieConsentId <:+: f.nav)
    (hnone : (page.withLinks f).hasRegion .cookieConsent = false) :
    (page.withLinks f).contains cookieConsentId = true ↔
      cookieConsentId <:+: (page.withLinks f).outline := by
  have hrun := isRun_weaveAll f hpage
  refine contains_eq_true_iff_infix_outline (hrun.isExtension_linked.isIntact hpage.isIntact)
    isLandmark_cookieConsentId fun kind body hmem hoccurs => ?_
  rcases hrun.region_mem_linked_iff.1 hmem with ⟨-, rfl, -⟩ | ⟨hkind, hpagemem⟩
  · exact hnav ((infix_ownLines_iff isLandmark_cookieConsentId.toIsToken).1 hoccurs)
  · cases kind with
    | nav => exact hkind rfl
    | cookieConsent => exact not_region_mem hnone body hmem
    | sharedScripts => exact (hstale.sharedScripts body hpagemem).2 hoccurs

/-- Links that bring their guard, and banners that are there, leave guards that last. -/
theorem guardsLast_of_hasNoStaleGuard (hstale : page.HasNoStaleGuard)
    (hlinks : footerLinksId <:+: f.footerLinks.trim)
    (hnav : ¬ footerLinksId <:+: f.nav ∧ ¬ cookieConsentId <:+: f.nav)
    (hbanner : f.cookieConsent.trim ≠ []) : GuardsLast f g page where
  footerLinks := Or.inr hlinks
  footerLinks_blank hblank :=
    absurd (List.infix_nil.1 (hblank ▸ hlinks)) isLandmark_footerLinksId.ne_nil
  cookieConsent_blank hblank := absurd hblank hbanner
  footerLinksId_nav hoccurs := absurd hoccurs hnav.1
  cookieConsentId_nav hoccurs := absurd hoccurs hnav.2
  footerLinksId_body _ _ hkind hmem hoccurs :=
    absurd hoccurs (hstale.not_footerLinksId hkind hmem)
  cookieConsentId_body body hmem hoccurs := absurd hoccurs (hstale.sharedScripts body hmem).2

/-- Over a page without stale guards, runs with the same links find the same guards. -/
theorem agrees_weaveAll_of_hasNoStaleGuard (hpage : HasTextsApart page)
    (hstale : page.HasNoStaleGuard) (hlinks : f.footerLinks = g.footerLinks)
    (hfnav : ¬ footerLinksId <:+: f.nav ∧ ¬ cookieConsentId <:+: f.nav)
    (hgnav : ¬ footerLinksId <:+: g.nav ∧ ¬ cookieConsentId <:+: g.nav)
    (hfbanner : f.cookieConsent.trim ≠ []) (hgbanner : g.cookieConsent.trim ≠ []) :
    Agrees (page.weaveAll f).1 (page.weaveAll g).1 := by
  have hsame : Agrees page page := rfl
  refine hsame.weaveAll hlinks ?_ (fun _ => ?_) fun hlinked hnone _ => ?_
  · rw [Bool.eq_iff_iff, List.isEmpty_iff, List.isEmpty_iff]
    exact iff_of_false hfbanner hgbanner
  · rw [Bool.eq_iff_iff, contains_withNav_iff hpage hstale hfnav.1,
      contains_withNav_iff hpage hstale hgnav.1]
  · have hnone' : (page.withLinks g).hasRegion .cookieConsent = false :=
      hlinked.hasRegion_eq _ ▸ hnone
    rw [Bool.eq_iff_iff, contains_withLinks_iff hpage hstale hfnav.2 hnone,
      contains_withLinks_iff hpage hstale hgnav.2 hnone', hlinked.outline_eq]

end Page

theorem infix_trim_footerLinksId {links : Text} (h : footerLinksId <:+: links) :
    footerLinksId <:+: links.trim := by
  have hends : footerLinksId = 'i' :: ("d=\"cookie-settings-btn".toList ++ ['"']) := by decide
  rw [hends] at h ⊢
  exact infix_trim (by decide) (by decide) h

/-- **An incremental rebuild equals a clean build.** Let `f` be built into the page, and then `g`
into the result. If neither navigation holds a guard, both banners are there, and the old footer
links bring their guard, then the outcome is that of building `g` into the original page, with the
footer links of `f`. -/
theorem weave_weave_eq_weave (source : Text) (f g : PageFragments) (hfree : f.IsMarkerFree)
    (hstray : (Page.parse source).HasNoStrayMarker) (hstale : (Page.parse source).HasNoStaleGuard)
    (hlinks : footerLinksId <:+: f.footerLinks)
    (hfnav : ¬ footerLinksId <:+: f.nav ∧ ¬ cookieConsentId <:+: f.nav)
    (hgnav : ¬ footerLinksId <:+: g.nav ∧ ¬ cookieConsentId <:+: g.nav)
    (hfbanner : f.cookieConsent.trim ≠ []) (hgbanner : g.cookieConsent.trim ≠ []) :
    (weave (weave source f).1 g).1 =
      (weave source { g with footerLinks := f.footerLinks }).1 := by
  let clean : PageFragments := { g with footerLinks := f.footerLinks }
  have hpage := (Page.isCanonical_parse source).toHasTextsApart
  have hguards : Page.GuardsLast f g (Page.parse source) :=
    Page.guardsLast_of_hasNoStaleGuard hstale (infix_trim_footerLinksId hlinks) hfnav hfbanner
  -- The clean build takes the decisions of the first run.
  have hagrees : Page.Agrees ((Page.parse source).weaveAll f).1
      ((Page.parse source).weaveAll clean).1 :=
    Page.agrees_weaveAll_of_hasNoStaleGuard hpage hstale rfl hfnav hgnav hfbanner hgbanner
  have hbody : clean.body = g.body := by
    funext kind
    cases kind <;> rfl
  calc (weave (weave source f).1 g).1
      = (((Page.parse source).weaveAll f).1.fill g.body).render :=
        weave_weave_eq_render_fill hfree hstray hguards
    _ = (((Page.parse source).weaveAll clean).1.fill clean.body).render := by
        rw [hagrees.fill_eq, hbody]
    _ = ((Page.parse source).weaveAll clean).1.render := by
        rw [(Page.isRun_weaveAll clean hpage).fill_eq_self]
    _ = (weave source clean).1 := rfl

theorem weave_weave_eq_weave_samplePage :
    (weave (weave samplePage sampleFragments).1
        { sampleFragments with nav := "Start".toList, cookieConsent := "<p>".toList }).1 =
      (weave samplePage
        { sampleFragments with nav := "Start".toList, cookieConsent := "<p>".toList }).1 := by
  have hnot {guard : Text} {content : Text} (h : Text.contains guard content = false) :
      ¬ guard <:+: content := by
    rw [← contains_eq_true_iff, h]
    simp
  exact weave_weave_eq_weave samplePage sampleFragments
    { sampleFragments with nav := "Start".toList, cookieConsent := "<p>".toList }
    isMarkerFree_sampleFragments (by decide +kernel) hasNoStaleGuard_samplePage
    (contains_eq_true_iff.1 (by decide))
    ⟨hnot (by decide), hnot (by decide)⟩ ⟨hnot (by decide), hnot (by decide)⟩
    (by decide) (by decide)

end SiteWeave
