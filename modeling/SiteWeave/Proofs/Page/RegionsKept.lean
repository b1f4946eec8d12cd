import SiteWeave.Proofs.Page.TextKept

/-!
# Regions over many runs

A page is built again and again, each time with fragments of its own. Its regions stay as they are,
in their order, and at most one region of each of two kinds joins them: a region that was inserted
is found by the next run and is filled instead of inserted again. The footer links are inserted at
most once, because they bring the guard that the later runs look for, as text that no run takes
away.

## Main definitions

* `Page.kinds`: the kinds of the regions of a page, in order.
* `Page.KeepsRegions`: one page has the regions of another, with at most one more of some kinds.
* `weaveReports`: the reports of runs one behind the other.

## Main results

* `Page.IsRun.keepsRegions`: what one run does to the regions.
* `countP_footerLinks_weaveReports_le_one`: the footer links are inserted at most once.
* `keepsRegions_weaveEach`: the regions after many runs.
-/

namespace SiteWeave

open Text

/-- The kind of a region. -/
def Segment.kind? : Segment → Option RegionKind
  | text _ => none
  | region kind _ => some kind

namespace Page

variable {page next last filled linked bannered : Page} {kind : RegionKind} {body : Text}
  {f : PageFragments}

/-! ### The kinds of the regions -/

/-- The kinds of the regions of a page, in order. -/
def kinds (page : Page) : List RegionKind :=
  page.filterMap Segment.kind?

@[simp] theorem kinds_nil : kinds [] = [] := rfl

@[simp] theorem kinds_cons_text (content : Text) (page : Page) :
    kinds (.text content :: page) = kinds page := rfl

@[simp] theorem kinds_cons_region (kind : RegionKind) (body : Text) (page : Page) :
    kinds (.region kind body :: page) = kind :: kinds page := rfl

@[simp] theorem kinds_append (front back : Page) :
    kinds (front ++ back) = kinds front ++ kinds back :=
  List.filterMap_append

@[simp] theorem kinds_ofText (content : Text) : kinds (ofText content) = [] := by
  cases content <;> rfl

@[simp] theorem kinds_mapInteriors (g : RegionKind → Text → Text) (page : Page) :
    kinds (mapInteriors g page) = kinds page := by
  induction page with
  | nil => rfl
  | cons segment page ih => cases segment <;> simp [ih]

theorem kinds_joinText (content : Text) (page : Page) :
    kinds (joinText content page) = kinds page := by
  cases page with
  | nil => simp [joinText]
  | cons segment page => cases segment <;> simp [joinText]

@[simp] theorem kinds_join (page : Page) : kinds (join page) = kinds page := by
  induction page with
  | nil => rfl
  | cons segment page ih =>
    cases segment with
    | text content => rw [join, kinds_joinText, ih, kinds_cons_text]
    | region kind body => rw [join, kinds_cons_region, kinds_cons_region, ih]

theorem mem_kinds : kind ∈ page.kinds ↔ page.hasRegion kind = true := by
  rw [hasRegion_iff]
  induction page with
  | nil => simp
  | cons segment page ih =>
    cases segment with
    | text content => simp [ih]
    | region k old => simp [ih, exists_or]

theorem kinds_page (place : Place) :
    place.page.kinds = place.before.kinds ++ place.after.kinds := by
  simp [Place.page]

theorem kinds_insert (place : Place) (inserted : Page) :
    (place.insert inserted).kinds =
      place.before.kinds ++ (inserted.kinds ++ place.after.kinds) := by
  simp [Place.insert]

/-! ### Pages that keep the regions of another -/

/-- The page `next` has the regions of `page` in their order. Beside them it has at most one cookie
region and one script region, each only if `page` has none of the kind. -/
structure KeepsRegions (page next : Page) : Prop where
  sublist : page.kinds.Sublist next.kinds
  count_eq : ∀ kind, next.kinds.count kind = page.kinds.count kind ∨
    (kind ≠ .nav ∧ page.kinds.count kind = 0 ∧ next.kinds.count kind = 1)

namespace KeepsRegions

theorem of_kinds_eq (h : next.kinds = page.kinds) : KeepsRegions page next :=
  ⟨h ▸ List.Sublist.refl _, fun kind => Or.inl (congrArg (List.count kind) h)⟩

theorem trans (h : KeepsRegions page next) (hnext : KeepsRegions next last) :
    KeepsRegions page last := by
  refine ⟨h.sublist.trans hnext.sublist, fun kind => ?_⟩
  rcases h.count_eq kind with hsame | ⟨hkind, hnone, hone⟩
  · rw [← hsame]
    exact hnext.count_eq kind
  · -- A region of the kind was inserted, so that none is inserted any more.
    rcases hnext.count_eq kind with hlast | ⟨-, hzero, -⟩
    · exact Or.inr ⟨hkind, hnone, hlast.trans hone⟩
    · omega

theorem insert {place : Place} {block : Page} (hkind : kind ≠ .nav)
    (hblock : block.kinds = [kind]) (hnone : place.page.hasRegion kind = false) :
    KeepsRegions place.page (place.insert block) := by
  have hnot : kind ∉ place.page.kinds := by
    rw [mem_kinds, hnone]
    decide
  rw [kinds_page] at hnot
  constructor
  · rw [kinds_page, kinds_insert, hblock]
    exact ((List.sublist_cons_self kind _).append_left _)
  · intro k
    rw [kinds_page, kinds_insert, hblock, List.singleton_append, List.count_append,
      List.count_append, List.count_cons]
    by_cases hk : kind = k
    · subst hk
      rw [List.mem_append, not_or] at hnot
      refine Or.inr ⟨hkind, ?_, ?_⟩ <;>
        simp [List.count_eq_zero.2 hnot.1, List.count_eq_zero.2 hnot.2]
    · simp [hk]

end KeepsRegions

theorem IsBlock.kinds_eq {block : Page} (h : IsBlock kind body block) : block.kinds = [kind] := by
  cases h <;> rfl

theorem RegionStep.keepsRegions {refuses : Prop} (h : RegionStep kind body refuses page next)
    (hkind : kind = .nav → refuses) : KeepsRegions page next := by
  cases h with
  | fill h => exact .of_kinds_eq (kinds_mapInteriors _ page)
  | skip h hrefuses => exact .of_kinds_eq rfl
  | insert h hrefuses place block hplace hblock =>
    have hnav : kind ≠ .nav := fun hnav => hrefuses (hkind hnav)
    have hkeeps := KeepsRegions.insert hnav hblock.kinds_eq (hplace.page_eq.symm ▸ h)
    rwa [hplace.page_eq] at hkeeps

theorem FooterStep.kinds_eq {links : Text} (h : FooterStep links page next) :
    next.kinds = page.kinds := by
  cases h with
  | skip hrefuses => rfl
  | insert hrefuses place line hplace hfits hline => rw [← hplace, kinds_insert, kinds_page]; rfl

/-- A run keeps the regions of a page. -/
theorem IsRun.keepsRegions (h : IsRun f page filled linked bannered last) :
    KeepsRegions page last :=
  (h.nav.keepsRegions fun _ => trivial).trans <|
    (KeepsRegions.of_kinds_eq h.footerLinks.kinds_eq).trans <|
      (h.cookieConsent.keepsRegions (by simp)).trans (h.sharedScripts.keepsRegions (by simp))

end Page

/-! ### Inserting the footer links -/

/-- The reports of runs with the fragments, each over the text that the last one wrote. -/
def weaveReports : Text → List PageFragments → List WeaveReport
  | _, [] => []
  | source, f :: runs => (weave source f).2 :: weaveReports (weave source f).1 runs

variable {source : Text} {f : PageFragments}

/-- The guard of the footer links stands outside the regions. -/
def ShowsLinks (source : Text) : Prop :=
  footerLinksId <:+: (Page.parse source).outline

/-- No later run loses the guard of the footer links. -/
theorem showsLinks_weave (hfree : f.IsMarkerFree) (hstray : (Page.parse source).HasNoStrayMarker)
    (h : ShowsLinks source) : ShowsLinks (weave source f).1 := by
  have hrun := Page.isRun_weaveAll f (Page.isCanonical_parse source).toHasTextsApart
  rw [ShowsLinks, parse_weave hfree hstray, Page.outline_join]
  exact hrun.isExtension.infix_outline _ isLandmark_footerLinksId.toIsToken h

/-- A run that inserts the footer links inserts their guard with them. -/
theorem showsLinks_weave_of_applied (hfree : f.IsMarkerFree)
    (hstray : (Page.parse source).HasNoStrayMarker)
    (hlinks : f.footerLinks.trim = [] ∨ footerLinksId <:+: f.footerLinks.trim)
    (happlied : (weave source f).2.footerLinks = .applied) : ShowsLinks (weave source f).1 := by
  have hpage := (Page.isCanonical_parse source).toHasTextsApart
  have hrun := Page.isRun_weaveAll f hpage
  have hfilled := hrun.nav.isExtension.isIntact hpage.isIntact
  have hrefuses : ¬ ((Page.parse source).withNav f).RefusesLinks f.footerLinks :=
    (Page.weaveFooterLinks_snd_eq_applied_iff f.footerLinks hfilled).1 happlied
  have hblank : f.footerLinks.trim ≠ [] := fun hblank => hrefuses (Or.inr (Or.inr hblank))
  rw [ShowsLinks, parse_weave hfree hstray, Page.outline_join,
    hrun.infix_outline_last_iff isLandmark_footerLinksId,
    hrun.footerLinks.infix_outline_iff isLandmark_footerLinksId.toIsToken]
  exact Or.inr ⟨hrefuses, hlinks.resolve_left hblank⟩

/-- Where the guard stands outside the regions, a run inserts no footer links. -/
theorem footerLinks_ne_applied (h : ShowsLinks source) :
    (weave source f).2.footerLinks ≠ .applied := by
  have hpage := (Page.isCanonical_parse source).toHasTextsApart
  have hrun := Page.isRun_weaveAll f hpage
  have hfilled := hrun.nav.isExtension.isIntact hpage.isIntact
  intro happlied
  refine (Page.weaveFooterLinks_snd_eq_applied_iff f.footerLinks hfilled).1 happlied
    (Or.inr (Or.inl ?_))
  rw [Page.contains_eq_true_iff_of_isIntact hfilled isLandmark_footerLinksId, hrun.outline_filled]
  exact Or.inl h

/-- The number of runs that insert the footer links. -/
def linksCount (source : Text) (runs : List PageFragments) : Nat :=
  (weaveReports source runs).countP fun report => report.footerLinks = .applied

theorem linksCount_eq_zero : (source : Text) → (runs : List PageFragments) →
    (∀ f ∈ runs, f.IsMarkerFree) → (Page.parse source).HasNoStrayMarker → ShowsLinks source →
      linksCount source runs = 0
  | _, [], _, _, _ => rfl
  | source, f :: runs, hfree, hstray, hshows => by
    have hf := hfree f List.mem_cons_self
    have hrest := linksCount_eq_zero (weave source f).1 runs
      (fun g hmem => hfree g (List.mem_cons_of_mem _ hmem)) (hasNoStrayMarker_parse_weave hf hstray)
      (showsLinks_weave hf hstray hshows)
    rw [linksCount, weaveReports,
      List.countP_cons_of_neg (by simpa using footerLinks_ne_applied hshows)]
    exact hrest

/-- The footer links are inserted at most once: the run that inserts them brings the guard. -/
theorem linksCount_le_one : (source : Text) → (runs : List PageFragments) →
    (∀ f ∈ runs, f.IsMarkerFree) →
      (∀ f ∈ runs, f.footerLinks.trim = [] ∨ footerLinksId <:+: f.footerLinks.trim) →
        (Page.parse source).HasNoStrayMarker → linksCount source runs ≤ 1
  | _, [], _, _, _ => Nat.zero_le 1
  | source, f :: runs, hfree, hlinks, hstray => by
    have hf := hfree f List.mem_cons_self
    have hrest : ∀ g ∈ runs, g.IsMarkerFree := fun g hmem => hfree g (List.mem_cons_of_mem _ hmem)
    have hnext := hasNoStrayMarker_parse_weave hf hstray
    by_cases happlied : (weave source f).2.footerLinks = .applied
    · have hzero := linksCount_eq_zero (weave source f).1 runs hrest hnext
        (showsLinks_weave_of_applied hf hstray (hlinks f List.mem_cons_self) happlied)
      rw [linksCount, weaveReports, List.countP_cons_of_pos (by simpa using happlied)]
      exact Nat.succ_le_succ hzero.le
    · rw [linksCount, weaveReports, List.countP_cons_of_neg (by simpa using happlied)]
      exact linksCount_le_one (weave source f).1 runs hrest
        (fun g hmem => hlinks g (List.mem_cons_of_mem _ hmem)) hnext

/-! ### Many runs -/

/-- One run keeps the regions that are read from the text. -/
theorem keepsRegions_parse_weave (hfree : f.IsMarkerFree)
    (hstray : (Page.parse source).HasNoStrayMarker) :
    Page.KeepsRegions (Page.parse source) (Page.parse (weave source f).1) := by
  have hrun := Page.isRun_weaveAll f (Page.isCanonical_parse source).toHasTextsApart
  rw [parse_weave hfree hstray]
  exact hrun.keepsRegions.trans (.of_kinds_eq (Page.kinds_join _))

/-- Over many runs, no begin marker of an insertable region appears outside the regions, and the
regions are kept. -/
theorem keepsRegions_parse_weaveEach : (source : Text) → (runs : List PageFragments) →
    (∀ f ∈ runs, f.IsMarkerFree) → (Page.parse source).HasNoStrayMarker →
      (Page.parse (weaveEach source runs)).HasNoStrayMarker ∧
        Page.KeepsRegions (Page.parse source) (Page.parse (weaveEach source runs))
  | _, [], _, hstray => ⟨hstray, .of_kinds_eq rfl⟩
  | source, f :: runs, hfree, hstray => by
    have hf := hfree f List.mem_cons_self
    obtain ⟨hlast, hkeeps⟩ := keepsRegions_parse_weaveEach (weave source f).1 runs
      (fun g hmem => hfree g (List.mem_cons_of_mem _ hmem)) (hasNoStrayMarker_parse_weave hf hstray)
    exact ⟨hlast, (keepsRegions_parse_weave hf hstray).trans hkeeps⟩

/-- **Regions over many runs.** Let no text of the page hold the begin marker of an insertable
region, let the fragments of all runs hold no marker, and let their footer links be blank or bring
their guard. The page that the last run wrote is read with the regions of the first page in their
order, and with at most one more cookie region and one more script region, where there was none. The
interior of every region is the one that the last fragments prescribe. At most one of the runs
inserts the footer links. -/
theorem keepsRegions_weaveEach (source : Text) (runs : List PageFragments) (f : PageFragments)
    (hfree : ∀ g ∈ runs ++ [f], g.IsMarkerFree)
    (hlinks : ∀ g ∈ runs ++ [f], g.footerLinks.trim = [] ∨ footerLinksId <:+: g.footerLinks.trim)
    (hstray : (Page.parse source).HasNoStrayMarker) :
    Page.KeepsRegions (Page.parse source) (Page.parse (weaveEach source (runs ++ [f]))) ∧
      (∀ kind body, .region kind body ∈ Page.parse (weaveEach source (runs ++ [f])) →
        body = f.body kind) ∧
      (weaveReports source (runs ++ [f])).countP (fun report => report.footerLinks = .applied) ≤
        1 := by
  refine ⟨(keepsRegions_parse_weaveEach source _ hfree hstray).2, fun kind body hmem => ?_,
    linksCount_le_one source _ hfree hlinks hstray⟩
  have hlast : weaveEach source (runs ++ [f]) = (weave (weaveEach source runs) f).1 := by
    rw [weaveEach, weaveEach, List.foldl_append]
    rfl
  obtain ⟨hbefore, -⟩ := keepsRegions_parse_weaveEach source runs
    (fun g hmem => hfree g (List.mem_append_left _ hmem)) hstray
  have hpage := (Page.isCanonical_parse (weaveEach source runs)).toHasTextsApart
  rw [hlast, parse_weave (hfree f (by simp)) hbefore, Page.region_mem_join] at hmem
  exact (Page.isRun_weaveAll f hpage).body_eq hmem

/-- Two runs over a page to which the first one adds a cookie region, a script region and links. -/
theorem keepsRegions_weaveEach_samplePage :
    Page.KeepsRegions (Page.parse samplePage)
        (Page.parse (weaveEach samplePage [sampleBanner, sampleFragments])) ∧
      (∀ kind body,
        .region kind body ∈ Page.parse (weaveEach samplePage [sampleBanner, sampleFragments]) →
          body = sampleFragments.body kind) ∧
      (weaveReports samplePage [sampleBanner, sampleFragments]).countP
        (fun report => report.footerLinks = .applied) ≤ 1 := by
  have hfree : ∀ g ∈ [sampleBanner] ++ [sampleFragments], g.IsMarkerFree := by
    simp [isMarkerFree_sampleBanner, isMarkerFree_sampleFragments]
  have hlinks : ∀ g ∈ [sampleBanner] ++ [sampleFragments],
      g.footerLinks.trim = [] ∨ footerLinksId <:+: g.footerLinks.trim := by decide +kernel
  exact keepsRegions_weaveEach samplePage [sampleBanner] sampleFragments hfree hlinks
    (by decide +kernel)

end SiteWeave
