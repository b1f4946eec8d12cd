import SiteWeave.Proofs.Page.Cell
import SiteWeave.Proofs.Page.Run

/-!
# A run as a rewriting of the page

A run writes the segments that it read, every region with its prescribed interior, and at most three
insertions. Here this is said of the cells of the page, without segments and their cuts: every
relation lists what a step writes, together with the outcome that it reports. As a region is one
cell, no insertion goes into a region, and the tags that the insertions go in front of are searched
for outside the regions.

## Main definitions

* `StartsLine`: in front of a line stands nothing, a line end or a region.
* `FooterRewriting`: the line of the footer links, in front of the first end of a footer.
* `RegionRewriting`: a new region, in front of the first or of the last end of the body.
* `Rewriting`: all that a run writes and reports.

## Main results

* `Page.footerRewriting_weaveFooterLinks`, `Page.regionRewriting_weaveCookieConsent`,
  `Page.regionRewriting_weaveScripts`: the steps rewrite as listed.
* `weave_rewriting`: a run writes its rewriting.
-/

namespace SiteWeave

open Text

/-! ### What the steps write -/

/-- What follows the cells starts a line: in front of it stands nothing, a line end or a region. -/
def StartsLine (cells : List Cell) : Prop :=
  ∀ c, cells.getLast? = some (.char c) → c = '\n'

/-- What the step for the footer links writes, with its outcome. The first end of a footer stands on
a line that begins with an indent. If there is nothing else in front of the tag, the links go on a
line above; otherwise they go on a line behind, and the tag on the next one. -/
inductive FooterRewriting (links : Text) : List Cell → Outcome → List Cell → Prop
  | above {front back : List Cell} {indent : Text} (hstart : StartsLine front)
      (hindent : ∀ c ∈ indent, Page.isIndent c = true)
      (hfirst : IsFirst footerClose (front ++ indent.cells) back) :
      FooterRewriting links (front ++ indent.cells ++ back) .applied
        (front ++ (indent ++ "  ".toList ++ links ++ ['\n']).cells ++ indent.cells ++ back)
  | behind {front back : List Cell} {indent rest : Text} {c : Char} (hstart : StartsLine front)
      (hindent : ∀ c ∈ indent, Page.isIndent c = true) (hc : Page.isIndent c = false)
      (hline : '\n' ∉ c :: rest)
      (hfirst : IsFirst footerClose (front ++ (indent ++ c :: rest).cells) back) :
      FooterRewriting links (front ++ (indent ++ c :: rest).cells ++ back) .applied
        (front ++ (indent ++ c :: rest).cells ++
          Text.cells ('\n' :: indent ++ "  ".toList ++ links ++ '\n' :: indent) ++ back)
  | skip {cells : List Cell} (reason : SkipReason) :
      FooterRewriting links cells (.skipped reason) cells

/-- What the step for a kind of region writes, with its outcome: nothing where there are regions of
the kind, and otherwise a new region as part of a block of cells, at a place of some sort, or
nothing. -/
inductive RegionRewriting (kind : RegionKind) (block : List Cell)
    (IsPlace : List Cell → List Cell → Prop) : List Cell → Outcome → List Cell → Prop
  | fill {cells : List Cell} {body : Text} (hregion : .region kind body ∈ cells) :
      RegionRewriting kind block IsPlace cells .applied cells
  | skip {cells : List Cell} (hnone : ∀ body, .region kind body ∉ cells) (reason : SkipReason) :
      RegionRewriting kind block IsPlace cells (.skipped reason) cells
  | insert {front back : List Cell} (hnone : ∀ body, .region kind body ∉ front ++ back)
      (hplace : IsPlace front back) :
      RegionRewriting kind block IsPlace (front ++ back) .applied (front ++ block ++ back)

/-- What a run writes and reports, from the page with every region filled to the last cells. -/
structure Rewriting (f : PageFragments) (page : Page) (report : WeaveReport)
    (linked bannered last : List Cell) : Prop where
  nav : report.nav = .applied ↔ page.hasRegion .nav = true
  footerLinks : FooterRewriting f.footerLinks.trim (page.fill f.body).cells report.footerLinks
    linked
  cookieConsent : RegionRewriting .cookieConsent
    [.region .cookieConsent (f.body .cookieConsent), .char '\n'] (IsFirst bodyClose)
      linked report.cookieConsent bannered
  sharedScripts : RegionRewriting .sharedScripts
    [.char '\n', .region .sharedScripts (f.body .sharedScripts), .char '\n'] (IsLast bodyClose)
      bannered report.sharedScripts last

theorem FooterRewriting.eq_of_ne_applied {links : Text} {cells next : List Cell} {outcome : Outcome}
    (h : FooterRewriting links cells outcome next) (hne : outcome ≠ .applied) : next = cells := by
  cases h with
  | above => exact absurd rfl hne
  | behind => exact absurd rfl hne
  | skip reason => rfl

theorem RegionRewriting.eq_of_ne_applied {kind : RegionKind} {block cells next : List Cell}
    {IsPlace : List Cell → List Cell → Prop} {outcome : Outcome}
    (h : RegionRewriting kind block IsPlace cells outcome next) (hne : outcome ≠ .applied) :
    next = cells ∧ ∀ body, .region kind body ∉ cells := by
  cases h with
  | fill hregion => exact absurd rfl hne
  | skip hnone reason => exact ⟨rfl, hnone⟩
  | insert hnone hplace => exact absurd rfl hne

/-- A run that reports that it did nothing has written the page that it read. -/
theorem Rewriting.last_eq {f : PageFragments} {page : Page} {report : WeaveReport}
    {linked bannered last : List Cell} (h : Rewriting f page report linked bannered last)
    (hnav : report.nav ≠ .applied) (hlinks : report.footerLinks ≠ .applied)
    (hcookie : report.cookieConsent ≠ .applied) (hscripts : report.sharedScripts ≠ .applied) :
    last = page.cells := by
  obtain rfl := h.footerLinks.eq_of_ne_applied hlinks
  obtain ⟨rfl, hcookie⟩ := h.cookieConsent.eq_of_ne_applied hcookie
  obtain ⟨rfl, hscripts⟩ := h.sharedScripts.eq_of_ne_applied hscripts
  have hregion : ∀ kind body, .region kind body ∉ page := by
    intro kind body hmem
    have hfilled : .region kind (f.body kind) ∈ (page.fill f.body).cells :=
      Page.region_mem_cells.2 (Page.region_mem_mapInteriors.2 ⟨body, hmem, rfl⟩)
    cases kind with
    | nav => exact hnav (h.nav.2 (Page.hasRegion_iff.2 ⟨body, hmem⟩))
    | cookieConsent => exact hcookie _ hfilled
    | sharedScripts => exact hscripts _ hfilled
  rw [Page.fill_eq_self_iff.2 fun kind body hmem => absurd hmem (hregion kind body)]

namespace Page

variable {page : Page} {place : Place}

/-! ### The line of the footer links -/

theorem lineEnd_notMem_lastLine (content : Text) : '\n' ∉ lastLine content := by
  intro hmem
  have hne := List.mem_takeWhile_imp (List.mem_reverse.1 hmem)
  exact absurd hne (by simp)

/-- In front of a text of a page whose texts are apart, a line starts. -/
theorem startsLine_cells {before after : Page} {content : Text}
    (h : HasTextsApart (before ++ .text content :: after)) : StartsLine before.cells := by
  rcases List.eq_nil_or_concat' before with rfl | ⟨front, segment, rfl⟩
  · exact fun c hc => by simp at hc
  · cases segment with
    | text old =>
      have hchain := h.texts_apart
      rw [List.append_assoc, List.singleton_append] at hchain
      have hpair := (List.isChain_append_cons_cons.1 hchain).2.1
      simp [Segment.isText] at hpair
    | region kind body => exact fun c hc => by simp at hc

theorem startsLine_append_cells {cells : List Cell} (h : StartsLine cells) {above : Text}
    (habove : above = [] ∨ ∃ front, above = front ++ ['\n']) :
    StartsLine (cells ++ above.cells) := by
  rcases habove with rfl | ⟨front, rfl⟩
  · simpa using h
  · intro c hc
    simpa [eq_comm] using hc

theorem footerRewriting_insertFooterLine (links : Text) (hpage : HasTextsApart page)
    (hplace : page.firstPlace? footerClose = some place) :
    FooterRewriting links page.cells .applied (insertFooterLine links place).cells := by
  have hfirst := hpage.isSeamed.isFirst isLandmark_footerClose.toIsToken hplace
  have heq := eq_page_of_firstPlace? hplace
  obtain ⟨above, hleft, htake, habove⟩ := exists_append_lastLine place.left
  have hstart : StartsLine (place.before.cells ++ above.cells) :=
    startsLine_append_cells (startsLine_cells (heq ▸ hpage)) habove
  have hindent : ∀ c ∈ (lastLine place.left).takeWhile isIndent, isIndent c = true :=
    fun c hc => List.mem_takeWhile_imp hc
  have hfront : place.before.cells ++ place.left.cells =
      place.before.cells ++ above.cells ++ (lastLine place.left).cells := by
    rw [List.append_assoc, ← Text.cells_append, ← hleft]
  rw [hfront] at hfirst
  rw [← heq, cells_page, hfront, insertFooterLine]
  generalize hline : lastLine place.left = line at *
  have hsplit := List.takeWhile_append_dropWhile (p := isIndent) (l := line)
  cases hrest : line.dropWhile isIndent with
  | nil =>
    rw [hrest, List.append_nil] at hsplit
    rw [if_pos hsplit, cells_insert, hsplit, htake]
    rw [hsplit] at hindent
    have hwrites : FooterRewriting links _ _ _ := .above hstart hindent hfirst
    simpa using hwrites
  | cons c rest =>
    have hc : isIndent c = false := by
      have hstop := List.head?_dropWhile_not isIndent line
      rw [hrest] at hstop
      simpa using hstop
    have hne : line.takeWhile isIndent ≠ line := by
      intro hall
      rw [hall, hrest] at hsplit
      simpa using congrArg List.length hsplit
    rw [if_neg hne, cells_insert, hfront]
    rw [hrest] at hsplit
    have hend : '\n' ∉ c :: rest := by
      intro hmem
      exact lineEnd_notMem_lastLine place.left
        (hline ▸ hsplit ▸ List.mem_append_right _ hmem)
    rw [← hsplit] at hfirst
    have hwrites : FooterRewriting links _ _ _ := .behind hstart hindent hc hend hfirst
    rw [hsplit] at hwrites
    simpa using hwrites

theorem mapInteriors_insertFooterLine (g : RegionKind → Text → Text) (links : Text)
    (place : Place) : mapInteriors g (insertFooterLine links place) =
      insertFooterLine links (place.mapInteriors g) := by
  simp only [insertFooterLine, apply_ite (mapInteriors g), mapInteriors_insert]
  rfl

variable (bodies : RegionKind → Text)

theorem footerRewriting_weaveFooterLinks (links : Text) (hpage : HasTextsApart page) :
    FooterRewriting links.trim (page.fill bodies).cells (page.weaveFooterLinks links).2
      ((page.weaveFooterLinks links).1.fill bodies).cells := by
  rw [weaveFooterLinks]
  split
  · exact .skip _
  next place hplace =>
  split
  · exact .skip _
  split
  · exact .skip _
  have hfilled : (page.fill bodies).firstPlace? footerClose =
      some (place.mapInteriors fun kind _ => bodies kind) := by
    rw [fill, firstPlace?_mapInteriors, hplace, Option.map_some]
  change FooterRewriting _ _ _ (mapInteriors _ (insertFooterLine links.trim place)).cells
  rw [mapInteriors_insertFooterLine]
  exact footerRewriting_insertFooterLine _ hpage.mapInteriors hfilled

/-! ### New regions -/

theorem region_notMem_cells_fill {kind : RegionKind} (h : page.hasRegion kind = false)
    (body : Text) : .region kind body ∉ (page.fill bodies).cells := by
  rw [region_mem_cells]
  exact not_region_mem (hasRegion_mapInteriors.trans h) body

variable {bodies}

/-- The cells of a filled page around a place. -/
theorem cells_fill_page (place : Place) : (place.page.fill bodies).cells =
    (place.before.fill bodies).cells ++ place.left.cells ++
      (place.right.cells ++ (place.after.fill bodies).cells) := by
  simp [Place.page, fill]

theorem cells_fill_insert (place : Place) (inserted : Page) :
    ((place.insert inserted).fill bodies).cells =
      (place.before.fill bodies).cells ++ place.left.cells ++ (inserted.fill bodies).cells ++
        (place.right.cells ++ (place.after.fill bodies).cells) := by
  simp [Place.insert, fill]

section

variable {kind : RegionKind} {IsPlace : List Cell → List Cell → Prop}

/-- In the filled page, the regions that are there hold what they are filled with. -/
theorem regionRewriting_setRegions {block : List Cell} (h : page.hasRegion kind = true)
    (body : Text) : RegionRewriting kind block IsPlace (page.fill bodies).cells .applied
      ((page.setRegions kind body).fill bodies).cells := by
  obtain ⟨old, hold⟩ := hasRegion_iff.1 (hasRegion_mapInteriors.trans h)
  rw [setRegions_eq_mapInteriors, fill_mapInteriors]
  exact .fill (region_mem_cells.2 hold)

/-- At a place of the sort, the block that is inserted stands filled in the filled page. -/
theorem regionRewriting_insert {place : Place} (inserted : Page)
    (h : place.page.hasRegion kind = false)
    (hplace : IsPlace ((place.before.fill bodies).cells ++ place.left.cells)
      (place.right.cells ++ (place.after.fill bodies).cells)) :
    RegionRewriting kind (inserted.fill bodies).cells IsPlace (place.page.fill bodies).cells
      .applied ((place.insert inserted).fill bodies).cells := by
  have hnone := region_notMem_cells_fill bodies h
  rw [cells_fill_page] at hnone ⊢
  rw [cells_fill_insert]
  exact .insert hnone hplace

end

theorem regionRewriting_weaveCookieConsent (banner : Text) (hpage : IsSeamed page) :
    RegionRewriting .cookieConsent [.region .cookieConsent (bodies .cookieConsent), .char '\n']
      (IsFirst bodyClose) (page.fill bodies).cells (page.weaveCookieConsent banner).2
        ((page.weaveCookieConsent banner).1.fill bodies).cells := by
  rw [weaveCookieConsent]
  split
  · next h => exact regionRewriting_setRegions h _
  next h =>
  have hnone := Bool.eq_false_iff.2 h
  split
  · exact .skip (region_notMem_cells_fill bodies hnone) _
  split
  · exact .skip (region_notMem_cells_fill bodies hnone) _
  split
  · exact .skip (region_notMem_cells_fill bodies hnone) _
  next place hplace =>
  have hfilled : (page.fill bodies).firstPlace? bodyClose =
      some (place.mapInteriors fun kind _ => bodies kind) := by
    rw [fill, firstPlace?_mapInteriors, hplace, Option.map_some]
  obtain rfl := eq_page_of_firstPlace? hplace
  exact regionRewriting_insert [.region .cookieConsent (cookieBody banner), .text ['\n']] hnone
    ((hpage.mapInteriors _).isFirst isLandmark_bodyClose.toIsToken hfilled)

theorem regionRewriting_weaveScripts (scripts : Text) (hpage : IsSeamed page) :
    RegionRewriting .sharedScripts
      [.char '\n', .region .sharedScripts (bodies .sharedScripts), .char '\n']
      (IsLast bodyClose) (page.fill bodies).cells (page.weaveScripts scripts).2
        ((page.weaveScripts scripts).1.fill bodies).cells := by
  rw [weaveScripts]
  split
  · next h => exact regionRewriting_setRegions h _
  next h =>
  have hnone := Bool.eq_false_iff.2 h
  split
  · exact .skip (region_notMem_cells_fill bodies hnone) _
  next place hplace =>
  have hfilled : (page.fill bodies).lastPlace? bodyClose =
      some (place.mapInteriors fun kind _ => bodies kind) := by
    rw [fill, lastPlace?_mapInteriors, hplace, Option.map_some]
  obtain rfl := eq_page_of_lastPlace? hplace
  exact regionRewriting_insert
    [.text ['\n'], .region .sharedScripts (ownLines scripts), .text ['\n']] hnone
    ((hpage.mapInteriors _).isLast isLandmark_bodyClose.toIsToken hfilled)

theorem weaveNav_snd_eq_applied_iff (nav : Text) (page : Page) :
    (page.weaveNav nav).2 = .applied ↔ page.hasRegion .nav = true := by
  rw [weaveNav]
  split
  · next h => simp [h]
  · next h => simp [h]

end Page

/-! ### A run -/

/-- **A run is its rewriting.** A run writes the segments that were read, in their order and with
the prescribed interior in every region, and these insertions, none of which is inside a region: the
line of the footer links at the first end of a footer outside the regions, if the run reports that
it inserted the links; where there is no cookie region, a cookie region with a line end in front of
the first end of the body outside the regions of the page with the links, if the run reports that it
brought the banner; where there is no script region, a script region between line ends in front of
the last end of the body outside the regions of the page with the banner, if the run reports that it
brought the scripts. So a run that reports nothing done leaves the text as it is. -/
theorem weave_rewriting (source : Text) (f : PageFragments) :
    ∃ linked bannered last : List Cell,
      Rewriting f (Page.parse source) (weave source f).2 linked bannered last ∧
        (weave source f).1 = last.flatMap Cell.render ∧
          ((weave source f).2.nav ≠ .applied → (weave source f).2.footerLinks ≠ .applied →
            (weave source f).2.cookieConsent ≠ .applied →
              (weave source f).2.sharedScripts ≠ .applied → (weave source f).1 = source) := by
  have hpage := (Page.isCanonical_parse source).toHasTextsApart
  have hrun := Page.isRun_weaveAll f hpage
  set page := Page.parse source
  have hfilled : page.withNav f = _ := hrun.filled_eq
  have hlinked : Page.IsSeamed (page.withLinks f) :=
    hrun.footerLinks.isSeamed (hrun.nav.isSeamed hpage.isSeamed)
  have hnav : Page.fill f.body (page.withNav f) = Page.fill f.body page := by
    rw [hfilled, Page.setRegions_eq_mapInteriors, Page.fill_mapInteriors]
  have hlast : Page.fill f.body (page.weaveAll f).1 = (page.weaveAll f).1 := hrun.fill_eq_self
  have hrewriting : Rewriting f page (weave source f).2
      (Page.fill f.body (page.withLinks f)).cells (Page.fill f.body (page.withBanner f)).cells
        (page.weaveAll f).1.cells := by
    refine ⟨Page.weaveNav_snd_eq_applied_iff f.nav page, ?_, ?_, ?_⟩
    · rw [← hnav]
      refine Page.footerRewriting_weaveFooterLinks f.body f.footerLinks ?_
      rw [hfilled, Page.setRegions_eq_mapInteriors]
      exact hpage.mapInteriors
    · exact Page.regionRewriting_weaveCookieConsent f.cookieConsent hlinked
    · rw [← hlast]
      exact Page.regionRewriting_weaveScripts f.scripts (hrun.cookieConsent.isSeamed hlinked)
  have hcontent : (weave source f).1 = (page.weaveAll f).1.cells.flatMap Cell.render :=
    (Page.flatMap_render_cells _).symm
  refine ⟨_, _, _, hrewriting, hcontent, fun hnav hlinks hcookie hscripts => ?_⟩
  rw [hcontent, hrewriting.last_eq hnav hlinks hcookie hscripts, Page.flatMap_render_cells,
    Page.render_parse]

end SiteWeave
