import SiteWeave.Proofs.Page.Rewriting

/-!
# The line of the footer links

Footer links are meant to stand on a line of their own, indented by the line of the closing footer
tag and two spaces, with the tag on the next line. The step takes the line of the tag from the text
that the tag stands in. Where a region ends on the line, that is not the whole line: then the links
go right behind the region if nothing but an indent is between it and the tag, and the indent of the
links and of the tag is that of the text behind the region.

## Main definitions

* `Text.lineAt`, `Text.indent`: the line that a place of a text is on, and its indent.
* `HasLinksLine`: the links stand on a line of their own.
* `IsTagLine`: the cells of a page around the part of a line that the step takes for the line of the
  tag.

## Main results

* `hasLinksLine_above_iff`, `hasLinksLine_behind_iff`: the two ways to insert the links.
* `hasLinksLine_iff`: when the links stand on a line of their own.
-/

namespace SiteWeave

open Text

/-! ### Lines -/

namespace Text

variable {front back line : Text}

/-- The line that the place between two texts is on, without its line end. -/
def lineAt (front back : Text) : Text :=
  Page.lastLine front ++ back.takeWhile (· ≠ '\n')

/-- The spaces and tabs that a line begins with. -/
def indent (line : Text) : Text :=
  line.takeWhile Page.isIndent

theorem lastLine_append (front : Text) (hline : '\n' ∉ line) :
    Page.lastLine (front ++ line) = Page.lastLine front ++ line := by
  have hall : ∀ c ∈ line.reverse, decide (c ≠ '\n') = true := by
    intro c hc
    rw [decide_eq_true_iff]
    rintro rfl
    exact hline (List.mem_reverse.1 hc)
  rw [Page.lastLine, List.reverse_append, List.takeWhile_append_of_pos hall, List.reverse_append,
    List.reverse_reverse]
  rfl

theorem lastLine_append_lineEnd (front : Text) : Page.lastLine (front ++ ['\n']) = [] := by
  rw [Page.lastLine, List.reverse_append]
  rfl

/-- What stands behind the last line end, and in front of it, is determined. -/
theorem append_lineEnd_inj {other rest : Text} (hline : '\n' ∉ line) (hrest : '\n' ∉ rest)
    (heq : front ++ '\n' :: line = other ++ '\n' :: rest) : front = other ∧ line = rest := by
  have hlast (text : Text) (tail : Text) (htail : '\n' ∉ tail) :
      Page.lastLine (text ++ '\n' :: tail) = tail := by
    rw [List.append_cons, lastLine_append _ htail, lastLine_append_lineEnd, List.nil_append]
  obtain rfl : line = rest := by rw [← hlast front line hline, heq, hlast other rest hrest]
  exact ⟨List.append_cancel_right heq, rfl⟩

theorem indent_eq_self (h : ∀ c ∈ line, Page.isIndent c = true) : indent line = line :=
  List.takeWhile_eq_self_iff.2 h

theorem indent_append_cons {c : Char} (h : ∀ d ∈ line, Page.isIndent d = true)
    (hc : Page.isIndent c = false) (rest : Text) : indent (line ++ c :: rest) = line := by
  rw [indent, List.takeWhile_append_of_pos h, List.takeWhile_cons_of_neg (by simp [hc]),
    List.append_nil]

theorem lineEnd_notMem_indent (line : Text) : '\n' ∉ indent line :=
  fun hmem => absurd (List.mem_takeWhile_imp hmem) (by decide)

/-- A tag is no part of the indent of its line. -/
theorem indent_lineAt (front rest : Text) :
    indent (lineAt front ('<' :: rest)) = indent (Page.lastLine front) := by
  rw [lineAt, indent, indent, List.takeWhile_cons_of_pos (by decide), List.takeWhile_append]
  split
  · next hall =>
    rw [List.takeWhile_cons_of_neg (by decide), List.append_nil]
    exact ((List.takeWhile_prefix _).eq_of_length hall).symm
  · rfl

end Text

/-! ### The line of the links -/

/-- In the text, the links stand in front of `back` on a line of their own: what is above them ends
with a line end, or there is nothing; their line begins with the indent of the line of the tag and
two spaces; and the next line begins with the indent and `back`. The line of the tag is the line
between `front` and `back`. -/
def HasLinksLine (links front back text : Text) : Prop :=
  ∃ above, Page.lastLine above = [] ∧
    text = above ++ indent (lineAt front back) ++ "  ".toList ++ links ++
      '\n' :: indent (lineAt front back) ++ back

/-- The cells end with a region. -/
def EndsWithRegion (cells : List Cell) : Prop :=
  ∃ kind body, cells.getLast? = some (.region kind body)

/-- The cells of a page, cut in front of the first end of a footer outside the regions and in front
of the text on its line that no region and no line end parts from it. -/
structure IsTagLine (cells front : List Cell) (line : Text) (back : List Cell) : Prop where
  cells_eq : cells = front ++ line.cells ++ back
  startsLine : StartsLine front
  lineEnd_notMem : '\n' ∉ line
  isFirst : IsFirst footerClose (front ++ line.cells) back

variable {cells front back : List Cell} {line links : Text}

/-- Where no region ends the cells in front of a line, the line starts the line of the page. -/
theorem lastLine_eq_nil_iff (h : StartsLine front) :
    Page.lastLine (front.flatMap Cell.render) = [] ↔ ¬ EndsWithRegion front := by
  rcases List.eq_nil_or_concat' front with rfl | ⟨front, cell, rfl⟩
  · exact iff_of_true rfl fun ⟨kind, body, hlast⟩ => by simp at hlast
  rw [List.flatMap_append, List.flatMap_singleton]
  cases cell with
  | char c =>
    obtain rfl : c = '\n' := h c (by simp)
    refine iff_of_true (lastLine_append_lineEnd _) fun ⟨kind, body, hlast⟩ => ?_
    simp at hlast
  | region kind body =>
    obtain ⟨inner, hend⟩ := kind.exists_endMarker_eq_append
    have hrender : List.flatMap Cell.render front ++ (Cell.region kind body).render =
        List.flatMap Cell.render front ++ kind.beginMarker ++ body ++ inner ++ ['>'] := by
      simp [Cell.render, Segment.render, hend]
    rw [hrender, lastLine_append _ (by decide)]
    exact iff_of_false (by simp) (not_not_intro ⟨kind, body, by simp⟩)

namespace IsTagLine

theorem exists_render_back_eq (h : IsTagLine cells front line back) :
    ∃ rest, back.flatMap Cell.render = '<' :: rest := by
  obtain ⟨rest, rfl⟩ := h.isFirst.isPrefix
  exact ⟨_, by rw [List.flatMap_append, Text.flatMap_render_cells]; rfl⟩

/-- The whole line in front of the tag. -/
theorem indent_lineAt_eq (h : IsTagLine cells front line back) :
    indent (lineAt ((front ++ line.cells).flatMap Cell.render) (back.flatMap Cell.render)) =
      indent (Page.lastLine (front.flatMap Cell.render) ++ line) := by
  obtain ⟨rest, hrest⟩ := h.exists_render_back_eq
  rw [hrest, indent_lineAt, List.flatMap_append, Text.flatMap_render_cells,
    lastLine_append _ h.lineEnd_notMem]

/-- The first end of a footer and the text in front of it on its line are determined. -/
theorem unique {front' back' : List Cell} {line' : Text} (h : IsTagLine cells front line back)
    (h' : IsTagLine cells front' line' back') : front = front' ∧ line = line' ∧ back = back' := by
  have heq := h.cells_eq.symm.trans h'.cells_eq
  have hlen : (front ++ line.cells).length = (front' ++ line'.cells).length := Nat.le_antisymm
    (h.isFirst.length_le _ _ heq h'.isFirst.isPrefix)
    (h'.isFirst.length_le _ _ heq.symm h.isFirst.isPrefix)
  obtain ⟨hfront, rfl⟩ := List.append_inj heq hlen
  -- A character between the two starts of the line would be a line end on it.
  have hstart {one other more : List Cell} {text : Text} (hone : StartsLine one)
      (hmore : one = other ++ more) (htext : text.cells = more ++ line.cells ∨
        text.cells = more ++ line'.cells) (hline : '\n' ∉ text) : more = [] := by
    by_contra hne
    obtain ⟨init, cell, rfl⟩ := (List.eq_nil_or_concat' more).resolve_left hne
    have hmem : cell ∈ text.cells := by rcases htext with h | h <;> simp [h]
    obtain ⟨c, hc, rfl⟩ := List.mem_map.1 hmem
    obtain rfl : c = '\n' := hone c (by simp [hmore])
    exact hline hc
  rcases List.append_eq_append_iff.1 hfront with ⟨more, hmore, htext⟩ | ⟨more, hmore, htext⟩
  · obtain rfl := hstart h'.startsLine hmore (Or.inr htext) h.lineEnd_notMem
    exact ⟨by simpa using hmore.symm, cells_injective (by simpa using htext), rfl⟩
  · obtain rfl := hstart h.startsLine hmore (Or.inl htext) h'.lineEnd_notMem
    exact ⟨by simpa using hmore, cells_injective (by simpa using htext.symm), rfl⟩

end IsTagLine

/-- A line of links above the tag is a line of its own if no region ends in front of it. -/
theorem hasLinksLine_above_iff (h : IsTagLine cells front line back)
    (hindent : ∀ c ∈ line, Page.isIndent c = true) :
    HasLinksLine links ((front ++ line.cells).flatMap Cell.render) (back.flatMap Cell.render)
        ((front ++ (line ++ "  ".toList ++ links ++ ['\n']).cells ++ line.cells ++ back).flatMap
          Cell.render) ↔ ¬ EndsWithRegion front := by
  rw [HasLinksLine, h.indent_lineAt_eq, ← lastLine_eq_nil_iff h.startsLine]
  simp only [List.flatMap_append, Text.flatMap_render_cells]
  constructor
  · rintro ⟨above, habove, heq⟩
    have hcancel : List.flatMap Cell.render front ++ line ++ "  ".toList ++ links ++ '\n' :: line =
        above ++ indent (Page.lastLine (front.flatMap Cell.render) ++ line) ++ "  ".toList ++
          links ++ '\n' :: indent (Page.lastLine (front.flatMap Cell.render) ++ line) := by
      refine (List.append_left_inj (back.flatMap Cell.render)).1 ?_
      simpa using heq
    obtain ⟨hlinks, hline⟩ :=
      append_lineEnd_inj h.lineEnd_notMem (lineEnd_notMem_indent _) hcancel
    rw [← hline] at hlinks
    have hfront : List.flatMap Cell.render front = above := by simpa using hlinks
    exact hfront ▸ habove
  · intro hfront
    refine ⟨_, hfront, ?_⟩
    rw [hfront, List.nil_append, indent_eq_self hindent]
    simp

/-- A line of links behind the line of the tag has the indent of the text that the tag is in. -/
theorem hasLinksLine_behind_iff (links line : Text) (front back : List Cell) :
    HasLinksLine links ((front ++ line.cells).flatMap Cell.render) (back.flatMap Cell.render)
        ((front ++ line.cells ++ Text.cells ('\n' :: indent line ++ "  ".toList ++ links ++
          '\n' :: indent line) ++ back).flatMap Cell.render) ↔
      indent line = indent (lineAt ((front ++ line.cells).flatMap Cell.render)
        (back.flatMap Cell.render)) := by
  simp only [HasLinksLine, List.flatMap_append, Text.flatMap_render_cells]
  generalize hindent : indent (lineAt (List.flatMap Cell.render front ++ line)
    (List.flatMap Cell.render back)) = whole
  constructor
  · rintro ⟨above, -, heq⟩
    have hcancel : List.flatMap Cell.render front ++ line ++ '\n' :: indent line ++ "  ".toList ++
        links ++ '\n' :: indent line = above ++ whole ++ "  ".toList ++ links ++ '\n' :: whole := by
      refine (List.append_left_inj (back.flatMap Cell.render)).1 ?_
      simpa using heq
    exact (append_lineEnd_inj (lineEnd_notMem_indent _)
      (hindent ▸ lineEnd_notMem_indent _) hcancel).2
  · rintro rfl
    exact ⟨List.flatMap Cell.render front ++ line ++ ['\n'], lastLine_append_lineEnd _, by simp⟩

/-! ### The step -/

/-- Where the step inserts the links, they stand on a line of their own exactly if no region ends on
the line of the tag in front of it, or if the text behind that region is indented as the line and
holds more than the indent. -/
theorem FooterRewriting.exists_isTagLine {next : List Cell}
    (h : FooterRewriting links cells .applied next) :
    ∃ front line back, IsTagLine cells front line back ∧
      (HasLinksLine links ((front ++ line.cells).flatMap Cell.render) (back.flatMap Cell.render)
          (next.flatMap Cell.render) ↔
        ¬ EndsWithRegion front ∨ indent line ≠ line ∧ indent line =
          indent (lineAt ((front ++ line.cells).flatMap Cell.render)
            (back.flatMap Cell.render))) := by
  cases h with
  | @above front back line hstart hindent hfirst =>
    have hline : '\n' ∉ line := fun hmem => absurd (hindent _ hmem) (by decide)
    have htag : IsTagLine (front ++ line.cells ++ back) front line back :=
      ⟨rfl, hstart, hline, hfirst⟩
    refine ⟨front, line, back, htag, ?_⟩
    rw [hasLinksLine_above_iff htag hindent, indent_eq_self hindent]
    simp
  | @behind front back blanks rest c hstart hindent hc hline hfirst =>
    have hblanks : indent (blanks ++ c :: rest) = blanks := indent_append_cons hindent hc rest
    have hend : '\n' ∉ blanks ++ c :: rest := by
      rw [List.mem_append, not_or]
      exact ⟨fun hmem => absurd (hindent _ hmem) (by decide), hline⟩
    have htag : IsTagLine (front ++ (blanks ++ c :: rest).cells ++ back) front (blanks ++ c :: rest)
        back := ⟨rfl, hstart, hend, hfirst⟩
    refine ⟨front, blanks ++ c :: rest, back, htag, ?_⟩
    have hiff := hasLinksLine_behind_iff links (blanks ++ c :: rest) front back
    rw [hblanks] at hiff ⊢
    rw [hiff]
    -- Without a region in front of it, the text is the line of the page up to the tag.
    have hwhole : ¬ EndsWithRegion front → blanks = indent
        (lineAt ((front ++ (blanks ++ c :: rest).cells).flatMap Cell.render)
          (back.flatMap Cell.render)) := by
      intro hfront
      rw [htag.indent_lineAt_eq, (lastLine_eq_nil_iff hstart).2 hfront, List.nil_append, hblanks]
    have hne : blanks ≠ blanks ++ c :: rest := by simp
    tauto

/-- A step that reports that it inserted the links has inserted their line. -/
theorem Page.footerRewriting_of_applied {page : Page} (hpage : page.HasTextsApart)
    (h : (page.weaveFooterLinks links).2 = .applied) :
    FooterRewriting links.trim page.cells .applied (page.weaveFooterLinks links).1.cells := by
  rw [weaveFooterLinks] at h ⊢
  split at h
  · simp at h
  next place hplace =>
  split at h
  · simp at h
  next hguard =>
  split at h
  · simp at h
  next hblank =>
  simp only [hguard, hblank]
  exact footerRewriting_insertFooterLine links.trim hpage hplace

/-- **Footer links on a line of their own.** Let a run report that it inserted the footer links. The
page with the navigation has a first end of a footer outside the regions, on some line. In the page
with the links, they stand on a line of their own, indented by that line and two spaces, with its
indent and the tag on the next line, exactly when no region ends on the line in front of the tag, or
when the text between the last such region and the tag is indented as the line and holds more than
the indent. -/
theorem hasLinksLine_iff (source : Text) (f : PageFragments)
    (h : (weave source f).2.footerLinks = .applied) :
    (∃ front line back, IsTagLine ((Page.parse source).withNav f).cells front line back) ∧
      ∀ front line back, IsTagLine ((Page.parse source).withNav f).cells front line back →
        (HasLinksLine f.footerLinks.trim ((front ++ line.cells).flatMap Cell.render)
            (back.flatMap Cell.render) ((Page.parse source).withLinks f).render ↔
          ¬ EndsWithRegion front ∨ indent line ≠ line ∧ indent line =
            indent (lineAt ((front ++ line.cells).flatMap Cell.render)
              (back.flatMap Cell.render))) := by
  have hparse := (Page.isCanonical_parse source).toHasTextsApart
  have hfilled : ((Page.parse source).withNav f).HasTextsApart := by
    rw [(Page.isRun_weaveAll f hparse).filled_eq, Page.setRegions_eq_mapInteriors]
    exact hparse.mapInteriors
  obtain ⟨front, line, back, htag, hiff⟩ :=
    (Page.footerRewriting_of_applied hfilled h).exists_isTagLine
  refine ⟨⟨front, line, back, htag⟩, fun front' line' back' htag' => ?_⟩
  obtain ⟨rfl, rfl, rfl⟩ := htag.unique htag'
  rw [← Page.flatMap_render_cells]
  exact hiff

/-- A page with a footer behind its navigation, on a line of its own. -/
def footerPage : Text :=
  "<!-- SITE_NAV --><!-- /SITE_NAV -->\n\t<footer></footer>".toList

/-- The links go on a line of their own behind the line of the footer. -/
theorem hasLinksLine_footerPage : (weave footerPage { footerLinks := ['x'] }).2.footerLinks =
    .applied ∧ HasLinksLine ['x'] "<!-- SITE_NAV -->\n\n<!-- /SITE_NAV -->\n\t<footer>".toList
      "</footer>".toList
        ((Page.parse footerPage).withLinks { footerLinks := ['x'] }).render := by
  have happlied : (weave footerPage { footerLinks := ['x'] }).2.footerLinks = .applied := by
    decide +kernel
  have htag : IsTagLine ((Page.parse footerPage).withNav { footerLinks := ['x'] }).cells
      [.region .nav "\n\n".toList, .char '\n'] "\t<footer>".toList (Text.cells footerClose) :=
    ⟨by decide +kernel, fun c hc => by simpa [eq_comm] using hc, by decide, by decide +kernel⟩
  have hregion : ¬ EndsWithRegion [.region .nav "\n\n".toList, .char '\n'] := by
    simp [EndsWithRegion]
  have hlinks := ((hasLinksLine_iff footerPage { footerLinks := ['x'] } happlied).2 _ _ _ htag).2
    (Or.inl hregion)
  exact ⟨happlied, hlinks⟩

/-- A page with a region on the line of its footer. -/
def regionFooterPage : Text :=
  "<!-- SITE_NAV --><!-- /SITE_NAV --></footer>".toList

/-- Behind a region on the line of the footer, the links go on the line of the region. -/
theorem not_hasLinksLine :
    ¬ ∀ (source : Text) (f : PageFragments) (front back : List Cell) (line : Text),
      (weave source f).2.footerLinks = .applied →
        IsTagLine ((Page.parse source).withNav f).cells front line back →
          HasLinksLine f.footerLinks.trim ((front ++ line.cells).flatMap Cell.render)
            (back.flatMap Cell.render) ((Page.parse source).withLinks f).render := by
  intro h
  have htag : IsTagLine ((Page.parse regionFooterPage).withNav { footerLinks := ['x'] }).cells
      [.region .nav "\n\n".toList] [] (Text.cells footerClose) :=
    ⟨by decide +kernel, fun c hc => by simp at hc, by simp, by decide +kernel⟩
  have hlinks := h regionFooterPage { footerLinks := ['x'] } _ _ _ (by decide +kernel) htag
  have hnext : ((Page.parse regionFooterPage).withLinks { footerLinks := ['x'] }).render =
      (([Cell.region .nav "\n\n".toList] ++ Text.cells ([] ++ "  ".toList ++ ['x'] ++ ['\n']) ++
        Text.cells [] ++ Text.cells footerClose).flatMap Cell.render) := by decide +kernel
  have htrim : Text.trim ['x'] = ['x'] := by decide
  rw [hnext, htrim] at hlinks
  exact (hasLinksLine_above_iff htag (by simp)).1 hlinks ⟨.nav, "\n\n".toList, rfl⟩

end SiteWeave
