import SiteWeave.Proofs.BlogIndex.Grid

/-!
# Rebuilding the index page

The featured block and the grid are recognised by the markup that is generated, so one expects that
a second rebuild with the same index changes nothing. This holds unless the cards complete a
featured block that was not there: a featured comment in front of the grid without the end of a
block between them finds such an end behind the last card, and the next rebuild takes the container
of the grid for the inside of the featured block. It fails as well where the first rebuild drops a
featured comment together with the old interior of the grid, so that the next one comes to a block
behind the grid.

What happens is decided by the pieces around the grid of the page with the new featured block.

## Main definitions

* `BlogIndex.IsStable`: a second rebuild changes nothing and finds the grid again.
* `BlogIndex.HasFeatured`: a featured comment with the end of a block behind it.
* `BlogIndex.Grid.IsKept`: the condition on the pieces of the page.

## Main results

* `BlogIndex.IsPlain.withFeatured_withFeatured`: the replacement of the featured block is stable by
  itself.
* `BlogIndex.IsPlain.isStable_iff`: pages are stable exactly when their grid is kept.
* `BlogIndex.isStable_iff_isKept`: the same for the index of some posts.
-/

namespace SiteWeave

open Text

namespace BlogIndex

variable {index : BlogIndex} {content rest : Text} {grid : Grid}

/-- After a rebuild, a second one with the same index changes nothing, and it finds the grid if the
first one did. -/
structure IsStable (index : BlogIndex) (content : Text) : Prop where
  content_eq : (index.splice (index.splice content).1).1 = (index.splice content).1
  grid_eq : (index.splice content).2.grid = .applied →
    (index.splice (index.splice content).1).2.grid = .applied

/-- A featured comment with the end of a block behind it occurs in the text. -/
def HasFeatured (text : Text) : Prop :=
  ∃ front back, text = front ++ featuredComment ++ back ∧ HasBlockEnd back

/-- No featured block ends where the cards end, and none comes to light when they are filled in. -/
structure Grid.IsKept (index : BlogIndex) (grid : Grid) : Prop where
  /-- A featured comment in front of the grid has its block there, or there are no cards to complete
  it, and neither does the start tag of the grid. -/
  front : featuredComment <:+: grid.front → HasFeatured grid.front ∨
    (index.cardsHtml.toList = [] ∧ ¬ articleClose <:+ grid.startTag)
  /-- A featured comment that ends with the start tag finds the last card, or no end of a block. -/
  startTag : ¬ featuredComment <:+: grid.front → featuredComment <:+ grid.startTag →
    index.cardsHtml.toList ≠ [] ∨ ¬ HasBlockEnd grid.behind
  /-- Otherwise, what stands behind the grid is not changed by a replacement of its own. -/
  behind : ¬ featuredComment <:+: grid.front → ¬ featuredComment <:+ grid.startTag →
    withFeatured index.featuredHtml.toList grid.behind = grid.behind

namespace IsPlain

/-! ### The featured block -/

/-- The replacement of the featured block is stable by itself. -/
theorem withFeatured_withFeatured (h : index.IsPlain) (content : Text) :
    withFeatured index.featuredHtml.toList (withFeatured index.featuredHtml.toList content) =
      withFeatured index.featuredHtml.toList content := by
  cases hsplit : splitFirst? featuredComment content with
  | none =>
    rw [withFeatured_of_not_isInfix (splitFirst?_eq_none_iff.1 hsplit),
      withFeatured_of_not_isInfix (splitFirst?_eq_none_iff.1 hsplit)]
  | some cut =>
    obtain ⟨before, rest⟩ := cut
    obtain ⟨body, hhtml, hbody⟩ := h.exists_featured_eq
    have hnot := not_infix_of_splitFirst? isTag_featuredComment.ne_nil hsplit
    have hcontent := eq_append_of_splitFirst? hsplit
    by_cases hend : HasBlockEnd rest
    · obtain ⟨inside, sequence, after, hclosing⟩ := exists_splitClosing?_of_hasBlockEnd hend
      have hnext : index.featuredHtml.toList ++ after =
          featuredComment ++ (body ++ blockEnd ++ after) := by simp [hhtml]
      have hfixed := (h.withFeatured_eq_self_iff (body ++ blockEnd ++ after)).2
        (Or.inr ⟨after, hnext⟩)
      rw [withFeatured_of_splitFirst? hsplit, withFeatured_featuredComment_append, hclosing]
      dsimp only
      rw [hnext, withFeatured_append hnot
        (isTag_featuredComment.isSeam isTag_featuredComment.toIsToken _ _), hfixed]
    · have hfixed := (h.withFeatured_eq_self_iff rest).2 (Or.inl hend)
      rw [withFeatured_of_splitFirst? hsplit, hfixed, ← List.append_assoc, ← hcontent,
        withFeatured_of_splitFirst? hsplit, hfixed, ← List.append_assoc, ← hcontent]

theorem gridOpen_not_infix_featured (h : index.IsPlain) :
    ¬ gridOpen <:+: index.featuredHtml.toList := by
  obtain ⟨body, hhtml, hbody⟩ := h.exists_featured_eq
  rw [hhtml]
  refine IsClear.not_isInfix ?_ isTag_gridOpen
  exact (IsClear.append (by decide +kernel) (hbody.isClear _ (by simp [landmarks]))).append
    (by decide +kernel)

theorem exists_featured_eq_append (h : index.IsPlain) :
    ∃ front, index.featuredHtml.toList = front ++ ['>'] :=
  h.hasWholeBlock.exists_eq_append

/-- The featured block does not reach into the container of the grid. -/
theorem isPrefix_append_gridOpen_iff (h : index.IsPlain) (front more : Text) :
    index.featuredHtml.toList <+: front ++ (gridOpen ++ more) ↔
      index.featuredHtml.toList <+: front := by
  refine ⟨fun hstarts => ?_, fun hstarts => hstarts.trans (List.prefix_append _ _)⟩
  rcases List.prefix_or_prefix_of_prefix hstarts (List.prefix_append front _) with
    hshort | ⟨head, hhead⟩
  · exact hshort
  rw [← hhead, List.prefix_append_right_inj] at hstarts
  rcases List.prefix_or_prefix_of_prefix hstarts (List.prefix_append gridOpen more) with
    hopen | ⟨tail, rfl⟩
  · -- The block ends with a closing bracket, which is not in what opens the container.
    obtain ⟨last, hlast⟩ := h.exists_featured_eq_append
    cases head using List.reverseRecOn with
    | nil => exact ⟨[], by simpa using hhead.symm⟩
    | append_singleton head c =>
      rw [← List.append_assoc, hlast, List.append_singleton_inj] at hhead
      obtain ⟨-, rfl⟩ := hhead
      exact absurd (hopen.subset (by simp) : '>' ∈ gridOpen) (by decide)
  · refine absurd ⟨front, tail, ?_⟩ h.gridOpen_not_infix_featured
    rw [List.append_assoc, hhead]

/-- A replacement of the featured block that changes the page is not undone by the replacement of
a grid behind it. -/
theorem withGrid_withFeatured_ne (h : index.IsPlain) {before : Text} (cards : Text)
    (hsplit : splitFirst? featuredComment content = some (before, rest))
    (hbefore : ¬ gridOpen <:+: before)
    (hchanges : withFeatured index.featuredHtml.toList content ≠ content) :
    withGrid cards (withFeatured index.featuredHtml.toList content) ≠ content := by
  have hcontent := eq_append_of_splitFirst? hsplit
  have hwith : withFeatured index.featuredHtml.toList content =
      before ++ withFeatured index.featuredHtml.toList (featuredComment ++ rest) :=
    withFeatured_of_splitFirst? hsplit
  intro heq
  refine hchanges ?_
  rw [hwith, hcontent, List.append_assoc, List.append_cancel_left_eq,
    h.withFeatured_eq_self_iff]
  by_cases hend : HasBlockEnd rest
  · obtain ⟨inside, sequence, after, hclosing⟩ := exists_splitClosing?_of_hasBlockEnd hend
    obtain ⟨front, hfront⟩ := h.exists_featured_eq_append
    obtain ⟨body, hhtml, -⟩ := h.exists_featured_eq
    rw [withFeatured_featuredComment_append, hclosing] at hwith
    have hseam : IsSeam gridOpen before (index.featuredHtml.toList ++ after) := by
      rw [hhtml, List.append_assoc, List.append_assoc]
      exact isTag_featuredComment.isSeam isTag_gridOpen.toIsToken _ _
    rw [hwith, withGrid_append hbefore hseam, withGrid_append h.gridOpen_not_infix_featured
      (hfront ▸ isTag_gridOpen.isSeam_gt _ _), hcontent, List.append_assoc,
      List.append_cancel_left_eq] at heq
    exact Or.inr ⟨_, heq⟩
  · exact Or.inl hend

end IsPlain

/-! ### Grids with cards -/

namespace Grid

/-- The page with the cards in the grid is rebuilt as it is, and its grid is found. -/
structure IsSteady (index : BlogIndex) (grid : Grid) : Prop where
  text_eq : withGrid index.cardsHtml.toList
    (withFeatured index.featuredHtml.toList (grid.fill index.cardsHtml.toList).text) =
      (grid.fill index.cardsHtml.toList).text
  isSome : (spliceGrid index.cardsHtml.toList (withFeatured index.featuredHtml.toList
    (grid.fill index.cardsHtml.toList).text)).isSome = true

theorem isStable_iff_isSteady (hgrid : grid.IsFirst)
    (htext : grid.text = withFeatured index.featuredHtml.toList content) :
    index.IsStable content ↔ grid.IsSteady index := by
  have hfirst : (index.splice content).1 = (grid.fill index.cardsHtml.toList).text := by
    rw [splice_fst, ← htext, withGrid_text hgrid]
  have happlied : (index.splice content).2.grid = .applied := by
    rw [splice_snd_grid, ← htext, spliceGrid_text hgrid]
    rfl
  constructor
  · rintro ⟨hcontent, hgridEq⟩
    rw [hfirst] at hcontent hgridEq
    rw [splice_fst] at hcontent
    exact ⟨hcontent, (splice_snd_grid _ _).1 (hgridEq happlied)⟩
  · rintro ⟨hcontent, hsome⟩
    refine ⟨?_, fun _ => ?_⟩
    · rw [hfirst, splice_fst, hcontent]
    · rw [hfirst, splice_snd_grid]
      exact hsome

/-- If the replacement of the featured block leaves the cards alone, all stays as it is. -/
theorem isSteady_of_withFeatured_eq_self (h : index.IsPlain) (hgrid : grid.IsFirst)
    (hfixed : withFeatured index.featuredHtml.toList (grid.fill index.cardsHtml.toList).text =
      (grid.fill index.cardsHtml.toList).text) : grid.IsSteady index := by
  have hfill : (grid.fill index.cardsHtml.toList).IsFirst :=
    isFirst_fill hgrid h.not_hasClosing_cards grid.behind
  refine ⟨?_, ?_⟩
  · rw [hfixed, withGrid_text hfill, fill_fill]
  · rw [hfixed, spliceGrid_text hfill]
    rfl

theorem text_eq_append_gridOpen (grid : Grid) : grid.text = grid.front ++ (gridOpen ++
    (grid.attributes ++ '>' :: (grid.inside ++ (grid.closing ++ grid.behind)))) := by
  simp [text, startTag]

/-- The start tag of the grid has its only closing bracket at its end. -/
theorem gt_notMem_of_startTag_eq_append (hgrid : grid.IsFirst) {front back : Text}
    (heq : grid.startTag = front ++ back) (hback : back ≠ []) : '>' ∉ front := by
  have hopen : '>' ∉ gridOpen ++ grid.attributes := by
    rw [List.mem_append, not_or]
    exact ⟨by decide, hgrid.gt_notMem⟩
  obtain ⟨last, c, rfl⟩ := (List.eq_nil_or_concat' back).resolve_left hback
  rw [startTag, ← List.append_assoc, List.append_singleton_inj] at heq
  exact fun hmem => hopen (heq.1 ▸ List.mem_append_left _ hmem)

/-! #### A featured comment in front of the grid -/

theorem hasFeatured_iff {text before : Text}
    (hsplit : splitFirst? featuredComment text = some (before, rest)) :
    HasFeatured text ↔ HasBlockEnd rest := by
  constructor
  · rintro ⟨front, back, htext, hback⟩
    obtain ⟨more, rfl⟩ := isSuffix_of_splitFirst? hsplit htext
    exact hback.append_left more
  · exact fun hrest => ⟨before, rest, eq_append_of_splitFirst? hsplit, hrest⟩

/-- With a featured comment in front of the grid, the page keeps its featured block exactly if there
is no end of a block behind the comment, or if the block stands in front of the grid. -/
theorem withFeatured_eq_self_iff_of_front (h : index.IsPlain) {front before : Text}
    (hsplit : splitFirst? featuredComment front = some (before, rest)) (more : Text) :
    withFeatured index.featuredHtml.toList (front ++ (gridOpen ++ more)) =
        front ++ (gridOpen ++ more) ↔
      ¬ HasBlockEnd (rest ++ (gridOpen ++ more)) ∨
        index.featuredHtml.toList <+: featuredComment ++ rest := by
  have hmore := splitFirst?_append_of_eq_some hsplit (gridOpen ++ more)
  have hfront : front ++ (gridOpen ++ more) =
      before ++ (featuredComment ++ (rest ++ (gridOpen ++ more))) := by
    rw [eq_append_of_splitFirst? hsplit]
    simp
  rw [withFeatured_of_splitFirst? hmore, hfront, List.append_cancel_left_eq,
    h.withFeatured_eq_self_iff, ← List.append_assoc featuredComment,
    h.isPrefix_append_gridOpen_iff]

/-- The first tag of a block end that reaches over the gap of an empty grid ends its start tag. -/
theorem isSuffix_startTag {front text blanks : Text} (hblanks : ∀ c ∈ blanks, isBlank c = true)
    (heq : front ++ grid.startTag = text ++ articleClose ++ blanks) :
    articleClose <:+ grid.startTag := by
  cases blanks using List.reverseRecOn with
  | nil =>
    refine List.suffix_of_suffix_length_le ⟨text, ?_⟩ (List.suffix_append front _) ?_
    · rw [heq, List.append_nil]
    · have hlen : articleClose.length ≤ gridOpen.length := by decide
      simp only [startTag, List.length_append]
      omega
  | append_singleton blanks c =>
    have hlast : front ++ (gridOpen ++ grid.attributes) ++ ['>'] =
        text ++ articleClose ++ blanks ++ [c] := by simpa [startTag] using heq
    obtain ⟨-, rfl⟩ := List.append_singleton_inj.1 hlast
    exact absurd (hblanks '>' (by simp)) (by decide)

/-- Where there was no end of a block, the cards bring one, or the start tag of an empty grid ends
with the first tag of one. -/
theorem hasBlockEnd_fill_iff (h : index.IsPlain) {front : Text}
    (hnot : ¬ HasBlockEnd
      (front ++ (grid.startTag ++ (grid.inside ++ (grid.closing ++ grid.behind))))) :
    HasBlockEnd (front ++ (grid.startTag ++ ((grid.fill index.cardsHtml.toList).inside ++
        (grid.closing ++ grid.behind)))) ↔
      index.cardsHtml.toList ≠ [] ∨ articleClose <:+ grid.startTag := by
  have hgap : ∀ c ∈ "\n      ".toList, isBlank c = true := List.all_eq_true.1 rfl
  constructor
  · intro hend
    by_cases hcards : index.cardsHtml.toList = []
    · have htext : front ++ (grid.startTag ++ ((grid.fill index.cardsHtml.toList).inside ++
          (grid.closing ++ grid.behind))) = front ++ grid.startTag ++ '\n' :: "\n      ".toList ++
            (grid.closing ++ grid.behind) := by simp [fill, hcards]
      rw [htext] at hend
      rcases hasClosing_append_lineEnd isTag_articleClose isTag_divisionClose hgap hend with
        hstart | hbehind | ⟨text, blanks, hblanks, heq⟩
      · refine absurd ?_ hnot
        rw [← List.append_assoc]
        exact hstart.append_right _
      · refine absurd ?_ hnot
        rw [← List.append_assoc, ← List.append_assoc]
        exact hbehind.append_left _
      · exact Or.inr (isSuffix_startTag hblanks heq)
    · exact Or.inl hcards
  · intro hend
    by_cases hcards : index.cardsHtml.toList = []
    · obtain ⟨text, htext⟩ := hend.resolve_left (not_not_intro hcards)
      refine ⟨front ++ text, articleClose ++ '\n' :: "\n      ".toList ++ divisionClose,
        grid.blanks ++ emptyStateComment ++ grid.behind,
        ⟨'\n' :: "\n      ".toList, List.forall_mem_cons.2 ⟨rfl, hgap⟩, rfl⟩, ?_⟩
      simp [fill, closing, hcards, ← htext]
    · obtain ⟨body, hbody⟩ := h.exists_cards_eq.resolve_left hcards
      refine ⟨front ++ grid.startTag ++ '\n' :: body,
        articleClose ++ "\n      ".toList ++ divisionClose,
        grid.blanks ++ emptyStateComment ++ grid.behind, ⟨_, hgap, rfl⟩, ?_⟩
      simp [fill, closing, hbody]

/-- With a featured comment in front of the grid, all is steady exactly if its block stands there,
or if the grid brings no end of a block. -/
theorem isSteady_iff_of_front (h : index.IsPlain) (hgrid : grid.IsFirst)
    (hfixed : withFeatured index.featuredHtml.toList grid.text = grid.text)
    (hfront : featuredComment <:+: grid.front) :
    grid.IsSteady index ↔ HasFeatured grid.front ∨
      (index.cardsHtml.toList = [] ∧ ¬ articleClose <:+ grid.startTag) := by
  obtain ⟨⟨before, rest⟩, hsplit⟩ := Option.ne_none_iff_exists'.1
    (mt splitFirst?_eq_none_iff.1 (not_not_intro hfront))
  have hkept (filled : Grid) (hfront : filled.front = grid.front) :
      withFeatured index.featuredHtml.toList filled.text = filled.text ↔
        ¬ HasBlockEnd (rest ++ (filled.startTag ++
          (filled.inside ++ (filled.closing ++ filled.behind)))) ∨
        index.featuredHtml.toList <+: featuredComment ++ rest := by
    have hiff := withFeatured_eq_self_iff_of_front h hsplit
      (filled.attributes ++ '>' :: (filled.inside ++ (filled.closing ++ filled.behind)))
    rw [text_eq_append_gridOpen, hfront, hiff]
    simp [startTag]
  have hbefore : ¬ gridOpen <:+: before := by
    have htext := eq_append_of_splitFirst? hsplit
    rintro hoccurs
    refine hgrid.gridOpen_not_isInfix ?_
    rw [htext, List.append_assoc]
    exact List.infix_append_of_infix_left hoccurs
  have hsteady : grid.IsSteady index ↔
      withFeatured index.featuredHtml.toList (grid.fill index.cardsHtml.toList).text =
        (grid.fill index.cardsHtml.toList).text := by
    refine ⟨fun hsteady => ?_, isSteady_of_withFeatured_eq_self h hgrid⟩
    by_contra hchanges
    exact h.withGrid_withFeatured_ne _ (splitFirst?_append_of_eq_some hsplit _) hbefore hchanges
      hsteady.text_eq
  rw [hkept grid rfl] at hfixed
  rw [hsteady, hkept (grid.fill _) rfl, hasFeatured_iff hsplit]
  have hstarts : index.featuredHtml.toList <+: featuredComment ++ rest → HasBlockEnd rest :=
    h.hasBlockEnd_of_isPrefix
  by_cases hrest : HasBlockEnd rest
  · -- The first end of a block stands in front of the grid and ends the featured block.
    have hblock := hfixed.resolve_left (not_not_intro (hrest.append_right _))
    simp [hrest, hblock]
  · have hnone := hfixed.resolve_right (mt hstarts hrest)
    have hfill := hasBlockEnd_fill_iff h hnone
    have hsame : (grid.fill index.cardsHtml.toList).startTag = grid.startTag ∧
        (grid.fill index.cardsHtml.toList).closing = grid.closing ∧
          (grid.fill index.cardsHtml.toList).behind = grid.behind := ⟨rfl, rfl, rfl⟩
    rw [or_iff_left (mt hstarts hrest), or_iff_right hrest, hsame.1, hsame.2.1, hsame.2.2, hfill,
      not_or, not_not]

/-! #### A featured comment at the end of the start tag -/

/-- With a featured comment at the end of the start tag, the replacement acts behind the tag. -/
theorem withFeatured_startTag_append (hgrid : grid.IsFirst)
    (hfront : ¬ featuredComment <:+: grid.front) {tag : Text}
    (htag : grid.startTag = tag ++ featuredComment) (html more : Text) :
    withFeatured html (grid.front ++ (grid.startTag ++ more)) =
      grid.front ++ (tag ++ withFeatured html (featuredComment ++ more)) := by
  have hgt := gt_notMem_of_startTag_eq_append hgrid htag isTag_featuredComment.ne_nil
  have hnot : ¬ featuredComment <:+: tag := fun hoccurs =>
    hgt (hoccurs.subset (by decide : '>' ∈ featuredComment))
  have hopen : IsSeam featuredComment grid.front (grid.startTag ++ more) := by
    rw [startTag, List.append_assoc, List.append_assoc]
    exact isTag_gridOpen.isSeam isTag_featuredComment.toIsToken _ _
  rw [withFeatured_append hfront hopen, htag, List.append_assoc, withFeatured_append hnot
    (isTag_featuredComment.isSeam isTag_featuredComment.toIsToken _ _)]

/-- What the end of a block leaves of a text that ends with the end of a division ends so as well,
or is empty. -/
theorem eq_nil_or_exists_eq_append {front sequence back text : Text}
    (hsequence : IsClosing articleClose divisionClose sequence)
    (heq : front ++ sequence ++ back = text ++ divisionClose) :
    back = [] ∨ ∃ rest, back = rest ++ divisionClose := by
  obtain ⟨last, hlast⟩ : ∃ last, divisionClose = last ++ ['>'] :=
    List.getLast?_eq_some_iff.1 (by decide)
  obtain ⟨blanks, -, rfl⟩ := hsequence
  have hseam : IsSeam divisionClose (front ++ (articleClose ++ blanks ++ divisionClose)) back := by
    have hgt := isTag_divisionClose.isSeam_gt (front ++ (articleClose ++ blanks ++ last)) back
    have htext : front ++ (articleClose ++ blanks ++ last) ++ ['>'] =
        front ++ (articleClose ++ blanks ++ divisionClose) := by simp [hlast]
    rwa [htext] at hgt
  have htext : front ++ (articleClose ++ blanks ++ divisionClose) ++ back =
      text ++ divisionClose ++ [] := by rw [heq, List.append_nil]
  rcases hseam.eq_or_eq htext with ⟨rest, -, hback⟩ | ⟨rest, hback, -⟩
  · exact Or.inl (List.append_eq_nil_iff.1 hback.symm).2
  · exact Or.inr ⟨rest, by rw [hback, List.append_nil]⟩

/-- The end of a featured block, with the rest of a text behind it that ends with the end of a
division, is an interior of the grid with the end of its container. -/
theorem exists_eq_append_divisionClose {body back : Text} (hbody : IsUnmarked body)
    (hback : back = [] ∨ ∃ rest, back = rest ++ divisionClose)
    (hnot : ¬ emptyStateComment <:+: back) :
    ∃ inside, body ++ blockEnd ++ back = inside ++ divisionClose ∧
      ¬ emptyStateComment <:+: inside := by
  have hclear {more : Text} (hmore : IsClear emptyStateComment more) :
      IsClear emptyStateComment (body ++ more) :=
    (hbody.isClear _ (by simp [landmarks])).append hmore
  rcases hback with rfl | ⟨rest, rfl⟩
  · refine ⟨body ++ (articleClose ++ '\n' :: "      ".toList), by simp [blockEnd],
      (hclear ?_).not_isInfix isTag_emptyStateComment⟩
    decide +kernel
  · refine ⟨body ++ blockEnd ++ rest, by simp, ?_⟩
    have hblock : IsClear emptyStateComment (body ++ blockEnd) := hclear (by decide +kernel)
    rw [(hblock.isSeam isTag_emptyStateComment rest).infix_append_iff,
      or_iff_right (hblock.not_isInfix isTag_emptyStateComment)]
    exact fun hoccurs => hnot (List.infix_append_of_infix_left hoccurs)

/-- With a featured comment at the end of the start tag, the cards end a block that the replacement
takes away, and the grid is found again around what it puts there. -/
theorem isSteady_of_startTag_of_cards (h : index.IsPlain) (hgrid : grid.IsFirst)
    (hfront : ¬ featuredComment <:+: grid.front) (hstart : featuredComment <:+ grid.startTag)
    (hcards : index.cardsHtml.toList ≠ []) : grid.IsSteady index := by
  obtain ⟨tag, htag⟩ := hstart
  obtain ⟨cards, hcardsEq⟩ := h.exists_cards_eq.resolve_left hcards
  obtain ⟨body, hhtml, hbody⟩ := h.exists_featured_eq
  have hinside : IsClear emptyStateComment
      ((grid.fill index.cardsHtml.toList).inside ++ divisionClose) :=
    (isClear_inside_fill h.emptyStateComment_cards).append (by decide +kernel)
  have hend : HasBlockEnd ((grid.fill index.cardsHtml.toList).inside ++ divisionClose) :=
    ⟨'\n' :: cards, articleClose ++ "\n      ".toList ++ divisionClose, [],
      ⟨_, List.all_eq_true.1 rfl, rfl⟩, by simp [fill, hcardsEq]⟩
  obtain ⟨front, sequence, back, hsplit⟩ := exists_splitClosing?_of_hasBlockEnd hend
  obtain ⟨hsequence, htext⟩ := isClosing_and_eq_of_splitClosing? isTag_divisionClose hsplit
  obtain ⟨inside, heq, hnot⟩ := exists_eq_append_divisionClose hbody
    (eq_nil_or_exists_eq_append hsequence htext.symm) fun hoccurs =>
      hinside.not_isInfix isTag_emptyStateComment
        (htext ▸ List.infix_append_of_infix_right hoccurs)
  have hmore := splitClosing?_append isTag_articleClose isTag_divisionClose hsplit
    (grid.blanks ++ emptyStateComment ++ grid.behind)
  have hwith : withFeatured index.featuredHtml.toList (grid.fill index.cardsHtml.toList).text =
      ({ grid with inside := inside } : Grid).text := by
    have hfill : (grid.fill index.cardsHtml.toList).text = grid.front ++ (grid.startTag ++
        ((grid.fill index.cardsHtml.toList).inside ++ divisionClose ++
          (grid.blanks ++ emptyStateComment ++ grid.behind))) := by
      simp [fill, text, startTag, closing]
    have hpieces : featuredComment ++ body ++ blockEnd ++
        (back ++ (grid.blanks ++ emptyStateComment ++ grid.behind)) = featuredComment ++
          (inside ++ divisionClose) ++ (grid.blanks ++ emptyStateComment ++ grid.behind) := by
      rw [← heq]
      simp
    rw [hfill, withFeatured_startTag_append hgrid hfront htag.symm,
      withFeatured_featuredComment_append, hmore, hhtml]
    dsimp only
    rw [hpieces]
    change _ = grid.front ++ (grid.startTag ++ (inside ++ (grid.closing ++ grid.behind)))
    rw [← htag]
    simp [closing]
  have hfirst : ({ grid with inside := inside } : Grid).IsFirst :=
    hgrid.replace (mt HasClosing.infix_ending hnot) grid.behind
  refine ⟨?_, ?_⟩
  · rw [hwith, withGrid_text hfirst]
    rfl
  · rw [hwith, spliceGrid_text hfirst]
    rfl

/-- An empty grid holds nothing that an end of a block begins with. -/
theorem isClear_of_no_cards (hgrid : grid.IsFirst) {cards : Text} (hcards : cards = []) :
    IsClear articleClose ((grid.fill cards).inside ++ grid.closing) := by
  refine (isClear_inside_fill ?_).append
    (hgrid.isClear_closing (by decide +kernel) (by decide +kernel))
  rw [hcards]
  exact isClear_of_notMem List.not_mem_nil

/-- With a featured comment at the end of the start tag of an empty grid, a block that ends behind
the grid is replaced together with the comment behind the grid. -/
theorem IsSteady.not_hasBlockEnd (hsteady : grid.IsSteady index) (h : index.IsPlain)
    (hgrid : grid.IsFirst) (hfront : ¬ featuredComment <:+: grid.front) {tag : Text}
    (htag : grid.startTag = tag ++ featuredComment) (hcards : index.cardsHtml.toList = []) :
    ¬ HasBlockEnd grid.behind := by
  intro hend
  obtain ⟨front, sequence, back, hsplit⟩ := exists_splitClosing?_of_hasBlockEnd hend
  obtain ⟨-, hbehind⟩ := isClosing_and_eq_of_splitClosing? isTag_divisionClose hsplit
  obtain ⟨body, hhtml, hbody⟩ := h.exists_featured_eq
  have hmore := splitClosing?_append_of_isClear isTag_articleClose isTag_divisionClose
    (isClear_of_no_cards hgrid hcards) hsplit
  have hwith : withFeatured index.featuredHtml.toList (grid.fill index.cardsHtml.toList).text =
      grid.front ++ (grid.startTag ++ (body ++ blockEnd ++ back)) := by
    rw [text_fill, withFeatured_startTag_append hgrid hfront htag,
      withFeatured_featuredComment_append, hmore, hhtml, htag]
    simp
  obtain ⟨htext, hsome⟩ := hsteady
  have hsplice := spliceGrid_startTag_append hgrid.gridOpen_not_isInfix hgrid.gt_notMem
    index.cardsHtml.toList (body ++ blockEnd ++ back)
  rw [hwith, hsplice, Option.isSome_map] at hsome
  obtain ⟨⟨inside, found, after⟩, hclosing⟩ := Option.isSome_iff_exists.1 hsome
  obtain ⟨-, hfound⟩ := isClosing_and_eq_of_splitClosing? isTag_emptyStateComment hclosing
  rw [hwith, withGrid, hsplice, hclosing] at htext
  -- The rest of the page is as before, so that the comment behind the grid is in the block.
  have hafter : found ++ after = grid.closing ++ grid.behind := by
    simpa [text, fill, startTag, closing] using htext
  have hcomment : body ++ blockEnd ++ back =
      inside ++ (grid.closing ++ (front ++ sequence)) ++ back := by
    rw [hfound, List.append_assoc, hafter, hbehind]
    simp
  rw [List.append_cancel_right_eq] at hcomment
  have hblock : IsClear emptyStateComment (body ++ blockEnd) :=
    (hbody.isClear _ (by simp [landmarks])).append (by decide +kernel)
  refine hblock.not_isInfix isTag_emptyStateComment ?_
  rw [hcomment, closing]
  exact ⟨inside ++ (divisionClose ++ grid.blanks), front ++ sequence, by simp⟩

/-- With a featured comment at the end of the start tag of an empty grid, all is steady exactly if
there is no end of a block behind the grid. -/
theorem isSteady_iff_of_startTag_of_no_cards (h : index.IsPlain) (hgrid : grid.IsFirst)
    (hfront : ¬ featuredComment <:+: grid.front) (hstart : featuredComment <:+ grid.startTag)
    (hcards : index.cardsHtml.toList = []) :
    grid.IsSteady index ↔ ¬ HasBlockEnd grid.behind := by
  obtain ⟨tag, htag⟩ := hstart
  refine ⟨fun hsteady => hsteady.not_hasBlockEnd h hgrid hfront htag.symm hcards, fun hend => ?_⟩
  refine isSteady_of_withFeatured_eq_self h hgrid ?_
  have hnone : ¬ HasBlockEnd ((grid.fill index.cardsHtml.toList).inside ++ grid.closing ++
      grid.behind) := by
    rwa [HasBlockEnd,
      hasClosing_append_iff_of_isClear isTag_articleClose (isClear_of_no_cards hgrid hcards)]
  rw [text_fill, withFeatured_startTag_append hgrid hfront htag.symm,
    (h.withFeatured_eq_self_iff _).2 (Or.inl hnone), ← htag]
  simp

/-! #### No featured comment in front of the cards -/

/-- With no featured comment in front of the cards, all is steady exactly if the replacement leaves
alone what stands behind the grid. -/
theorem isSteady_iff_of_behind (h : index.IsPlain) (hgrid : grid.IsFirst)
    (hfront : ¬ featuredComment <:+: grid.front) (hstart : ¬ featuredComment <:+ grid.startTag) :
    grid.IsSteady index ↔
      withFeatured index.featuredHtml.toList grid.behind = grid.behind := by
  have hclear : IsClear featuredComment
      ((grid.fill index.cardsHtml.toList).inside ++ grid.closing) :=
    (isClear_inside_fill h.featuredComment_cards).append
      (hgrid.isClear_closing (by decide +kernel) (by decide +kernel))
  have hnot : ¬ featuredComment <:+: grid.startTag := by
    rintro ⟨front, back, heq⟩
    by_cases hback : back = []
    · exact hstart ⟨front, by rw [← heq, hback, List.append_nil]⟩
    · refine gt_notMem_of_startTag_eq_append hgrid heq.symm hback ?_
      exact List.mem_append_right _ (by decide)
  have htext (more : Text) : (({ grid with behind := more } : Grid).fill
      index.cardsHtml.toList).text = grid.front ++ (grid.startTag ++
        ((grid.fill index.cardsHtml.toList).inside ++ grid.closing ++ more)) :=
    text_fill _ _
  have hopen (more : Text) : IsSeam featuredComment grid.front (grid.startTag ++ more) := by
    rw [startTag, List.append_assoc, List.append_assoc]
    exact isTag_gridOpen.isSeam isTag_featuredComment.toIsToken _ _
  have hclose (more : Text) : IsSeam featuredComment grid.startTag more :=
    isTag_featuredComment.isSeam_gt (gridOpen ++ grid.attributes) more
  have hwith : withFeatured index.featuredHtml.toList (grid.fill index.cardsHtml.toList).text =
      (({ grid with behind := withFeatured index.featuredHtml.toList grid.behind } : Grid).fill
        index.cardsHtml.toList).text := by
    rw [htext grid.behind, htext (withFeatured _ _), withFeatured_append hfront (hopen _),
      withFeatured_append hnot (hclose _),
      withFeatured_append (hclear.not_isInfix isTag_featuredComment)
        (hclear.isSeam isTag_featuredComment _)]
  constructor
  · rintro ⟨hsteady, -⟩
    rw [hwith, withGrid_text (isFirst_fill hgrid h.not_hasClosing_cards _), fill_fill,
      htext (withFeatured _ _), htext grid.behind] at hsteady
    simpa using hsteady
  · intro hbehind
    refine isSteady_of_withFeatured_eq_self h hgrid ?_
    rw [hwith, hbehind]

/-- All is steady exactly if the grid is kept. -/
theorem isSteady_iff_isKept (h : index.IsPlain) (hgrid : grid.IsFirst)
    (hfixed : withFeatured index.featuredHtml.toList grid.text = grid.text) :
    grid.IsSteady index ↔ grid.IsKept index := by
  by_cases hfront : featuredComment <:+: grid.front
  · rw [isSteady_iff_of_front h hgrid hfixed hfront]
    exact ⟨fun hkept => ⟨fun _ => hkept, fun hnot => absurd hfront hnot,
      fun hnot => absurd hfront hnot⟩, fun hkept => hkept.front hfront⟩
  by_cases hstart : featuredComment <:+ grid.startTag
  · have hiff : grid.IsSteady index ↔
        index.cardsHtml.toList ≠ [] ∨ ¬ HasBlockEnd grid.behind := by
      by_cases hcards : index.cardsHtml.toList = []
      · rw [isSteady_iff_of_startTag_of_no_cards h hgrid hfront hstart hcards,
          or_iff_right (not_not_intro hcards)]
      · exact iff_of_true (isSteady_of_startTag_of_cards h hgrid hfront hstart hcards)
          (Or.inl hcards)
    rw [hiff]
    exact ⟨fun hkept => ⟨fun hoccurs => absurd hoccurs hfront, fun _ _ => hkept,
      fun _ hnot => absurd hstart hnot⟩, fun hkept => hkept.startTag hfront hstart⟩
  · rw [isSteady_iff_of_behind h hgrid hfront hstart]
    exact ⟨fun hkept => ⟨fun hoccurs => absurd hoccurs hfront, fun _ hends => absurd hends hstart,
      fun _ _ => hkept⟩, fun hkept => hkept.behind hfront hstart⟩

end Grid

/-! ### Rebuilding twice -/

/-- With plain markup, a page is stable exactly when its grid is kept. -/
theorem IsPlain.isStable_iff (h : index.IsPlain) (content : Text) :
    index.IsStable content ↔ ∀ grid : Grid, grid.IsFirst →
      grid.text = withFeatured index.featuredHtml.toList content → grid.IsKept index := by
  have hfixed := h.withFeatured_withFeatured content
  cases hgrid : spliceGrid index.cardsHtml.toList
      (withFeatured index.featuredHtml.toList content) with
  | none =>
    have hfirst : (index.splice content).1 = withFeatured index.featuredHtml.toList content := by
      rw [splice_fst, withGrid, hgrid]
      rfl
    refine iff_of_true ⟨?_, fun happlied => ?_⟩ fun grid hisFirst htext => ?_
    · rw [hfirst, splice_fst, hfixed, withGrid, hgrid]
      rfl
    · rw [splice_snd_grid, hgrid] at happlied
      exact absurd happlied (by decide)
    · rw [← htext, Grid.spliceGrid_text hisFirst] at hgrid
      exact absurd hgrid (by simp)
  | some replaced =>
    have hiff (grid : Grid) (hisFirst : grid.IsFirst)
        (htext : grid.text = withFeatured index.featuredHtml.toList content) :
        index.IsStable content ↔ grid.IsKept index := by
      rw [Grid.isStable_iff_isSteady hisFirst htext]
      exact Grid.isSteady_iff_isKept h hisFirst (htext ▸ hfixed)
    obtain ⟨grid, hisFirst, htext, -⟩ := exists_grid_of_spliceGrid hgrid
    exact ⟨fun hstable other hother heq => (hiff other hother heq).1 hstable,
      fun hkept => (hiff grid hisFirst htext).2 (hkept grid hisFirst htext)⟩

/-- **Stable index pages.** Let no text of the posts hold an opening bracket. A second rebuild of a
page with their index changes nothing, and finds the grid again, exactly when the grid of the page
with the new featured block is kept: when neither the cards nor the end of the grid complete a
featured block that the first rebuild did not find, and no featured block is left behind the grid
for the second one. -/
theorem isStable_iff_isKept {posts : List Post} (hposts : ∀ post ∈ posts, post.IsPlain)
    (hindex : generate posts = .ok index) (content : Text) :
    index.IsStable content ↔ ∀ grid : Grid, grid.IsFirst →
      grid.text = withFeatured index.featuredHtml.toList content → grid.IsKept index :=
  (isPlain_of_generate hposts hindex).isStable_iff content

/-- A post to show the index with. -/
def samplePost : Post where
  slug := "a"
  title := "A"
  date := "2024-01-01"
  dateFormatted := some "January 1, 2024"
  image := "i"

/-- The index of the post. -/
def sampleIndex : BlogIndex where
  featuredSlug := "a"
  featuredHtml := samplePost.featuredBlock
  cardsHtml := String.intercalate "\n" [samplePost.card]

theorem isPlain_samplePost : samplePost.IsPlain :=
  ⟨by decide, by decide, by decide, by decide, by decide, by decide, by decide, by decide,
    by decide, by decide, by decide, by decide⟩

/-- An index page without a place for the featured block. -/
def gridPage : Text :=
  "<div id=\"posts-grid\"></div>\n<!-- Empty State -->".toList

/-- Without a featured comment on the page, the grid is kept. -/
theorem isStable_iff_isKept_gridPage :
    (∀ post ∈ [samplePost], post.IsPlain) ∧ generate [samplePost] = .ok sampleIndex ∧
      sampleIndex.IsStable gridPage := by
  have hposts : ∀ post ∈ [samplePost], post.IsPlain := by simpa using isPlain_samplePost
  refine ⟨hposts, rfl, (isStable_iff_isKept hposts rfl gridPage).2 fun grid _ htext => ?_⟩
  have hnot : ¬ featuredComment <:+: grid.text := by
    rw [htext, withFeatured_of_not_isInfix] <;> decide
  have hfront : ¬ featuredComment <:+: grid.front := fun hoccurs =>
    hnot (List.infix_append_of_infix_left hoccurs)
  have hstart : ¬ featuredComment <:+: grid.startTag := fun hoccurs =>
    hnot (List.infix_append_of_infix_right (List.infix_append_of_infix_left hoccurs))
  have hbehind : ¬ featuredComment <:+: grid.behind := by
    refine fun hoccurs => hnot ?_
    have hsuffix : grid.behind <:+ grid.text :=
      ⟨grid.front ++ (grid.startTag ++ (grid.inside ++ grid.closing)), by simp [Grid.text]⟩
    exact hoccurs.trans hsuffix.isInfix
  exact ⟨fun hoccurs => absurd hoccurs hfront, fun _ hends => absurd hends.isInfix hstart,
    fun _ _ => withFeatured_of_not_isInfix hbehind⟩

/-- An index page where the featured block is still to be written behind its comment. -/
def commentPage : Text :=
  "<!-- Featured Post -->\n<div id=\"posts-grid\"></div>\n<!-- Empty State -->".toList

/-- The pieces of the page around the interior of its grid. -/
def commentGrid : Grid where
  front := "<!-- Featured Post -->\n".toList
  attributes := []
  inside := []
  blanks := ['\n']
  behind := " -->".toList

/-- Not all pages are stable: the first rebuild fills the grid and leaves the featured comment
alone, and the second one replaces all from the comment to the end of the grid. -/
theorem not_isStable_commentPage : ¬ ∀ (posts : List Post) (index : BlogIndex) (content : Text),
    posts ≠ [] → (∀ post ∈ posts, post.IsPlain) → generate posts = .ok index →
      index.IsStable content := by
  intro hall
  have hposts : ∀ post ∈ [samplePost], post.IsPlain := by simpa using isPlain_samplePost
  have hplain : sampleIndex.IsPlain := isPlain_of_generate hposts rfl
  have hstable := hall [samplePost] sampleIndex commentPage (by simp) hposts rfl
  have hisFirst : commentGrid.IsFirst :=
    ⟨by decide, by decide, List.all_eq_true.1 rfl, fun _ _ _ _ _ => Nat.zero_le _⟩
  have hnone : splitClosing? articleClose divisionClose
      "\n<div id=\"posts-grid\"></div>\n<!-- Empty State -->".toList = none := by decide +kernel
  have htext : commentGrid.text = withFeatured sampleIndex.featuredHtml.toList commentPage := by
    change _ = withFeatured _ (featuredComment ++
      "\n<div id=\"posts-grid\"></div>\n<!-- Empty State -->".toList)
    rw [withFeatured_featuredComment_append, hnone]
    decide +kernel
  have hkept := (hplain.isStable_iff commentPage).1 hstable commentGrid hisFirst htext
  rcases hkept.front (by decide) with ⟨front, back, heq, hend⟩ | ⟨hcards, -⟩
  · obtain ⟨a, sequence, b, ⟨blanks, -, rfl⟩, rfl⟩ := hend
    have hoccurs : articleClose <:+: commentGrid.front :=
      heq ▸ ⟨front ++ featuredComment ++ a, blanks ++ divisionClose ++ b, by simp⟩
    exact absurd hoccurs (by decide)
  · obtain ⟨body, hcard, -⟩ := Post.exists_card_eq isPlain_samplePost
    rw [sampleIndex, String.toList_intercalate] at hcards
    have hnil : samplePost.card.toList = [] := by simpa using hcards
    rw [hnil] at hcard
    exact isTag_articleClose.ne_nil (List.append_eq_nil_iff.1 hcard.symm).2

end BlogIndex

end SiteWeave
