import SiteWeave.Proofs.BlogIndex.Search

/-!
# Finding what was generated

The texts of the posts go into the markup of the index as they are, and the next rebuild has to find
that markup by the searches for the featured block and for the grid. It does so exactly when the
texts do not anticipate the end of either: no end of a block stands in the featured block in front
of its own, and no closing sequence of the grid stands among the cards. What comes first on the page
must not hold the beginning of what comes second either.

## Main definitions

* `Expression.Hit.IsAhead`: one thing that is found ends in front of another one.
* `BlogIndex.IsSound`: markup that anticipates no end.
* `BlogIndex.IsRecognised`: the searches find the markup as it was generated.

## Main results

* `BlogIndex.IsRecognised.isSound`: what is recognised is sound.
* `BlogIndex.exists_isRecognised_iff`: the index of some posts is recognised in its place exactly if
  it is sound and what comes first does not hold the beginning of what comes second.
-/

namespace SiteWeave

open Text Expression

/-- The number of places where a text occurs in another one. -/
def Text.occurrences (needle text : Text) : Nat :=
  text.tails.countP (needle.isPrefixOf ·)

/-- What is found ends in front of another thing that is found. -/
def Expression.Hit.IsAhead (first second : Hit) : Prop :=
  (first.front ++ first.text).length ≤ second.front.length

theorem Expression.Hit.IsAhead.not_isAhead {first second : Hit} (h : first.IsAhead second)
    (hne : first.text ≠ []) : ¬ second.IsAhead first := by
  have hpos := List.length_pos_iff.2 hne
  simp only [Hit.IsAhead, List.length_append] at h ⊢
  omega

namespace BlogIndex

/-- The markup anticipates no end: the featured block has no end of a block but at its end, and the
cards hold no closing sequence of the grid. -/
structure IsSound (index : BlogIndex) : Prop where
  eq_nil : ∀ front found back, IsClosing articleClose divisionClose found →
    index.featuredHtml.toList = front ++ found ++ back → back = []
  not_hasClosing : ¬ HasClosing divisionClose emptyStateComment index.cardsHtml.toList

/-- The searches find the markup in the text as it was generated: the featured block as a whole, and
between the start tag and the closing sequence of the grid the cards between their line breaks. -/
structure IsRecognised (index : BlogIndex) (content : Text) (block grid : Hit) : Prop where
  search?_featuredExpression : search? featuredExpression content = some block
  text_block : block.text = index.featuredHtml.toList
  search?_gridExpression : search? gridExpression content = some grid
  inside_grid : grid.parts[3]? = some ('\n' :: index.cardsHtml.toList ++ "\n      ".toList)

variable {index : BlogIndex} {content body front back sequence : Text}

/-! ### What is found -/

section Pieces

variable {block : Block} {grid : Grid}

theorem Block.text_hit (block : Block) : block.hit.text = block.markup := by
  simp [Block.hit, Reading.text, Block.markup, Block.ending]

theorem Grid.text_hit (grid : Grid) : grid.hit.text = grid.markup := by
  simp [Grid.hit, Reading.text, Grid.markup, Grid.startTag, Grid.closing]

theorem Block.isAhead_iff : block.hit.IsAhead grid.hit ↔
    (block.front ++ block.markup).length ≤ grid.front.length := by
  rw [Hit.IsAhead, block.text_hit]
  rfl

theorem Grid.isAhead_iff : grid.hit.IsAhead block.hit ↔
    (grid.front ++ grid.markup).length ≤ block.front.length := by
  rw [Hit.IsAhead, grid.text_hit]
  rfl

/-- A featured block that is found has no end of a block but at its end. -/
theorem Block.IsFirst.eq_nil_of_markup_eq (h : block.IsFirst)
    (hsequence : IsClosing articleClose divisionClose sequence)
    (heq : block.markup = front ++ sequence ++ back) : back = [] := by
  have hclear : IsClear articleClose featuredComment := by decide +kernel
  obtain ⟨blanks, hblanks, rfl⟩ := id hsequence
  have htags : featuredComment ++ (block.inside ++ block.ending) =
      front ++ articleClose ++ (blanks ++ divisionClose ++ back) := by
    rw [← Block.markup, heq]
    simp
  rcases (hclear.isSeam isTag_articleClose _).eq_or_eq htags with
    ⟨rest, hcomment, -⟩ | ⟨rest, hrest, -⟩
  · exact absurd ⟨front, rest, hcomment.symm⟩ (hclear.not_isInfix isTag_articleClose)
  -- The sequence begins behind the inside of the block, and so it is the end of the block.
  have hinside : block.inside ++ block.ending =
      rest ++ ((articleClose ++ blanks ++ divisionClose) ++ back) := by simp [hrest]
  have hle : block.inside.length ≤ rest.length := by
    refine h.length_le rest _ (back ++ block.behind) hsequence ?_
    rw [← List.append_assoc, hinside]
    simp
  obtain ⟨more, rfl⟩ : block.inside <+: rest :=
    List.prefix_of_prefix_length_le ⟨_, hinside⟩ (List.prefix_append _ _) hle
  rw [List.append_assoc, List.append_cancel_left_eq] at hinside
  exact (hsequence.eq_nil_and_eq_nil (hinside ▸ isClosing_ending h) isTag_articleClose
    isTag_divisionClose).2

theorem Grid.IsFirst.not_hasClosing_inside (h : grid.IsFirst) :
    ¬ HasClosing divisionClose emptyStateComment grid.inside := by
  rintro ⟨front, found, back, hfound, hinside⟩
  have hle := h.length_le front found (back ++ (grid.closing ++ grid.behind)) hfound
    (by simp [hinside])
  have hne : found ≠ [] := by
    rintro rfl
    simpa using hfound.head?_eq isTag_divisionClose
  have hpos := List.length_pos_iff.2 hne
  simp only [hinside, List.length_append] at hle
  omega

end Pieces

/-- **What is recognised is sound.** -/
theorem IsRecognised.isSound {block grid : Hit} (h : index.IsRecognised content block grid) :
    index.IsSound := by
  obtain ⟨hblock, htext, hgrid, hinside⟩ := h
  obtain ⟨block, hblockFirst, -, rfl⟩ := search?_featuredExpression_eq_some_iff.1 hblock
  obtain ⟨grid, hgridFirst, -, rfl⟩ := search?_gridExpression_eq_some_iff.1 hgrid
  rw [block.text_hit] at htext
  have hfill : grid.inside = (grid.fill index.cardsHtml.toList).inside := Option.some.inj hinside
  refine ⟨fun front found back hfound heq =>
    hblockFirst.eq_nil_of_markup_eq hfound (htext.trans heq), ?_⟩
  have hnot := hgridFirst.not_hasClosing_inside
  rwa [hfill, Grid.hasClosing_inside_fill_iff] at hnot

/-! ### What is written -/

theorem exists_featured_eq_of_generate {posts : List Post} (h : generate posts = .ok index) :
    ∃ body, index.featuredHtml.toList = featuredComment ++ body ++ blockEnd := by
  rw [generate] at h
  split at h
  · simp at h
  next number post _ =>
  obtain rfl := by simpa using h
  obtain ⟨lines, heq, -⟩ := post.exists_featuredBlock_eq_lines
  exact ⟨_, heq⟩

/-- A sound featured block is found whole. -/
theorem IsSound.hasWholeBlock (h : index.IsSound)
    (hhtml : index.featuredHtml.toList = featuredComment ++ body ++ blockEnd) :
    index.HasWholeBlock := by
  refine ⟨body, hhtml, (splitClosing?_eq_some_iff isTag_articleClose isTag_divisionClose).2
    ⟨isClosing_blockEnd, (List.append_nil _).symm, fun front found back hfound heq => ?_⟩⟩
  obtain rfl : back = [] := by
    refine h.eq_nil (featuredComment ++ front) found back hfound ?_
    rw [hhtml, List.append_assoc, heq]
    simp
  by_contra hlt
  obtain ⟨inner, rfl⟩ : front <+: body :=
    List.prefix_of_prefix_length_le ⟨found, by simpa using heq.symm⟩ (List.prefix_append _ _)
      (Nat.le_of_not_le hlt)
  obtain rfl : found = inner ++ (blockEnd ++ []) := by simpa using heq.symm
  obtain rfl := isClosing_blockEnd.eq_nil_of_append hfound isTag_articleClose isTag_divisionClose
  simp at hlt

theorem AreApart.isRecognised {block : Block} {grid : Grid} (h : AreApart content block grid)
    (hmarkup : block.markup = index.featuredHtml.toList)
    (hinside : grid.inside = '\n' :: index.cardsHtml.toList ++ "\n      ".toList) :
    index.IsRecognised content block.hit grid.hit where
  search?_featuredExpression :=
    search?_featuredExpression_eq_some_iff.2 ⟨block, h.block_isFirst, h.block_text, rfl⟩
  text_block := block.text_hit.trans hmarkup
  search?_gridExpression :=
    search?_gridExpression_eq_some_iff.2 ⟨grid, h.grid_isFirst, h.grid_text, rfl⟩
  inside_grid := congrArg some hinside

/-- A sound index is found in the place of the two stretches that were replaced, if the one that
comes first does not hold the beginning of the other one. -/
theorem IsSound.exists_isRecognised {block grid : Hit} (h : index.IsSound)
    (hhtml : index.featuredHtml.toList = featuredComment ++ body ++ blockEnd)
    (hblock : search? featuredExpression content = some block)
    (hgrid : search? gridExpression content = some grid)
    (hapart : block.IsAhead grid ∨ grid.IsAhead block)
    (hopens : block.IsAhead grid → ¬ gridOpen <:+: index.featuredHtml.toList)
    (hcomment : grid.IsAhead block → ¬ featuredComment <:+: index.cardsHtml.toList) :
    ∃ block' grid', index.IsRecognised (index.splice content).1 block' grid' ∧
      (block.IsAhead grid → block'.IsAhead grid') ∧
        (grid.IsAhead block → grid'.IsAhead block') := by
  have hwhole := h.hasWholeBlock hhtml
  obtain ⟨block, hblockFirst, rfl, rfl⟩ := search?_featuredExpression_eq_some_iff.1 hblock
  obtain ⟨grid, hgridFirst, htext, rfl⟩ := search?_gridExpression_eq_some_iff.1 hgrid
  rcases hapart with hahead | hahead
  · obtain ⟨between, hfront⟩ := exists_eq_append (htext.symm.trans grid.text_eq)
      (Block.isAhead_iff.1 hahead)
    obtain ⟨next, hnextFront, hmarkup, hnext⟩ := exists_areApart_of_block_first hwhole
      (hopens hahead) h.not_hasClosing hblockFirst hgridFirst htext.symm hfront
    refine ⟨_, _, hnext.isRecognised hmarkup rfl, fun _ => Block.isAhead_iff.2 ?_, fun hbehind => ?_⟩
    · exact length_le_of_eq_append (by rw [hnextFront, hmarkup]; rfl)
    · exact absurd hbehind (hahead.not_isAhead (block.text_hit ▸ block.markup_ne_nil))
  · obtain ⟨between, hfront⟩ := exists_eq_append (grid.text_eq.symm.trans htext)
      (Grid.isAhead_iff.1 hahead)
    obtain ⟨next, hnextFront, hmarkup, -, hnext⟩ := exists_areApart_of_grid_first hwhole
      (hcomment hahead) h.not_hasClosing hblockFirst hgridFirst hfront
    refine ⟨_, _, hnext.isRecognised hmarkup rfl, fun hbehind => ?_, fun _ => Grid.isAhead_iff.2 ?_⟩
    · exact absurd hbehind (hahead.not_isAhead (grid.text_hit ▸ grid.markup_ne_nil))
    · exact length_le_of_eq_append hnextFront

/-- Posts without opening brackets have a sound index. -/
theorem IsPlain.isSound (h : index.IsPlain) : index.IsSound := by
  have hfront : ¬ featuredComment <:+: [] := by decide
  obtain ⟨block, hblock, -, hmarkup, -⟩ := h.hasWholeBlock.exists_block hfront []
  exact ⟨fun _ _ _ hfound heq => hblock.eq_nil_of_markup_eq hfound (hmarkup.trans heq),
    h.not_hasClosing_cards⟩

/-- In front of the grid that is found, no featured block opens one. -/
theorem IsRecognised.gridOpen_not_infix {block grid : Hit}
    (h : index.IsRecognised content block grid) (hahead : block.IsAhead grid) :
    ¬ gridOpen <:+: index.featuredHtml.toList := by
  obtain ⟨hblock, htext, hgrid, -⟩ := h
  obtain ⟨block, -, hblockText, rfl⟩ := search?_featuredExpression_eq_some_iff.1 hblock
  obtain ⟨grid, hgridFirst, rfl, rfl⟩ := search?_gridExpression_eq_some_iff.1 hgrid
  obtain ⟨between, hfront⟩ := exists_eq_append (hblockText.trans grid.text_eq)
    (Block.isAhead_iff.1 hahead)
  rw [← htext, block.text_hit]
  intro hoccurs
  refine hgridFirst.gridOpen_not_isInfix ?_
  rw [hfront]
  exact List.infix_append_of_infix_right (List.infix_append_of_infix_left hoccurs)

/-- In front of the featured block that is found, no cards hold a featured comment. -/
theorem IsRecognised.featuredComment_not_infix {block grid : Hit}
    (h : index.IsRecognised content block grid) (hahead : grid.IsAhead block) :
    ¬ featuredComment <:+: index.cardsHtml.toList := by
  obtain ⟨hblock, -, hgrid, hinside⟩ := h
  obtain ⟨block, hblockFirst, rfl, rfl⟩ := search?_featuredExpression_eq_some_iff.1 hblock
  obtain ⟨grid, -, hgridText, rfl⟩ := search?_gridExpression_eq_some_iff.1 hgrid
  obtain ⟨between, hfront⟩ := exists_eq_append (grid.text_eq.symm.trans hgridText)
    (Grid.isAhead_iff.1 hahead)
  have hfill : grid.inside = '\n' :: index.cardsHtml.toList ++ "\n      ".toList :=
    Option.some.inj hinside
  rintro ⟨left, right, hcards⟩
  refine hblockFirst.featuredComment_not_isInfix
    ⟨grid.front ++ (grid.startTag ++ '\n' :: left),
      right ++ ("\n      ".toList ++ (grid.closing ++ between)), ?_⟩
  rw [hfront, Grid.markup, hfill, ← hcards]
  simp

/-- **The index is found where it was written.** Let a page have a featured block and a grid that
lie apart. After a rebuild with the index of some posts, whatever their texts, the searches find the
whole featured block and the cards of the index in the order they had, exactly if the featured block
has no end of a block but its own, the cards hold no closing sequence of the grid, and what comes
first on the page does not hold the beginning of what comes second. -/
theorem exists_isRecognised_iff {posts : List Post} (hne : posts ≠ []) {block grid : Hit}
    (hblock : search? featuredExpression content = some block)
    (hgrid : search? gridExpression content = some grid)
    (hapart : block.IsAhead grid ∨ grid.IsAhead block) :
    ∃ index, generate posts = .ok index ∧
      ((∃ block' grid', index.IsRecognised (index.splice content).1 block' grid' ∧
        (block.IsAhead grid → block'.IsAhead grid') ∧
          (grid.IsAhead block → grid'.IsAhead block')) ↔
        index.IsSound ∧ (block.IsAhead grid → ¬ gridOpen <:+: index.featuredHtml.toList) ∧
          (grid.IsAhead block → ¬ featuredComment <:+: index.cardsHtml.toList)) := by
  obtain ⟨index, hindex⟩ := exists_generate hne
  obtain ⟨body, hhtml⟩ := exists_featured_eq_of_generate hindex
  refine ⟨index, hindex, ?_, ?_⟩
  · rintro ⟨block', grid', hrecognised, hahead, hbehind⟩
    exact ⟨hrecognised.isSound, fun h => hrecognised.gridOpen_not_infix (hahead h),
      fun h => hrecognised.featuredComment_not_infix (hbehind h)⟩
  · rintro ⟨hsound, hopens, hcomment⟩
    exact hsound.exists_isRecognised hhtml hblock hgrid hapart hopens hcomment

theorem search?_builtPage : search? featuredExpression builtPage = some builtBlock.hit ∧
    search? gridExpression builtPage = some builtGrid.hit ∧
      builtBlock.hit.IsAhead builtGrid.hit := by
  obtain ⟨hblock, hblockText, hgrid, hgridText, -⟩ := areApart_builtPage
  exact ⟨search?_featuredExpression_eq_some_iff.2 ⟨_, hblock, hblockText, rfl⟩,
    search?_gridExpression_eq_some_iff.2 ⟨_, hgrid, hgridText, rfl⟩,
    Block.isAhead_iff.2 (by decide +kernel)⟩

/-- The index of a post without brackets is recognised. -/
theorem exists_isRecognised_builtPage :
    [samplePost] ≠ [] ∧ search? featuredExpression builtPage = some builtBlock.hit ∧
      search? gridExpression builtPage = some builtGrid.hit ∧
        builtBlock.hit.IsAhead builtGrid.hit ∧ ∃ index, generate [samplePost] = .ok index ∧
          ∃ block' grid', index.IsRecognised (index.splice builtPage).1 block' grid' := by
  have hposts : ∀ post ∈ [samplePost], post.IsPlain := by simpa using isPlain_samplePost
  obtain ⟨hblock, hgrid, hahead⟩ := search?_builtPage
  obtain ⟨index, hindex, hiff⟩ :=
    exists_isRecognised_iff (List.cons_ne_nil samplePost []) hblock hgrid (Or.inl hahead)
  have hplain := isPlain_of_generate hposts hindex
  obtain ⟨block', grid', hrecognised, -⟩ := hiff.2 ⟨hplain.isSound,
    fun _ => hplain.gridOpen_not_infix_featured,
    fun _ => hplain.featuredComment_cards.not_isInfix isTag_featuredComment⟩
  exact ⟨List.cons_ne_nil _ _, hblock, hgrid, hahead, index, hindex, block', grid', hrecognised⟩

/-- A post whose excerpt is the end of a block. -/
def closingPost : Post := { samplePost with excerpt := "</article></div>" }

/-- The index of the post. -/
def closingIndex : BlogIndex where
  featuredSlug := "a"
  featuredHtml := closingPost.featuredBlock
  cardsHtml := String.intercalate "\n" [closingPost.card]

/-- The index of some posts is not recognised, on a page with one featured comment and one grid: the
search for the featured block ends with the excerpt. -/
theorem not_exists_isRecognised : ¬ ∀ (posts : List Post) (index : BlogIndex) (content : Text)
    (block grid : Hit), posts ≠ [] → generate posts = .ok index →
      occurrences featuredComment content = 1 → occurrences gridOpen content = 1 →
        search? featuredExpression content = some block →
          search? gridExpression content = some grid →
            (block.IsAhead grid ∨ grid.IsAhead block) →
              ∃ block' grid', index.IsRecognised (index.splice content).1 block' grid' := by
  intro hall
  obtain ⟨hblock, hgrid, hahead⟩ := search?_builtPage
  have hindex : generate [closingPost] = .ok closingIndex := rfl
  obtain ⟨block, grid, hrecognised⟩ := hall [closingPost] closingIndex builtPage builtBlock.hit
    builtGrid.hit (List.cons_ne_nil _ _) hindex (by decide +kernel) (by decide +kernel) hblock
    hgrid (Or.inl hahead)
  obtain ⟨lines, hhtml, hmem, -⟩ := closingPost.exists_featuredBlock_eq_lines
  obtain ⟨front, back, hlines⟩ := infix_endedLines hmem
  have hexcerpt : closingPost.excerpt.toList = articleClose ++ [] ++ divisionClose := by decide
  rw [String.toList_append, hexcerpt] at hlines
  rw [← hlines] at hhtml
  have hnil := hrecognised.isSound.eq_nil
    (featuredComment ++ '\n' :: (front ++ "                ".toList))
    (articleClose ++ [] ++ divisionClose) (back ++ "        ".toList ++ blockEnd)
    ⟨[], by simp, rfl⟩ (hhtml.trans (by simp only [List.append_assoc, List.cons_append]))
  exact absurd (List.append_eq_nil_iff.1 hnil).2 (by decide)

end BlogIndex

end SiteWeave
