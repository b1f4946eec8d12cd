import SiteWeave.Proofs.BlogIndex.Stability

/-!
# One index after another

When the posts change, the index page is rebuilt with a new index over the markup of the old one. If
the page has a featured block and a grid that lie apart, nothing of the old index is left: the new
one finds exactly what the old one wrote, the one in front of the other in either order, and the
page becomes what it would have become without the old index.

The new featured block goes from its comment to the end that was generated with it, and the new
cards stand between the start tag of the grid and the closing sequence that was there before. What
the search finds first it finds first again, as the generated markup ends all its tags.

## Main definitions

* `BlogIndex.Block`, `BlogIndex.Block.IsFirst`: the pieces of a page around its featured block.
* `BlogIndex.AreApart`: the featured block and the grid of a page, one behind the other.

## Main results

* `BlogIndex.Block.spliceFeatured_text`, `BlogIndex.exists_block_of_spliceFeatured`: what the
  replacement of the featured block does.
* `BlogIndex.splice_of_block_first`, `BlogIndex.splice_of_grid_first`: the page with an index in it,
  in pieces.
* `BlogIndex.exists_areApart_of_block_first`, `BlogIndex.exists_areApart_of_grid_first`: the new
  block and the filled grid are found where the old ones were.
* `BlogIndex.splice_splice`: the last index wins.
-/

namespace SiteWeave

open Text

namespace BlogIndex

variable {index first second : BlogIndex} {content between front back html : Text}

/-! ### The pieces around the featured block -/

/-- A page in pieces around its featured block. -/
structure Block where
  /-- The text in front of the featured comment. -/
  front : Text
  /-- The text between the comment and the end of the block. -/
  inside : Text
  /-- The blanks between the two end tags of the block. -/
  blanks : Text
  /-- The text behind the block. -/
  behind : Text

namespace Block

/-- The two end tags of the block. -/
def ending (block : Block) : Text :=
  articleClose ++ block.blanks ++ divisionClose

/-- The block. -/
def markup (block : Block) : Text :=
  featuredComment ++ (block.inside ++ block.ending)

/-- The page. -/
def text (block : Block) : Text :=
  block.front ++ (block.markup ++ block.behind)

/-- The pieces are those that the replacement finds: everything is its first occurrence. -/
structure IsFirst (block : Block) : Prop where
  featuredComment_not_isInfix : ¬ featuredComment <:+: block.front
  isBlank : ∀ c ∈ block.blanks, SiteWeave.isBlank c = true
  length_le : ∀ front found back, IsClosing articleClose divisionClose found →
    block.inside ++ (block.ending ++ block.behind) = front ++ found ++ back →
      block.inside.length ≤ front.length

variable {block : Block}

theorem markup_ne_nil (block : Block) : block.markup ≠ [] :=
  List.cons_ne_nil _ _

theorem isClosing_ending (h : block.IsFirst) :
    IsClosing articleClose divisionClose block.ending :=
  ⟨block.blanks, h.isBlank, rfl⟩

theorem IsFirst.splitFirst?_text (h : block.IsFirst) : splitFirst? featuredComment block.text =
    some (block.front, block.inside ++ (block.ending ++ block.behind)) := by
  have htext : block.text = block.front ++
      (featuredComment ++ (block.inside ++ (block.ending ++ block.behind))) := by
    simp [text, markup]
  rw [htext, splitFirst?_append h.featuredComment_not_isInfix
    (isTag_featuredComment.isSeam isTag_featuredComment.toIsToken _ _), splitFirst?_self_append]
  simp

theorem IsFirst.splitClosing?_ending (h : block.IsFirst) : splitClosing? articleClose divisionClose
    (block.inside ++ (block.ending ++ block.behind)) =
      some (block.inside, block.ending, block.behind) :=
  (splitClosing?_eq_some_iff isTag_articleClose isTag_divisionClose).2
    ⟨isClosing_ending h, by simp, h.length_le⟩

/-- The pieces of a page are found by cutting it twice. -/
theorem isFirst_and_text_eq_iff : block.IsFirst ∧ block.text = content ↔
    (∀ c ∈ block.blanks, SiteWeave.isBlank c = true) ∧ ∃ rest,
      splitFirst? featuredComment content = some (block.front, rest) ∧
        splitClosing? articleClose divisionClose rest =
          some (block.inside, block.ending, block.behind) := by
  constructor
  · rintro ⟨h, rfl⟩
    exact ⟨h.isBlank, _, h.splitFirst?_text, h.splitClosing?_ending⟩
  · rintro ⟨hblanks, rest, hcomment, hclosing⟩
    obtain ⟨-, hrest, hle⟩ :=
      (splitClosing?_eq_some_iff isTag_articleClose isTag_divisionClose).1 hclosing
    refine ⟨⟨not_infix_of_splitFirst? isTag_featuredComment.ne_nil hcomment, hblanks,
      fun a found b hfound heq => hle a found b hfound ?_⟩, ?_⟩
    · rw [← heq, hrest, List.append_assoc]
    · simp [text, markup, eq_append_of_splitFirst? hcomment, hrest]

/-- The replacement puts the new markup in the place of the block. -/
theorem spliceFeatured_text (h : block.IsFirst) (html : Text) :
    spliceFeatured html block.text = some (block.front ++ (html ++ block.behind)) := by
  rw [spliceFeatured_of_splitFirst? h.splitFirst?_text, h.splitClosing?_ending,
    ← List.append_assoc]
  rfl

end Block

/-- Where the featured block is replaced, it stands. -/
theorem exists_block_of_spliceFeatured {replaced : Text}
    (h : spliceFeatured html content = some replaced) :
    ∃ block : Block, block.IsFirst ∧ block.text = content := by
  simp only [spliceFeatured, Option.bind_eq_bind, Option.bind_eq_some_iff] at h
  obtain ⟨⟨front, rest⟩, hcomment, ⟨inside, sequence, behind⟩, hclosing, -⟩ := h
  obtain ⟨⟨blanks, hblanks, rfl⟩, -⟩ :=
    isClosing_and_eq_of_splitClosing? isTag_divisionClose hclosing
  exact ⟨⟨front, inside, blanks, behind⟩,
    Block.isFirst_and_text_eq_iff.2 ⟨hblanks, rest, hcomment, hclosing⟩⟩

/-- A featured block that is found whole is found again behind any text without its comment. -/
theorem HasWholeBlock.exists_block (h : index.HasWholeBlock)
    (hfront : ¬ featuredComment <:+: front) (behind : Text) : ∃ block : Block, block.IsFirst ∧
      block.front = front ∧ block.markup = index.featuredHtml.toList ∧ block.behind = behind := by
  obtain ⟨body, hhtml, hbody⟩ := h
  have hmarkup : index.featuredHtml.toList = featuredComment ++ (body ++ blockEnd) := by
    rw [hhtml, List.append_assoc]
  have hclosing := splitClosing?_append isTag_articleClose isTag_divisionClose hbody behind
  rw [List.append_assoc] at hclosing
  exact ⟨⟨front, body, '\n' :: "      ".toList, behind⟩,
    ⟨hfront, List.all_eq_true.1 rfl, fun _ _ _ hfound heq =>
      length_le_of_splitClosing? isTag_divisionClose hclosing hfound heq⟩, rfl, hmarkup.symm, rfl⟩

/-! ### Pieces of the grid -/

namespace Grid

variable {grid : Grid}

/-- The container of the grid, up to the start of the comment behind it. -/
def markup (grid : Grid) : Text :=
  grid.startTag ++ (grid.inside ++ grid.closing)

theorem markup_ne_nil (grid : Grid) : grid.markup ≠ [] :=
  List.cons_ne_nil _ _

theorem text_eq (grid : Grid) : grid.text = grid.front ++ (grid.markup ++ grid.behind) := by
  simp [text, markup]

/-- The grid is found with any text behind it. -/
theorem IsFirst.withBehind (h : grid.IsFirst) (behind : Text) :
    ({ grid with behind := behind } : Grid).IsFirst := by
  have hmore := splitClosing?_of_after isTag_divisionClose isTag_emptyStateComment
    h.splitClosing?_closing behind
  exact ⟨h.gridOpen_not_isInfix, h.gt_notMem, h.isBlank, fun _ _ _ hfound heq =>
    length_le_of_splitClosing? isTag_emptyStateComment hmore hfound heq⟩

/-- The grid is found behind any text that does not open one. -/
theorem IsFirst.withFront (h : grid.IsFirst) (hfront : ¬ gridOpen <:+: front) :
    ({ grid with front := front } : Grid).IsFirst :=
  ⟨hfront, h.gt_notMem, h.isBlank, h.length_le⟩

end Grid

/-! ### Pages with an index -/

variable {block : Block} {grid : Grid}

/-- The featured block and the grid of a page, one behind the other. -/
structure AreApart (content : Text) (block : Block) (grid : Grid) : Prop where
  block_isFirst : block.IsFirst
  block_text : block.text = content
  grid_isFirst : grid.IsFirst
  grid_text : grid.text = content
  length_le_or : (block.front ++ block.markup).length ≤ grid.front.length ∨
    (grid.front ++ grid.markup).length ≤ block.front.length

/-- The report of a page that has a featured block and a grid. -/
def bothApplied : SpliceReport := ⟨.applied, .applied⟩

theorem splice_of_splice (hfeatured : spliceFeatured index.featuredHtml.toList content = some front)
    (hgrid : spliceGrid index.cardsHtml.toList front = some back) :
    index.splice content = (back, bothApplied) := by
  simp only [splice, hfeatured, outcomeOf, hgrid]
  rfl

/-- What stands between two texts in a page. -/
theorem exists_eq_append {left middle right more : Text}
    (heq : left ++ (middle ++ right) = front ++ more)
    (hle : (left ++ middle).length ≤ front.length) :
    ∃ between, front = left ++ (middle ++ between) := by
  rw [← List.append_assoc] at heq
  obtain ⟨between, rfl⟩ :=
    List.prefix_of_prefix_length_le ⟨right, heq⟩ (List.prefix_append front more) hle
  exact ⟨between, List.append_assoc _ _ _⟩

theorem length_le_of_eq_append {left middle : Text} (h : front = left ++ (middle ++ between)) :
    (left ++ middle).length ≤ front.length := by
  rw [h, ← List.append_assoc]
  exact (List.prefix_append _ between).length_le

/-! #### The featured block in front of the grid -/

/-- With the featured block in front, the grid is found behind the new block, if that opens none. -/
theorem isFirst_withFront (h : index.HasWholeBlock)
    (hopens : ¬ gridOpen <:+: index.featuredHtml.toList) (hgrid : grid.IsFirst)
    (hfront : grid.front = block.front ++ (block.markup ++ between)) : ({ grid with
      front := block.front ++ (index.featuredHtml.toList ++ between) } : Grid).IsFirst := by
  obtain ⟨last, hlast⟩ := h.exists_eq_append
  obtain ⟨body, hhtml, -⟩ := h
  have hopen : IsSeam gridOpen block.front (index.featuredHtml.toList ++ between) := by
    rw [hhtml, List.append_assoc, List.append_assoc]
    exact isTag_featuredComment.isSeam isTag_gridOpen.toIsToken _ _
  have hclose : IsSeam gridOpen index.featuredHtml.toList between :=
    hlast ▸ isTag_gridOpen.isSeam_gt last between
  refine hgrid.withFront ?_
  rw [hopen.infix_append_iff, hclose.infix_append_iff, not_or, not_or]
  refine ⟨fun hoccurs => ?_, hopens, fun hoccurs => ?_⟩
  · refine hgrid.gridOpen_not_isInfix ?_
    rw [hfront]
    exact List.infix_append_of_infix_left hoccurs
  · refine hgrid.gridOpen_not_isInfix ?_
    rw [hfront]
    exact List.infix_append_of_infix_right (List.infix_append_of_infix_right hoccurs)

/-- With the featured block in front, the new block takes its place and the new cards fill the grid
behind it. -/
theorem splice_of_block_first (h : index.HasWholeBlock)
    (hopens : ¬ gridOpen <:+: index.featuredHtml.toList) (hblock : block.IsFirst)
    (hgrid : grid.IsFirst) (htext : block.text = grid.text)
    (hfront : grid.front = block.front ++ (block.markup ++ between)) :
    index.splice block.text = ((({ grid with
      front := block.front ++ (index.featuredHtml.toList ++ between) } : Grid).fill
        index.cardsHtml.toList).text, bothApplied) := by
  have hbehind : block.behind = between ++ (grid.markup ++ grid.behind) := by
    rw [Block.text, Grid.text_eq, hfront, List.append_assoc, List.append_assoc] at htext
    simpa using htext
  have hpage : block.front ++ (index.featuredHtml.toList ++ block.behind) = ({ grid with
      front := block.front ++ (index.featuredHtml.toList ++ between) } : Grid).text := by
    rw [Grid.text_eq, hbehind]
    simp [Grid.markup, Grid.startTag, Grid.closing]
  refine splice_of_splice (Block.spliceFeatured_text hblock _) ?_
  rw [hpage, Grid.spliceGrid_text (isFirst_withFront h hopens hgrid hfront)]

/-- With the featured block in front, the new block and the filled grid are found in the same
places. -/
theorem exists_areApart_of_block_first (h : index.HasWholeBlock)
    (hopens : ¬ gridOpen <:+: index.featuredHtml.toList)
    (hcards : ¬ HasClosing divisionClose emptyStateComment index.cardsHtml.toList)
    (hblock : block.IsFirst) (hgrid : grid.IsFirst) (htext : block.text = grid.text)
    (hfront : grid.front = block.front ++ (block.markup ++ between)) :
    ∃ next : Block, next.front = block.front ∧ next.markup = index.featuredHtml.toList ∧
      AreApart (index.splice block.text).1 next (({ grid with
        front := block.front ++ (index.featuredHtml.toList ++ between) } : Grid).fill
          index.cardsHtml.toList) := by
  have hfill := Grid.isFirst_fill (isFirst_withFront h hopens hgrid hfront) hcards grid.behind
  obtain ⟨next, hnext, hnextFront, hmarkup, hbehind⟩ := h.exists_block
    hblock.featuredComment_not_isInfix (between ++
      ((grid.fill index.cardsHtml.toList).markup ++ grid.behind))
  rw [splice_of_block_first h hopens hblock hgrid htext hfront]
  refine ⟨next, hnextFront, hmarkup, hnext, ?_, hfill, rfl,
    Or.inl (length_le_of_eq_append (by rw [hnextFront, hmarkup]; rfl))⟩
  rw [Block.text, Grid.text_eq, hnextFront, hmarkup, hbehind]
  simp [Grid.fill, Grid.markup, Grid.startTag, Grid.closing]

theorem splice_splice_of_block_first (hfirst : first.IsPlain) (hsecond : second.IsPlain)
    (hblock : block.IsFirst) (hgrid : grid.IsFirst) (htext : block.text = grid.text)
    (hfront : grid.front = block.front ++ (block.markup ++ between)) :
    second.splice (first.splice block.text).1 = second.splice block.text := by
  obtain ⟨next, hnextFront, hmarkup, hapart⟩ := exists_areApart_of_block_first
    hfirst.hasWholeBlock hfirst.gridOpen_not_infix_featured hfirst.not_hasClosing_cards
    hblock hgrid htext hfront
  have hnext := splice_of_block_first hsecond.hasWholeBlock hsecond.gridOpen_not_infix_featured
    hapart.block_isFirst hapart.grid_isFirst (hapart.block_text.trans hapart.grid_text.symm)
    (by rw [hnextFront, hmarkup]; rfl)
  rw [← hapart.block_text, hnext, hnextFront, splice_of_block_first hsecond.hasWholeBlock
    hsecond.gridOpen_not_infix_featured hblock hgrid htext hfront]
  rfl

/-! #### The grid in front of the featured block -/

/-- With the grid in front, the new cards fill it and the new block takes its place behind it. -/
theorem splice_of_grid_first (hblock : block.IsFirst) (hgrid : grid.IsFirst)
    (hfront : block.front = grid.front ++ (grid.markup ++ between)) (index : BlogIndex) :
    index.splice block.text = ((({ grid with
      behind := between ++ (index.featuredHtml.toList ++ block.behind) } : Grid).fill
        index.cardsHtml.toList).text, bothApplied) := by
  have hpage : block.front ++ (index.featuredHtml.toList ++ block.behind) = ({ grid with
      behind := between ++ (index.featuredHtml.toList ++ block.behind) } : Grid).text := by
    rw [Grid.text_eq, hfront]
    simp [Grid.markup, Grid.startTag, Grid.closing]
  refine splice_of_splice (Block.spliceFeatured_text hblock _) ?_
  rw [hpage, Grid.spliceGrid_text (hgrid.withBehind _)]

/-- A featured comment that is not in front of the block is not there either when the grid has new
cards without one. -/
theorem featuredComment_not_infix_fill {cards : Text} (hcards : ¬ featuredComment <:+: cards)
    (hfront : ¬ featuredComment <:+: grid.front ++ (grid.markup ++ between)) :
    ¬ featuredComment <:+: grid.front ++ ((grid.fill cards).markup ++ between) := by
  have htoken := isTag_featuredComment.toIsToken
  have hinside : ¬ featuredComment <:+: (grid.fill cards).inside := by
    have hbreaks : (grid.fill cards).inside = '\n' :: (cards ++ '\n' :: "      ".toList) := rfl
    rw [hbreaks, htoken.infix_cons_lineEnd_iff, (htoken.isSeam_lineEnd _ _).infix_append_iff,
      htoken.infix_cons_lineEnd_iff, not_or]
    exact ⟨hcards, htoken.not_infix_indent (by simp)⟩
  have hopen (more : Text) : IsSeam featuredComment (grid.front ++ grid.startTag) more := by
    rw [Grid.startTag, ← List.append_assoc]
    exact isTag_featuredComment.isSeam_gt _ more
  have hclosing : IsSeam featuredComment (grid.fill cards).inside (grid.closing ++ between) := by
    rw [Grid.closing, List.append_assoc, List.append_assoc]
    exact isTag_divisionClose.isSeam htoken _ _
  have hold : grid.front ++ (grid.markup ++ between) =
      grid.front ++ grid.startTag ++ (grid.inside ++ (grid.closing ++ between)) := by
    simp [Grid.markup]
  have hnew : grid.front ++ ((grid.fill cards).markup ++ between) =
      grid.front ++ grid.startTag ++
        ((grid.fill cards).inside ++ (grid.closing ++ between)) := by
    simp [Grid.markup, Grid.fill, Grid.startTag, Grid.closing]
  rw [hold, (hopen _).infix_append_iff, not_or] at hfront
  rw [hnew, (hopen _).infix_append_iff, hclosing.infix_append_iff, not_or, not_or]
  exact ⟨hfront.1, hinside, fun hoccurs => hfront.2 (List.infix_append_of_infix_right hoccurs)⟩

/-- With the grid in front, the filled grid and the new block are found in the same places. -/
theorem exists_areApart_of_grid_first (h : index.HasWholeBlock)
    (hcomment : ¬ featuredComment <:+: index.cardsHtml.toList)
    (hcards : ¬ HasClosing divisionClose emptyStateComment index.cardsHtml.toList)
    (hblock : block.IsFirst) (hgrid : grid.IsFirst)
    (hfront : block.front = grid.front ++ (grid.markup ++ between)) :
    ∃ next : Block,
      next.front = grid.front ++ ((grid.fill index.cardsHtml.toList).markup ++ between) ∧
        next.markup = index.featuredHtml.toList ∧ next.behind = block.behind ∧
          AreApart (index.splice block.text).1 next (({ grid with
            behind := between ++ (index.featuredHtml.toList ++ block.behind) } : Grid).fill
              index.cardsHtml.toList) := by
  have hfill := Grid.isFirst_fill hgrid hcards
    (between ++ (index.featuredHtml.toList ++ block.behind))
  obtain ⟨next, hnext, hnextFront, hmarkup, hbehind⟩ := h.exists_block
    (featuredComment_not_infix_fill hcomment (hfront ▸ hblock.featuredComment_not_isInfix))
    block.behind
  rw [splice_of_grid_first hblock hgrid hfront index]
  refine ⟨next, hnextFront, hmarkup, hbehind, hnext, ?_, hfill, rfl,
    Or.inr (length_le_of_eq_append hnextFront)⟩
  rw [Block.text, Grid.text_eq, hnextFront, hmarkup, hbehind]
  simp [Grid.fill, Grid.markup, Grid.startTag, Grid.closing]

theorem splice_splice_of_grid_first (hfirst : first.IsPlain) (hblock : block.IsFirst)
    (hgrid : grid.IsFirst) (hfront : block.front = grid.front ++ (grid.markup ++ between))
    (second : BlogIndex) :
    second.splice (first.splice block.text).1 = second.splice block.text := by
  obtain ⟨next, hnextFront, -, hbehind, hapart⟩ := exists_areApart_of_grid_first
    hfirst.hasWholeBlock (hfirst.featuredComment_cards.not_isInfix isTag_featuredComment)
    hfirst.not_hasClosing_cards hblock hgrid hfront
  rw [← hapart.block_text, splice_of_grid_first hapart.block_isFirst hapart.grid_isFirst hnextFront,
    splice_of_grid_first hblock hgrid hfront, hbehind]
  rfl

/-! #### Either order -/

/-- **An index leaves nothing of an earlier one.** -/
theorem AreApart.splice_splice (h : AreApart content block grid) (hfirst : first.IsPlain)
    (hsecond : second.IsPlain) :
    second.splice (first.splice content).1 = second.splice content := by
  obtain ⟨hblock, rfl, hgrid, htext, hle | hle⟩ := h
  · obtain ⟨between, hfront⟩ := exists_eq_append (htext.symm.trans grid.text_eq) hle
    exact splice_splice_of_block_first hfirst hsecond hblock hgrid htext.symm hfront
  · obtain ⟨between, hfront⟩ := exists_eq_append (grid.text_eq.symm.trans htext) hle
    exact splice_splice_of_grid_first hfirst hblock hgrid hfront second

theorem exists_generate {posts : List Post} (h : posts ≠ []) :
    ∃ index, generate posts = .ok index := by
  obtain ⟨post, posts, rfl⟩ := List.exists_cons_of_ne_nil h
  rw [generate]
  split
  · next hnone =>
    rw [featured?] at hnone
    split at hnone <;> simp at hnone
  · exact ⟨_, rfl⟩

/-- **The last index wins.** Let no text of the posts hold an opening bracket. On a page whose
featured block and grid lie apart, the index of some posts over the index of other ones gives the
page and the report that it gives without the other one. -/
theorem generate_splice_splice {posts others : List Post} (hne : posts ≠ []) (hne' : others ≠ [])
    (hposts : ∀ post ∈ posts, post.IsPlain) (hothers : ∀ post ∈ others, post.IsPlain)
    (hapart : AreApart content block grid) :
    ∃ first second, generate posts = .ok first ∧ generate others = .ok second ∧
      second.splice (first.splice content).1 = second.splice content := by
  obtain ⟨first, hfirst⟩ := exists_generate hne
  obtain ⟨second, hsecond⟩ := exists_generate hne'
  exact ⟨first, second, hfirst, hsecond, hapart.splice_splice (isPlain_of_generate hposts hfirst)
    (isPlain_of_generate hothers hsecond)⟩

/-- An index page with an old featured block and an old card. -/
def builtPage : Text :=
  "<!-- Featured Post --><p></article></div><div id=\"posts-grid\"><p></div><!-- Empty State".toList

/-- The pieces of the page around its featured block. -/
def builtBlock : Block where
  front := []
  inside := "<p>".toList
  blanks := []
  behind := "<div id=\"posts-grid\"><p></div><!-- Empty State".toList

/-- The pieces of the page around the interior of its grid. -/
def builtGrid : Grid where
  front := "<!-- Featured Post --><p></article></div>".toList
  attributes := []
  inside := "<p>".toList
  blanks := []
  behind := []

theorem areApart_builtPage : AreApart builtPage builtBlock builtGrid := by
  have hblock : splitClosing? articleClose divisionClose
      (builtBlock.inside ++ (builtBlock.ending ++ builtBlock.behind)) =
        some (builtBlock.inside, builtBlock.ending, builtBlock.behind) := by decide +kernel
  have hgrid : splitClosing? divisionClose emptyStateComment
      (builtGrid.inside ++ (builtGrid.closing ++ builtGrid.behind)) =
        some (builtGrid.inside, builtGrid.closing, builtGrid.behind) := by decide +kernel
  exact ⟨⟨by decide, List.all_eq_true.1 rfl, fun _ _ _ hfound heq =>
      length_le_of_splitClosing? isTag_divisionClose hblock hfound heq⟩, by decide +kernel,
    ⟨by decide, by decide, List.all_eq_true.1 rfl, fun _ _ _ hfound heq =>
      length_le_of_splitClosing? isTag_emptyStateComment hgrid hfound heq⟩, by decide +kernel,
    by decide +kernel⟩

/-- The index of one post over that of two. -/
theorem generate_splice_splice_builtPage :
    AreApart builtPage builtBlock builtGrid ∧ (∀ post ∈ [samplePost], post.IsPlain) ∧
      ∃ first second, generate [samplePost, samplePost] = .ok first ∧
        generate [samplePost] = .ok second ∧
          second.splice (first.splice builtPage).1 = second.splice builtPage := by
  have hposts : ∀ post ∈ [samplePost], post.IsPlain := by simpa using isPlain_samplePost
  have htwo : ∀ post ∈ [samplePost, samplePost], post.IsPlain := by
    simpa using isPlain_samplePost
  exact ⟨areApart_builtPage, hposts, generate_splice_splice (by simp) (by simp) htwo hposts
    areApart_builtPage⟩

end BlogIndex

end SiteWeave
