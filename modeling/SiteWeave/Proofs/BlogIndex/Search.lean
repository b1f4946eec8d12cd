import SiteWeave.Proofs.Text.Expression
import SiteWeave.Proofs.BlogIndex.Succession

/-!
# The searches behind the index page

The two stretches of the index page are given by search expressions, with runs that are as short or
as long as possible. What the expressions find is found by going from one first occurrence to the
next: the featured block from its comment to the next end of a block, the grid from its start tag to
the next closing sequence. So the page with an index in it is described by places in the page alone.

## Main definitions

* `BlogIndex.featuredExpression`, `BlogIndex.gridExpression`: what is searched for.
* `BlogIndex.spliceHits`: the page with the new markup in the places that the searches find.
* `BlogIndex.HasGrid`: a start tag of the grid with a closing sequence behind it.
* `BlogIndex.FeaturedRewriting`, `BlogIndex.GridRewriting`: the two replacements, told by places.

## Main results

* `BlogIndex.search?_featuredExpression_eq_some_iff`,
  `BlogIndex.search?_gridExpression_eq_some_iff`: the searches find the pieces of the page.
* `BlogIndex.spliceFeatured_eq_replaceFirst?`, `BlogIndex.spliceGrid_eq_replaceFirst?`: the
  replacements replace what the searches find.
* `BlogIndex.splice_eq_iff_exists_rewriting`: the page with an index in it, told by places.
-/

namespace SiteWeave

open Text Expression

/-! ### Closing sequences -/

namespace Text

variable {tag ending text : Text} {hit : Hit}

/-- A tag, blanks and a further text. -/
def closingExpression (tag ending : Text) : Expression :=
  [.literal tag, longest isBlank, .literal ending]

theorem closing?_eq_map_at? (hending : IsTag ending) (text : Text) :
    closing? tag ending text =
      (at? (closingExpression tag ending) text).map fun reading =>
        (reading.text, reading.behind) := by
  obtain ⟨inner, rfl, -⟩ := hending.exists_eq_cons
  rw [closing?, closingExpression, at?_literal]
  cases tag.isPrefixOf? text with
  | none => rfl
  | some rest =>
    have hblank : isBlank '<' = false := by decide
    rw [Option.bind_some, at?_longest_literal hblank, at?_literal]
    cases h : List.isPrefixOf? ('<' :: inner) (rest.dropWhile isBlank) with
    | none => simp [h]
    | some after => simp [h, at?, Reading.cons, Reading.text]

/-- The first closing sequence is what the search for one finds. -/
theorem splitClosing?_eq_map_search? (htag : IsTag tag) (hending : IsTag ending) (text : Text) :
    splitClosing? tag ending text =
      (search? (closingExpression tag ending) text).map fun hit =>
        (hit.front, hit.text, hit.behind) := by
  induction text with
  | nil =>
    obtain ⟨inner, rfl, -⟩ := htag.exists_eq_cons
    rfl
  | cons c text ih =>
    rw [splitClosing?, search?, closing?_eq_map_at? hending, ih]
    cases at? (closingExpression tag ending) (c :: text) with
    | none => cases search? (closingExpression tag ending) text <;> rfl
    | some reading => rfl

theorem exists_parts_eq_of_search? (h : search? (closingExpression tag ending) text = some hit) :
    ∃ blanks, (∀ c ∈ blanks, isBlank c = true) ∧ hit.parts = [tag, blanks, ending] := by
  have hreads := forall₂_of_search? h
  simp only [closingExpression, longest, List.forall₂_cons_left_iff, List.forall₂_nil_left_iff,
    Term.Reads] at hreads
  obtain ⟨_, _, rfl, ⟨blanks, _, hblanks, ⟨_, _, rfl, rfl, rfl⟩, rfl⟩, hparts⟩ := hreads
  exact ⟨blanks, hblanks, hparts⟩

theorem search?_closingExpression_eq_some_iff (htag : IsTag tag) (hending : IsTag ending) :
    search? (closingExpression tag ending) text = some hit ↔
      ∃ blanks, (∀ c ∈ blanks, isBlank c = true) ∧ hit.parts = [tag, blanks, ending] ∧
        splitClosing? tag ending text =
          some (hit.front, tag ++ blanks ++ ending, hit.behind) := by
  constructor
  · intro h
    obtain ⟨blanks, hblanks, hparts⟩ := exists_parts_eq_of_search? h
    refine ⟨blanks, hblanks, hparts, ?_⟩
    rw [splitClosing?_eq_map_search? htag hending, h]
    simp [Reading.text, hparts]
  · rintro ⟨blanks, -, hparts, hsplit⟩
    rw [splitClosing?_eq_map_search? htag hending] at hsplit
    obtain ⟨⟨⟨parts, behind⟩, front⟩, hhit, heq⟩ := Option.map_eq_some_iff.1 hsplit
    obtain ⟨others, -, hothers⟩ := exists_parts_eq_of_search? hhit
    obtain ⟨⟨_, _⟩, _⟩ := hit
    dsimp only at hparts hothers heq
    obtain ⟨rfl, htext, rfl⟩ := by simpa using heq
    obtain rfl : others = blanks := by simpa [Reading.text, hothers] using htext
    rw [hhit, hparts, hothers]

end Text

namespace BlogIndex

/-! ### The expressions -/

/-- The featured block: its comment and all up to the end of an article and of a division. -/
def featuredExpression : Expression :=
  [.literal featuredComment, anything, .literal articleClose, longest isBlank,
    .literal divisionClose]

/-- The grid: the start tag of its container, and all up to the end of a division in front of the
empty state. -/
def gridExpression : Expression :=
  [.literal gridOpen, longest (· != '>'), .literal ['>'], anything, .literal divisionClose,
    longest isBlank, .literal emptyStateComment]

/-- The page in pieces around its featured block, as the search finds it. -/
def Block.hit (block : Block) : Hit where
  front := block.front
  parts := [featuredComment, block.inside, articleClose, block.blanks, divisionClose]
  behind := block.behind

/-- The page in pieces around the interior of its grid, as the search finds it. -/
def Grid.hit (grid : Grid) : Hit where
  front := grid.front
  parts := [gridOpen, grid.attributes, ['>'], grid.inside, divisionClose, grid.blanks,
    emptyStateComment]
  behind := grid.behind

variable {content html cards next last : Text} {hit : Hit} {outcome : Outcome}

theorem search?_featuredExpression (content : Text) : search? featuredExpression content =
    (splitFirst? featuredComment content).bind fun (front, rest) =>
      (search? (closingExpression articleClose divisionClose) rest).map fun hit =>
        ⟨(hit.toReading.cons hit.front).cons featuredComment, front⟩ := by
  rw [featuredExpression, search?_literal isTag_featuredComment.ne_nil (skips_anything _)]
  simp only [at?_anything, Option.map_map]
  rfl

theorem search?_gridExpression (content : Text) : search? gridExpression content =
    (splitFirst? gridOpen content).bind fun (front, rest) =>
      (splitFirst? ['>'] rest).bind fun (attributes, rest) =>
        (search? (closingExpression divisionClose emptyStateComment) rest).map fun hit =>
          ⟨(((hit.toReading.cons hit.front).cons ['>']).cons attributes).cons gridOpen,
            front⟩ := by
  rw [gridExpression, search?_literal isTag_gridOpen.ne_nil ((skips_anything _).longest_ne '>')]
  simp only [at?_longest_ne, at?_anything, Option.map_map, Option.map_bind, Function.comp_def]
  rfl

/-- The search for the featured block finds the pieces of the page around it. -/
theorem search?_featuredExpression_eq_some_iff :
    search? featuredExpression content = some hit ↔
      ∃ block : Block, block.IsFirst ∧ block.text = content ∧ block.hit = hit := by
  rw [search?_featuredExpression]
  constructor
  · intro h
    obtain ⟨⟨front, rest⟩, hcomment, hrest⟩ := Option.bind_eq_some_iff.1 h
    obtain ⟨⟨⟨parts, behind⟩, inside⟩, hclosing, rfl⟩ := Option.map_eq_some_iff.1 hrest
    obtain ⟨blanks, hblanks, rfl, hsplit⟩ :=
      (search?_closingExpression_eq_some_iff isTag_articleClose isTag_divisionClose).1 hclosing
    let block : Block := ⟨front, inside, blanks, behind⟩
    obtain ⟨hfirst, htext⟩ : block.IsFirst ∧ block.text = content :=
      Block.isFirst_and_text_eq_iff.2 ⟨hblanks, rest, hcomment, hsplit⟩
    exact ⟨block, hfirst, htext, rfl⟩
  · rintro ⟨block, hblock, rfl, rfl⟩
    have hclosing : search? (closingExpression articleClose divisionClose)
        (block.inside ++ (block.ending ++ block.behind)) =
          some ⟨⟨[articleClose, block.blanks, divisionClose], block.behind⟩, block.inside⟩ :=
      (search?_closingExpression_eq_some_iff isTag_articleClose isTag_divisionClose).2
        ⟨block.blanks, hblock.isBlank, rfl, hblock.splitClosing?_ending⟩
    simp only [hblock.splitFirst?_text, Option.bind_some, hclosing]
    rfl

/-- The search for the grid finds the pieces of the page around its interior. -/
theorem search?_gridExpression_eq_some_iff :
    search? gridExpression content = some hit ↔
      ∃ grid : Grid, grid.IsFirst ∧ grid.text = content ∧ grid.hit = hit := by
  rw [search?_gridExpression]
  constructor
  · intro h
    obtain ⟨⟨front, opened⟩, hopen, hopened⟩ := Option.bind_eq_some_iff.1 h
    obtain ⟨⟨attributes, rest⟩, hgt, hrest⟩ := Option.bind_eq_some_iff.1 hopened
    obtain ⟨⟨⟨parts, behind⟩, inside⟩, hclosing, rfl⟩ := Option.map_eq_some_iff.1 hrest
    obtain ⟨blanks, hblanks, rfl, hsplit⟩ :=
      (search?_closingExpression_eq_some_iff isTag_divisionClose isTag_emptyStateComment).1 hclosing
    let grid : Grid := ⟨front, attributes, inside, blanks, behind⟩
    obtain ⟨hfirst, htext⟩ : grid.IsFirst ∧ grid.text = content :=
      Grid.isFirst_and_text_eq_iff.2 ⟨hblanks, opened, rest, hopen, hgt, hsplit⟩
    exact ⟨grid, hfirst, htext, rfl⟩
  · rintro ⟨grid, hgrid, rfl, rfl⟩
    have hclosing : search? (closingExpression divisionClose emptyStateComment)
        (grid.inside ++ (grid.closing ++ grid.behind)) =
          some ⟨⟨[divisionClose, grid.blanks, emptyStateComment], grid.behind⟩, grid.inside⟩ :=
      (search?_closingExpression_eq_some_iff isTag_divisionClose isTag_emptyStateComment).2
        ⟨grid.blanks, hgrid.isBlank, rfl, hgrid.splitClosing?_closing⟩
    simp only [Grid.text, Grid.splitFirst?_startTag_append hgrid.gridOpen_not_isInfix,
      Grid.splitFirst?_gt_append hgrid.gt_notMem, Option.bind_some, hclosing]
    rfl

/-! ### Replacing what is found -/

/-- The interior of the grid with cards, between the start tag and the closing sequence that the
search has found. -/
def fillParts (cards : Text) (parts : List Text) : Text :=
  (parts.take 3).flatten ++ '\n' :: cards ++ "\n      ".toList ++ (parts.drop 4).flatten

/-- The page with the new markup in the places that the searches find. -/
def spliceHits (index : BlogIndex) (content : Text) : Text × SpliceReport :=
  let (content, featured) := outcomeOf content
    (replaceFirst? featuredExpression (fun _ => index.featuredHtml.toList) content)
  let (content, grid) := outcomeOf content
    (replaceFirst? gridExpression (fillParts index.cardsHtml.toList) content)
  (content, ⟨featured, grid⟩)

theorem spliceFeatured_eq_replaceFirst? (html content : Text) :
    spliceFeatured html content = replaceFirst? featuredExpression (fun _ => html) content := by
  cases h : search? featuredExpression content with
  | some hit =>
    obtain ⟨block, hblock, rfl, rfl⟩ := search?_featuredExpression_eq_some_iff.1 h
    rw [Block.spliceFeatured_text hblock, replaceFirst?, h]
    simp [Block.hit]
  | none =>
    rw [replaceFirst?, h, Option.map_none, Option.eq_none_iff_forall_ne_some]
    intro replaced hreplaced
    obtain ⟨block, hblock, htext⟩ := exists_block_of_spliceFeatured hreplaced
    have hhit := search?_featuredExpression_eq_some_iff.2 ⟨block, hblock, htext, rfl⟩
    simp [h] at hhit

theorem spliceGrid_eq_replaceFirst? (cards content : Text) :
    spliceGrid cards content = replaceFirst? gridExpression (fillParts cards) content := by
  cases h : search? gridExpression content with
  | some hit =>
    obtain ⟨grid, hgrid, rfl, rfl⟩ := search?_gridExpression_eq_some_iff.1 h
    rw [Grid.spliceGrid_text hgrid, replaceFirst?, h]
    simp [Grid.hit, fillParts, Grid.text, Grid.fill, Grid.startTag, Grid.closing]
  | none =>
    rw [replaceFirst?, h, Option.map_none, Option.eq_none_iff_forall_ne_some]
    intro replaced hreplaced
    obtain ⟨grid, hgrid, htext, -⟩ := exists_grid_of_spliceGrid hreplaced
    have hhit := search?_gridExpression_eq_some_iff.2 ⟨grid, hgrid, htext, rfl⟩
    simp [h] at hhit

theorem splice_eq_spliceHits (index : BlogIndex) (content : Text) :
    index.splice content = index.spliceHits content := by
  simp only [splice, spliceHits, spliceFeatured_eq_replaceFirst?, spliceGrid_eq_replaceFirst?]

/-! ### The replacements told by places -/

/-- A start tag of the grid with a closing sequence behind it occurs in the text. -/
def HasGrid (text : Text) : Prop :=
  ∃ front attributes back, text = front ++ gridOpen ++ attributes ++ '>' :: back ∧
    HasClosing divisionClose emptyStateComment back

/-- A replacement that is applied exactly where its markup is there, and then has the result; where
it is not applied, nothing changes. -/
structure Replaces (isThere : Prop) (result : Text → Prop) (content : Text) (outcome : Outcome)
    (next : Text) : Prop where
  applied_iff : outcome = .applied ↔ isThere
  of_applied : outcome = .applied → result next
  of_ne_applied : outcome ≠ .applied → outcome = .skipped .markersAbsent ∧ next = content

/-- The replacement of the featured block: if a featured comment has the end of a block somewhere
behind it, the markup takes the place of all from the first comment to the nearest end behind it. -/
def FeaturedRewriting (html content : Text) : Outcome → Text → Prop :=
  Replaces (HasFeatured content)
    (fun next => ∃ block : Block, block.IsFirst ∧ block.text = content ∧
      next = block.front ++ (html ++ block.behind)) content

/-- The replacement of the interior of the grid: if a start tag has a closing sequence somewhere
behind it, the cards take the place of all from the end of the first tag to the nearest sequence
behind it. -/
def GridRewriting (cards content : Text) : Outcome → Text → Prop :=
  Replaces (HasGrid content)
    (fun next => ∃ grid : Grid, grid.IsFirst ∧ grid.text = content ∧
      next = (grid.fill cards).text) content

theorem replaces_iff {isThere : Prop} {result : Text → Prop} {replaced : Option Text}
    (hthere : replaced.isSome = true ↔ isThere)
    (hresult : ∀ next, replaced = some next ↔ result next) :
    Replaces isThere result content outcome next ↔
      outcomeOf content replaced = (next, outcome) := by
  cases replaced with
  | none =>
    have hnot : ¬ isThere := fun h => absurd (hthere.2 h) (by simp)
    constructor
    · intro h
      obtain ⟨rfl, rfl⟩ := h.of_ne_applied (mt h.applied_iff.1 hnot)
      rfl
    · intro heq
      obtain ⟨rfl, rfl⟩ := Prod.mk.inj heq
      exact ⟨by simp [hnot], by simp, fun _ => ⟨rfl, rfl⟩⟩
  | some replaced =>
    have hhas : isThere := hthere.1 rfl
    constructor
    · intro h
      obtain rfl := h.applied_iff.2 hhas
      obtain rfl := Option.some.inj ((hresult next).2 (h.of_applied rfl))
      rfl
    · intro heq
      obtain ⟨rfl, rfl⟩ := Prod.mk.inj heq
      exact ⟨by simp [hhas], fun _ => (hresult _).1 rfl, by simp⟩

theorem isSome_spliceFeatured_iff (html content : Text) :
    (spliceFeatured html content).isSome = true ↔ HasFeatured content := by
  constructor
  · intro h
    obtain ⟨replaced, hreplaced⟩ := Option.isSome_iff_exists.1 h
    obtain ⟨block, hblock, rfl⟩ := exists_block_of_spliceFeatured hreplaced
    refine ⟨block.front, block.inside ++ (block.ending ++ block.behind), ?_,
      block.inside, block.ending, block.behind, Block.isClosing_ending hblock, by simp⟩
    simp [Block.text, Block.markup]
  · rintro ⟨front, back, htext, hend⟩
    cases hsplit : splitFirst? featuredComment content with
    | none => exact absurd ⟨front, back, htext.symm⟩ (splitFirst?_eq_none_iff.1 hsplit)
    | some cut =>
      obtain ⟨before, rest⟩ := cut
      have hrest : HasBlockEnd rest := (Grid.hasFeatured_iff hsplit).1 ⟨front, back, htext, hend⟩
      obtain ⟨inside, sequence, after, hclosing⟩ := exists_splitClosing?_of_hasBlockEnd hrest
      rw [spliceFeatured_of_splitFirst? hsplit, hclosing]
      rfl

theorem isSome_spliceGrid_iff (cards content : Text) :
    (spliceGrid cards content).isSome = true ↔ HasGrid content := by
  constructor
  · intro h
    obtain ⟨replaced, hreplaced⟩ := Option.isSome_iff_exists.1 h
    obtain ⟨grid, hgrid, rfl, -⟩ := exists_grid_of_spliceGrid hreplaced
    refine ⟨grid.front, grid.attributes, grid.inside ++ (grid.closing ++ grid.behind), ?_,
      grid.inside, grid.closing, grid.behind, Grid.isClosing_closing hgrid, by simp⟩
    simp [Grid.text, Grid.startTag]
  · rintro ⟨front, attributes, back, htext, hback⟩
    have hopens : content = front ++ gridOpen ++ (attributes ++ '>' :: back) := by simp [htext]
    cases hopen : splitFirst? gridOpen content with
    | none => exact absurd ⟨front, _, hopens.symm⟩ (splitFirst?_eq_none_iff.1 hopen)
    | some cut =>
      obtain ⟨before, opened⟩ := cut
      obtain ⟨more, hopened⟩ := isSuffix_of_splitFirst? hopen hopens
      have hends : opened = more ++ attributes ++ ['>'] ++ back := by simp [← hopened]
      cases hgt : splitFirst? ['>'] opened with
      | none => exact absurd ⟨_, back, hends.symm⟩ (splitFirst?_eq_none_iff.1 hgt)
      | some cut =>
        obtain ⟨inner, rest⟩ := cut
        obtain ⟨inside, rfl⟩ := isSuffix_of_splitFirst? hgt hends
        have hnone := mt (splitClosing?_eq_none_iff isTag_divisionClose
          isTag_emptyStateComment).1 (not_not_intro (hback.append_left inside))
        obtain ⟨closing, hclosing⟩ := Option.ne_none_iff_exists'.1 hnone
        simp [spliceGrid, hopen, hgt, hclosing]

theorem spliceFeatured_eq_some_iff : spliceFeatured html content = some next ↔
    ∃ block : Block, block.IsFirst ∧ block.text = content ∧
      next = block.front ++ (html ++ block.behind) := by
  constructor
  · intro h
    obtain ⟨block, hblock, rfl⟩ := exists_block_of_spliceFeatured h
    rw [Block.spliceFeatured_text hblock, Option.some.injEq] at h
    exact ⟨block, hblock, rfl, h.symm⟩
  · rintro ⟨block, hblock, rfl, rfl⟩
    exact Block.spliceFeatured_text hblock html

theorem spliceGrid_eq_some_iff : spliceGrid cards content = some next ↔
    ∃ grid : Grid, grid.IsFirst ∧ grid.text = content ∧ next = (grid.fill cards).text := by
  constructor
  · intro h
    obtain ⟨grid, hgrid, htext, hnext⟩ := exists_grid_of_spliceGrid h
    exact ⟨grid, hgrid, htext, hnext.symm⟩
  · rintro ⟨grid, hgrid, rfl, rfl⟩
    exact Grid.spliceGrid_text hgrid cards

theorem featuredRewriting_iff : FeaturedRewriting html content outcome next ↔
    outcomeOf content (spliceFeatured html content) = (next, outcome) :=
  replaces_iff (isSome_spliceFeatured_iff html content) fun _ => spliceFeatured_eq_some_iff

theorem gridRewriting_iff : GridRewriting cards content outcome next ↔
    outcomeOf content (spliceGrid cards content) = (next, outcome) :=
  replaces_iff (isSome_spliceGrid_iff cards content) fun _ => spliceGrid_eq_some_iff

/-- **The index in its page, told by places.** With an index, the page is the one with the new
markup in the two places that the searches find, for all texts and any markup. The featured block is
replaced exactly if a featured comment has the end of a block behind it, and then from the first
such comment to the nearest end behind it. In the page with it, the interior of the grid is replaced
exactly if a start tag of the grid has a closing sequence behind it, and then from the end of the
first such tag to the nearest closing sequence. All else stays. -/
theorem splice_eq_iff_exists_rewriting (index : BlogIndex) (content : Text) :
    index.splice content = index.spliceHits content ∧
      ∀ last report, index.splice content = (last, report) ↔
        ∃ between, FeaturedRewriting index.featuredHtml.toList content report.featured between ∧
          GridRewriting index.cardsHtml.toList between report.grid last := by
  refine ⟨splice_eq_spliceHits index content, fun last report => ?_⟩
  simp only [featuredRewriting_iff, gridRewriting_iff]
  constructor
  · intro h
    obtain ⟨rfl, rfl⟩ := Prod.mk.inj h
    exact ⟨_, rfl, rfl⟩
  · rintro ⟨between, hfeatured, hgrid⟩
    simp only [splice, hfeatured, hgrid]

end BlogIndex

end SiteWeave
