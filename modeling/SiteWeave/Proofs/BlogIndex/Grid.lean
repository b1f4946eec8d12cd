import SiteWeave.Proofs.BlogIndex.Markup

/-!
# What the replacements find

The replacement of the featured block acts behind the first featured comment alone. The replacement
of the grid is described by the pieces that the page falls into around the interior of the grid.

## Main definitions

* `BlogIndex.withFeatured`, `BlogIndex.withGrid`: the page after the one and the other replacement.
* `BlogIndex.HasBlockEnd`: the end of a featured block occurs in a text.
* `BlogIndex.HasWholeBlock`: a featured block with its own end as the first one.
* `BlogIndex.Grid`, `BlogIndex.Grid.IsFirst`: the pieces of the page around the interior of the
  grid.

## Main results

* `BlogIndex.withFeatured_append`, `BlogIndex.withFeatured_featuredComment_append`: what the
  replacement of the featured block does.
* `BlogIndex.IsPlain.withFeatured_eq_self_iff`: when it changes nothing.
* `BlogIndex.Grid.spliceGrid_text`, `BlogIndex.exists_grid_of_spliceGrid`: what the replacement of
  the grid does.
-/

namespace SiteWeave

open Text

namespace BlogIndex

variable {html cards content left right before rest : Text} {index : BlogIndex}

/-! ### The featured block -/

/-- The page after the replacement of the featured block. -/
def withFeatured (html content : Text) : Text :=
  (spliceFeatured html content).getD content

/-- The page after the replacement of the interior of the grid. -/
def withGrid (cards content : Text) : Text :=
  (spliceGrid cards content).getD content

/-- The end of a featured block occurs in the text. -/
def HasBlockEnd (text : Text) : Prop :=
  HasClosing articleClose divisionClose text

theorem outcomeOf_fst (content : Text) (replaced : Option Text) :
    (outcomeOf content replaced).1 = replaced.getD content := by
  cases replaced <;> rfl

theorem outcomeOf_snd_eq_applied_iff (content : Text) (replaced : Option Text) :
    (outcomeOf content replaced).2 = .applied ↔ replaced.isSome = true := by
  cases replaced <;> simp [outcomeOf]

theorem splice_fst (index : BlogIndex) (content : Text) : (index.splice content).1 =
    withGrid index.cardsHtml.toList (withFeatured index.featuredHtml.toList content) := by
  rw [splice, withGrid, withFeatured, ← outcomeOf_fst, ← outcomeOf_fst]

theorem splice_snd_grid (index : BlogIndex) (content : Text) :
    (index.splice content).2.grid = .applied ↔ (spliceGrid index.cardsHtml.toList
      (withFeatured index.featuredHtml.toList content)).isSome = true := by
  rw [← outcomeOf_snd_eq_applied_iff (withFeatured index.featuredHtml.toList content), withFeatured,
    ← outcomeOf_fst]
  rfl

theorem withFeatured_of_not_isInfix (h : ¬ featuredComment <:+: content) :
    withFeatured html content = content := by
  rw [withFeatured, spliceFeatured, splitFirst?_eq_none_iff.2 h]
  rfl

theorem spliceFeatured_of_splitFirst?
    (h : splitFirst? featuredComment content = some (before, rest)) :
    spliceFeatured html content = (splitClosing? articleClose divisionClose rest).map
      fun (_, _, after) => before ++ html ++ after := by
  simp only [spliceFeatured, h, Option.bind_eq_bind, Option.bind_some]
  cases splitClosing? articleClose divisionClose rest <;> rfl

/-- The replacement acts behind the first featured comment. -/
theorem withFeatured_of_splitFirst?
    (h : splitFirst? featuredComment content = some (before, rest)) :
    withFeatured html content = before ++ withFeatured html (featuredComment ++ rest) := by
  have hcontent := eq_append_of_splitFirst? h
  rw [withFeatured, withFeatured, spliceFeatured_of_splitFirst? h,
    spliceFeatured_of_splitFirst? (splitFirst?_self_append _ _)]
  cases splitClosing? articleClose divisionClose rest <;> simp [hcontent]

theorem withFeatured_append (hnot : ¬ featuredComment <:+: left)
    (hseam : IsSeam featuredComment left right) :
    withFeatured html (left ++ right) = left ++ withFeatured html right := by
  cases h : splitFirst? featuredComment right with
  | none =>
    rw [splitFirst?_eq_none_iff] at h
    rw [withFeatured_of_not_isInfix h, withFeatured_of_not_isInfix]
    rw [hseam.infix_append_iff]
    exact not_or.2 ⟨hnot, h⟩
  | some cut =>
    obtain ⟨before, rest⟩ := cut
    have happend := splitFirst?_append hnot hseam
    rw [h, Option.map_some] at happend
    rw [withFeatured_of_splitFirst? happend, withFeatured_of_splitFirst? h, List.append_assoc]

theorem withFeatured_featuredComment_append (html rest : Text) :
    withFeatured html (featuredComment ++ rest) =
      match splitClosing? articleClose divisionClose rest with
      | none => featuredComment ++ rest
      | some (_, _, after) => html ++ after := by
  rw [withFeatured, spliceFeatured_of_splitFirst? (splitFirst?_self_append _ _)]
  cases splitClosing? articleClose divisionClose rest <;> rfl

theorem splitClosing?_eq_none_of_not_hasBlockEnd (h : ¬ HasBlockEnd rest) :
    splitClosing? articleClose divisionClose rest = none :=
  (splitClosing?_eq_none_iff isTag_articleClose isTag_divisionClose).2 h

theorem exists_splitClosing?_of_hasBlockEnd (h : HasBlockEnd rest) : ∃ before sequence after,
    splitClosing? articleClose divisionClose rest = some (before, sequence, after) := by
  cases hsplit : splitClosing? articleClose divisionClose rest with
  | none =>
    exact absurd h ((splitClosing?_eq_none_iff isTag_articleClose isTag_divisionClose).1 hsplit)
  | some cut => exact ⟨cut.1, cut.2.1, cut.2.2, rfl⟩

/-- The featured block is found whole: the first end of a block behind its comment is its own. -/
def HasWholeBlock (index : BlogIndex) : Prop :=
  ∃ body, index.featuredHtml.toList = featuredComment ++ body ++ blockEnd ∧
    splitClosing? articleClose divisionClose (body ++ blockEnd) = some (body, blockEnd, [])

theorem HasWholeBlock.exists_eq_append (h : index.HasWholeBlock) :
    ∃ front, index.featuredHtml.toList = front ++ ['>'] := by
  obtain ⟨body, hhtml, -⟩ := h
  obtain ⟨last, hlast⟩ : ∃ last, blockEnd = last ++ ['>'] :=
    List.getLast?_eq_some_iff.1 (by decide +kernel)
  exact ⟨featuredComment ++ body ++ last, by simp [hhtml, hlast]⟩

namespace IsPlain

/-- The first end of a block in the featured block is its end. -/
theorem splitClosing?_eq (body after : Text) (h : IsUnmarked body) :
    splitClosing? articleClose divisionClose (body ++ (blockEnd ++ after)) =
      some (body, blockEnd, after) := by
  have hend : splitClosing? articleClose divisionClose (blockEnd ++ after) =
      some ([], blockEnd, after) :=
    (splitClosing?_eq_some_iff isTag_articleClose isTag_divisionClose).2
      ⟨isClosing_blockEnd, rfl, fun _ _ _ _ _ => Nat.zero_le _⟩
  simpa using splitClosing?_append_of_isClear isTag_articleClose isTag_divisionClose
    (h.isClear articleClose (by simp [landmarks])) hend

theorem hasWholeBlock (h : index.IsPlain) : index.HasWholeBlock := by
  obtain ⟨body, hhtml, hbody⟩ := h.exists_featured_eq
  exact ⟨body, hhtml, by simpa using splitClosing?_eq body [] hbody⟩

/-- Behind a featured comment, the replacement changes nothing if there is no end of a block, or if
the featured block stands there already. -/
theorem withFeatured_eq_self_iff (h : index.IsPlain) (rest : Text) :
    withFeatured index.featuredHtml.toList (featuredComment ++ rest) = featuredComment ++ rest ↔
      ¬ HasBlockEnd rest ∨ index.featuredHtml.toList <+: featuredComment ++ rest := by
  rw [withFeatured_featuredComment_append]
  constructor
  · intro heq
    by_cases hend : HasBlockEnd rest
    · obtain ⟨before, sequence, after, hsplit⟩ := exists_splitClosing?_of_hasBlockEnd hend
      rw [hsplit] at heq
      exact Or.inr ⟨after, heq⟩
    · exact Or.inl hend
  · rintro (hend | ⟨after, hafter⟩)
    · rw [splitClosing?_eq_none_of_not_hasBlockEnd hend]
    · obtain ⟨body, hhtml, hbody⟩ := h.exists_featured_eq
      obtain rfl : body ++ (blockEnd ++ after) = rest := by
        rw [hhtml, List.append_assoc, List.append_assoc, List.append_cancel_left_eq] at hafter
        exact hafter
      rw [splitClosing?_eq body after hbody]
      exact hafter

theorem hasBlockEnd_of_isPrefix (h : index.IsPlain)
    (hstarts : index.featuredHtml.toList <+: featuredComment ++ rest) : HasBlockEnd rest := by
  obtain ⟨body, hhtml, -⟩ := h.exists_featured_eq
  obtain ⟨after, hafter⟩ := hstarts
  rw [hhtml, List.append_assoc, List.append_assoc, List.append_cancel_left_eq] at hafter
  exact hafter ▸ ⟨body, blockEnd, after, isClosing_blockEnd, by simp⟩

end IsPlain

/-! ### The grid -/

/-- A page in pieces around the interior of its grid. -/
structure Grid where
  /-- The text in front of the container of the cards. -/
  front : Text
  /-- The text of the start tag behind the attribute that identifies the container. -/
  attributes : Text
  /-- The text between the start tag and the end tag of the container. -/
  inside : Text
  /-- The blanks between the end tag and the comment behind the container. -/
  blanks : Text
  /-- The text behind the start of that comment. -/
  behind : Text

namespace Grid

/-- The start tag of the container. -/
def startTag (grid : Grid) : Text :=
  gridOpen ++ grid.attributes ++ ['>']

/-- The end tag of the container and the start of the comment behind it. -/
def closing (grid : Grid) : Text :=
  divisionClose ++ grid.blanks ++ emptyStateComment

/-- The page. -/
def text (grid : Grid) : Text :=
  grid.front ++ (grid.startTag ++ (grid.inside ++ (grid.closing ++ grid.behind)))

/-- The page with cards in the grid. -/
def fill (cards : Text) (grid : Grid) : Grid :=
  { grid with inside := '\n' :: cards ++ "\n      ".toList }

/-- The pieces are those that the replacement finds: everything is its first occurrence. -/
structure IsFirst (grid : Grid) : Prop where
  gridOpen_not_isInfix : ¬ gridOpen <:+: grid.front
  gt_notMem : '>' ∉ grid.attributes
  isBlank : ∀ c ∈ grid.blanks, SiteWeave.isBlank c = true
  length_le : ∀ front found back, IsClosing divisionClose emptyStateComment found →
    grid.inside ++ (grid.closing ++ grid.behind) = front ++ found ++ back →
      grid.inside.length ≤ front.length

variable {grid : Grid}

theorem isClosing_closing (h : grid.IsFirst) :
    IsClosing divisionClose emptyStateComment grid.closing :=
  ⟨grid.blanks, h.isBlank, rfl⟩

theorem splitFirst?_gt_append (h : '>' ∉ left) (right : Text) :
    splitFirst? ['>'] (left ++ '>' :: right) = some (left, right) := by
  have hnot : ¬ ['>'] <:+: left := fun hoccurs => h (hoccurs.subset List.mem_cons_self)
  have hseam : IsSeam ['>'] left ('>' :: right) := by
    rintro (_ | ⟨c, head⟩) tail hhead htail heq
    · exact absurd rfl hhead
    · exact absurd (by simpa using (List.cons.inj heq).2 : head = [] ∧ tail = []).2 htail
  have hfirst : splitFirst? ['>'] ('>' :: right) = some ([], right) :=
    splitFirst?_self_append ['>'] right
  simp [splitFirst?_append hnot hseam, hfirst]

theorem splitFirst?_startTag_append (hfront : ¬ gridOpen <:+: grid.front) (rest : Text) :
    splitFirst? gridOpen (grid.front ++ (grid.startTag ++ rest)) =
      some (grid.front, grid.attributes ++ '>' :: rest) := by
  rw [startTag, List.append_assoc, List.append_assoc, splitFirst?_append hfront
    (isTag_gridOpen.isSeam isTag_gridOpen.toIsToken _ _), splitFirst?_self_append]
  simp

/-- Behind the first start tag, the replacement acts in front of the first closing sequence. -/
theorem spliceGrid_startTag_append (hfront : ¬ gridOpen <:+: grid.front)
    (hattributes : '>' ∉ grid.attributes) (cards rest : Text) :
    spliceGrid cards (grid.front ++ (grid.startTag ++ rest)) =
      (splitClosing? divisionClose emptyStateComment rest).map fun (_, sequence, after) =>
        grid.front ++ (grid.startTag ++ ((grid.fill cards).inside ++ (sequence ++ after))) := by
  simp only [spliceGrid, Option.bind_eq_bind, splitFirst?_startTag_append hfront, Option.bind_some,
    splitFirst?_gt_append hattributes]
  cases splitClosing? divisionClose emptyStateComment rest with
  | none => rfl
  | some cut => simp [fill, startTag]

theorem IsFirst.splitClosing?_closing (h : grid.IsFirst) :
    splitClosing? divisionClose emptyStateComment
      (grid.inside ++ (grid.closing ++ grid.behind)) =
        some (grid.inside, grid.closing, grid.behind) :=
  (splitClosing?_eq_some_iff isTag_divisionClose isTag_emptyStateComment).2
    ⟨isClosing_closing h, by simp, h.length_le⟩

/-- The pieces of a page are found by cutting it three times. -/
theorem isFirst_and_text_eq_iff : grid.IsFirst ∧ grid.text = content ↔
    (∀ c ∈ grid.blanks, SiteWeave.isBlank c = true) ∧ ∃ opened rest,
      splitFirst? gridOpen content = some (grid.front, opened) ∧
        splitFirst? ['>'] opened = some (grid.attributes, rest) ∧
          splitClosing? divisionClose emptyStateComment rest =
            some (grid.inside, grid.closing, grid.behind) := by
  constructor
  · rintro ⟨h, rfl⟩
    exact ⟨h.isBlank, _, _, splitFirst?_startTag_append h.gridOpen_not_isInfix _,
      splitFirst?_gt_append h.gt_notMem _, h.splitClosing?_closing⟩
  · rintro ⟨hblanks, opened, rest, hopen, hgt, hclosing⟩
    obtain ⟨-, hrest, hle⟩ :=
      (splitClosing?_eq_some_iff isTag_divisionClose isTag_emptyStateComment).1 hclosing
    refine ⟨⟨not_infix_of_splitFirst? isTag_gridOpen.ne_nil hopen, fun hmem => ?_, hblanks,
      fun a found b hfound heq => hle a found b hfound ?_⟩, ?_⟩
    · exact not_infix_of_splitFirst? (by simp) hgt ((List.singleton_infix_iff _ _).2 hmem)
    · rw [← heq, hrest, List.append_assoc]
    · simp [text, startTag, eq_append_of_splitFirst? hopen, eq_append_of_splitFirst? hgt, hrest]

/-- The replacement fills the grid. -/
theorem spliceGrid_text (h : grid.IsFirst) (cards : Text) :
    spliceGrid cards grid.text = some (grid.fill cards).text := by
  rw [text, spliceGrid_startTag_append h.gridOpen_not_isInfix h.gt_notMem, h.splitClosing?_closing]
  rfl

theorem withGrid_text (h : grid.IsFirst) (cards : Text) :
    withGrid cards grid.text = (grid.fill cards).text := by
  rw [withGrid, spliceGrid_text h]
  rfl

/-- An interior without a closing sequence puts none in front of the one that is there, whatever
stands behind it. -/
theorem IsFirst.replace (h : grid.IsFirst) {inside : Text}
    (hinside : ¬ HasClosing divisionClose emptyStateComment inside) (behind : Text) :
    ({ grid with inside := inside, behind := behind } : Grid).IsFirst := by
  refine ⟨h.gridOpen_not_isInfix, h.gt_notMem, h.isBlank, fun front found back hfound heq => ?_⟩
  obtain ⟨blanks, hblanks, rfl⟩ := hfound
  simp only [closing] at heq
  have htags : inside ++ (divisionClose ++ (grid.blanks ++ emptyStateComment ++ behind)) =
      front ++ divisionClose ++ (blanks ++ (emptyStateComment ++ back)) := by simpa using heq
  rcases (isTag_divisionClose.isSeam isTag_divisionClose.toIsToken inside _).eq_or_eq htags with
    ⟨rest, hleft, hrest⟩ | ⟨rest, -, rfl⟩
  · -- What follows the tag inside must be blanks and the comment, and here it is another tag.
    rw [← List.append_assoc blanks] at hrest
    rcases (isTag_divisionClose.isSeam isTag_emptyStateComment.toIsToken rest _).eq_or_eq
      hrest.symm with ⟨tail, hinner, -⟩ | ⟨tail, hbehind, hblank⟩
    · refine absurd ⟨front, divisionClose ++ blanks ++ emptyStateComment, tail,
        ⟨blanks, hblanks, rfl⟩, ?_⟩ hinside
      rw [hleft, hinner]
      simp
    · have htail : '<' ∉ tail := fun hmem =>
        lt_notMem_of_isBlank hblanks (hblank ▸ List.mem_append_right _ hmem)
      cases tail with
      | nil =>
        have hcomment : emptyStateComment <+: divisionClose ++ _ :=
          ⟨back, hbehind.symm⟩
        rcases List.prefix_or_prefix_of_prefix hcomment (List.prefix_append _ _) with hle | hle
        · exact absurd hle (by decide)
        · exact absurd hle (by decide)
      | cons c tail =>
        obtain ⟨rfl, -⟩ := List.cons.inj (hbehind : '<' :: _ = c :: _)
        exact absurd List.mem_cons_self htail
  · simp

/-- The line breaks around the cards begin no tag. -/
theorem isClear_inside_fill {tag : Text} (hcards : IsClear tag cards) :
    IsClear tag (grid.fill cards).inside :=
  ((isClear_of_notMem (by simp : '<' ∉ ['\n'])).append hcards).append
    (isClear_of_notMem (by decide))

/-- Only the two tags of the closing sequence begin in it. -/
theorem IsFirst.isClear_closing {tag : Text} (h : grid.IsFirst)
    (hdivision : IsClear tag divisionClose) (hcomment : IsClear tag emptyStateComment) :
    IsClear tag grid.closing :=
  (hdivision.append (isClear_of_notMem (lt_notMem_of_isBlank h.isBlank))).append hcomment

/-- The line breaks around the cards bring no closing sequence. -/
theorem hasClosing_inside_fill_iff :
    HasClosing divisionClose emptyStateComment (grid.fill cards).inside ↔
      HasClosing divisionClose emptyStateComment cards := by
  have hbreak : IsClear divisionClose ['\n'] := isClear_of_notMem (by simp)
  have hinside : (grid.fill cards).inside = ['\n'] ++ (cards ++ '\n' :: "      ".toList) := by
    simp [fill]
  rw [hinside, hasClosing_append_iff_of_isClear isTag_divisionClose hbreak,
    hasClosing_append_lineEnd_iff isTag_emptyStateComment (by decide)]

/-- Filled with cards, the pieces are found again, whatever stands behind them. -/
theorem isFirst_fill (h : grid.IsFirst)
    (hcards : ¬ HasClosing divisionClose emptyStateComment cards) (behind : Text) :
    (({ grid with behind := behind } : Grid).fill cards).IsFirst := by
  have hinside : ¬ HasClosing divisionClose emptyStateComment (grid.fill cards).inside :=
    mt hasClosing_inside_fill_iff.1 hcards
  exact h.replace hinside behind

theorem text_fill (grid : Grid) (cards : Text) : (grid.fill cards).text = grid.front ++
    (grid.startTag ++ ((grid.fill cards).inside ++ grid.closing ++ grid.behind)) := by
  simp [fill, text, startTag, closing]

@[simp] theorem fill_fill (cards old : Text) : (grid.fill old).fill cards = grid.fill cards := rfl

end Grid

/-- Where the grid is replaced, it is filled. -/
theorem exists_grid_of_spliceGrid {replaced : Text}
    (h : spliceGrid cards content = some replaced) :
    ∃ grid : Grid, grid.IsFirst ∧ grid.text = content ∧ (grid.fill cards).text = replaced := by
  have hcuts := h
  simp only [spliceGrid, Option.bind_eq_bind, Option.bind_eq_some_iff] at hcuts
  obtain ⟨⟨front, opened⟩, hopen, ⟨attributes, rest⟩, hgt, ⟨inside, sequence, behind⟩, hclosing,
    -⟩ := hcuts
  dsimp only at hgt hclosing
  obtain ⟨⟨blanks, hblanks, rfl⟩, -⟩ :=
    isClosing_and_eq_of_splitClosing? isTag_emptyStateComment hclosing
  let grid : Grid := ⟨front, attributes, inside, blanks, behind⟩
  obtain ⟨hfirst, rfl⟩ : grid.IsFirst ∧ grid.text = content :=
    Grid.isFirst_and_text_eq_iff.2 ⟨hblanks, opened, rest, hopen, hgt, hclosing⟩
  rw [Grid.spliceGrid_text hfirst] at h
  exact ⟨grid, hfirst, rfl, Option.some.inj h⟩

/-- In front of a grid, the replacement of the grid changes nothing. -/
theorem withGrid_append (hnot : ¬ gridOpen <:+: left) (hseam : IsSeam gridOpen left right) :
    withGrid cards (left ++ right) = left ++ withGrid cards right := by
  simp only [withGrid, spliceGrid, Option.bind_eq_bind, splitFirst?_append hnot hseam]
  cases splitFirst? gridOpen right with
  | none => rfl
  | some cut =>
    obtain ⟨before, rest⟩ := cut
    simp only [Option.map_some, Option.bind_some]
    cases splitFirst? ['>'] rest with
    | none => rfl
    | some cut =>
      obtain ⟨attributes, rest⟩ := cut
      simp only [Option.bind_some]
      cases splitClosing? divisionClose emptyStateComment rest with
      | none => rfl
      | some cut => simp

end BlogIndex

end SiteWeave
