import SiteWeave.Proofs.PageContext.SizeToken
import SiteWeave.Proofs.Text.Tag

/-!
# The generated markup

Where no field of a post holds an opening bracket, the tags in the generated markup are those of its
fixed parts. So the cards hold none of the texts that the index page is searched for, but for the
end of an article at their end; and the featured block is one occurrence of what is searched for as
a featured block, with no such occurrence inside.

## Main definitions

* `BlogIndex.landmarks`, `BlogIndex.IsUnmarked`: texts clear of what the index page is searched for.
* `Post.IsPlain`: a post without opening brackets in its texts.
* `BlogIndex.IsPlain`: markup that the index page is not taken apart by.

## Main results

* `Post.exists_card_eq`, `Post.exists_featuredBlock_eq`: the shape of the markup of a post.
* `BlogIndex.isPlain_of_generate`: the markup of plain posts is plain.
-/

namespace SiteWeave

open Text

/-! ### Tags of the index page -/

namespace BlogIndex

theorem isTag_featuredComment : IsTag featuredComment :=
  ⟨⟨by decide, by decide, by decide, by decide, by decide, by decide⟩, by decide⟩

theorem isTag_gridOpen : IsTag gridOpen :=
  ⟨⟨by decide, by decide, by decide, by decide, by decide, by decide⟩, by decide⟩

theorem isTag_emptyStateComment : IsTag emptyStateComment :=
  ⟨⟨by decide, by decide, by decide, by decide, by decide, by decide⟩, by decide⟩

theorem isTag_articleClose : IsTag articleClose :=
  ⟨⟨by decide, by decide, by decide, by decide, by decide, by decide⟩, by decide⟩

theorem isTag_divisionClose : IsTag divisionClose :=
  ⟨⟨by decide, by decide, by decide, by decide, by decide, by decide⟩, by decide⟩

/-- What the index page is searched for, but for the ends of divisions: the tags and comments around
the featured block and the grid, and those that fragments are woven in at. -/
def landmarks : List Text :=
  [featuredComment, gridOpen, emptyStateComment, articleClose, footerClose, bodyClose,
    RegionKind.nav.beginMarker, RegionKind.nav.endMarker, RegionKind.cookieConsent.beginMarker,
    RegionKind.cookieConsent.endMarker, RegionKind.sharedScripts.beginMarker,
    RegionKind.sharedScripts.endMarker]

/-- The text is clear of all landmarks. -/
structure IsUnmarked (text : Text) : Prop where
  isClear : ∀ tag ∈ landmarks, IsClear tag text

instance (text : Text) : Decidable (IsUnmarked text) :=
  decidable_of_iff (∀ tag ∈ landmarks, IsClear tag text) ⟨IsUnmarked.mk, IsUnmarked.isClear⟩

variable {text front back : Text}

theorem isUnmarked_of_notMem (h : '<' ∉ text) : IsUnmarked text :=
  ⟨fun _ _ => isClear_of_notMem h⟩

/-- A string literal is compared with the landmarks character by character. With the lists of
characters as arguments, which are found by unification, no literal has to be decoded. -/
theorem isUnmarked_literal {a b c d e f g h i j k l : Text}
    (hlandmarks : landmarks = [(String.ofList a).toList, (String.ofList b).toList,
      (String.ofList c).toList, (String.ofList d).toList, (String.ofList e).toList,
      (String.ofList f).toList, (String.ofList g).toList, (String.ofList h).toList,
      (String.ofList i).toList, (String.ofList j).toList, (String.ofList k).toList,
      (String.ofList l).toList])
    (hclear : ∀ tag ∈ [a, b, c, d, e, f, g, h, i, j, k, l], IsClear tag text) :
    IsUnmarked (String.ofList text).toList := by
  simp only [String.toList_ofList] at hlandmarks ⊢
  exact ⟨hlandmarks ▸ hclear⟩

namespace IsUnmarked

theorem append (hfront : IsUnmarked front) (hback : IsUnmarked back) :
    IsUnmarked (front ++ back) :=
  ⟨fun tag htag => (hfront.isClear tag htag).append (hback.isClear tag htag)⟩

theorem concat {a b : String} (ha : IsUnmarked a.toList) (hb : IsUnmarked b.toList) :
    IsUnmarked (a ++ b).toList := by
  rw [String.toList_append]
  exact ha.append hb

end IsUnmarked

/-! ### Lines -/

/-- The lines with a line end behind each of them. -/
def endedLines (lines : List String) : Text :=
  lines.flatMap fun line => line.toList ++ ['\n']

theorem isClear_endedLines {tag : Text} {lines : List String}
    (h : ∀ line ∈ lines, IsClear tag line.toList) : IsClear tag (endedLines lines) := by
  induction lines with
  | nil => exact isClear_of_notMem List.not_mem_nil
  | cons line lines ih =>
    rw [endedLines, List.flatMap_cons]
    exact ((h line List.mem_cons_self).append (isClear_of_notMem (by simp))).append
      (ih fun next hmem => h next (List.mem_cons_of_mem _ hmem))

theorem toList_intercalate_concat (lines : List String) (last : String) :
    (String.intercalate "\n" (lines ++ [last])).toList = endedLines lines ++ last.toList := by
  rw [String.toList_intercalate]
  induction lines with
  | nil => simp [endedLines]
  | cons line lines ih =>
    obtain ⟨next, rest, hrest⟩ := List.exists_cons_of_ne_nil
      (List.append_ne_nil_of_right_ne_nil lines (List.cons_ne_nil last []))
    rw [List.cons_append, List.map_cons, hrest, List.map_cons, List.intercalate_cons_cons,
      ← List.map_cons, ← hrest, ih]
    simp [endedLines]

theorem isUnmarked_endedLines {lines : List String}
    (h : ∀ line ∈ lines, IsUnmarked line.toList) : IsUnmarked (endedLines lines) :=
  ⟨fun tag htag => isClear_endedLines fun line hline => (h line hline).isClear tag htag⟩

/-- Lines of which all but the last are clear of landmarks. -/
theorem exists_toList_intercalate_eq {lines : List String} {last : String}
    (hlines : lines = lines.dropLast ++ [last])
    (h : ∀ line ∈ lines.dropLast, IsUnmarked line.toList) :
    ∃ body, (String.intercalate "\n" lines).toList = body ++ last.toList ∧ IsUnmarked body :=
  ⟨endedLines lines.dropLast,
    (congrArg (fun lines => (String.intercalate "\n" lines).toList) hlines).trans
      (toList_intercalate_concat _ _), isUnmarked_endedLines h⟩

/-- Lines with the first one and the last two told apart. -/
theorem toList_intercalate_eq_of_tail {lines : List String} {first close last : String}
    (hlines : lines = first :: lines.tail.dropLast.dropLast ++ [close] ++ [last]) :
    (String.intercalate "\n" lines).toList =
      first.toList ++ '\n' :: endedLines lines.tail.dropLast.dropLast ++ close.toList ++
        '\n' :: last.toList := by
  refine (congrArg (fun lines => (String.intercalate "\n" lines).toList) hlines).trans
    ((toList_intercalate_concat _ _).trans ?_)
  simp [endedLines]

theorem infix_endedLines {line : String} {lines : List String} (h : line ∈ lines) :
    line.toList <:+: endedLines lines := by
  obtain ⟨front, back, rfl⟩ := List.append_of_mem h
  exact ⟨endedLines front, '\n' :: endedLines back, by simp [endedLines]⟩

/-- The end of the featured block. -/
def blockEnd : Text := articleClose ++ '\n' :: "      ".toList ++ divisionClose

end BlogIndex

/-! ### Posts -/

theorem ImageSize.lt_notMem_setFirst {letter : Char} {digits text : Text} (hdigits : '<' ∉ digits)
    (h : '<' ∉ text) : '<' ∉ setFirst letter digits text := by
  generalize hout : setFirst letter digits text = out
  cases resized_iff.2 hout.symm with
  | first hsize =>
    rw [hsize.eq_append] at h
    simp only [List.mem_append, List.mem_cons, not_or] at h ⊢
    exact ⟨h.1, h.2.1, h.2.2.1, hdigits, h.2.2.2.2⟩
  | none => exact h

theorem Post.exists_palette_eq (post : Post) :
    ∃ colour : String, '<' ∉ colour.toList ∧ post.palette = Palette.ofColour colour := by
  rw [Post.palette]
  split
  · exact ⟨"purple", by decide, rfl⟩
  · unfold Palette.ofCategory?
    split
    · exact ⟨"gold", by decide, rfl⟩
    · exact ⟨"blue", by decide, rfl⟩
    · exact ⟨"green", by decide, rfl⟩
    · exact ⟨"green", by decide, rfl⟩
    · exact ⟨"gold", by decide, rfl⟩

namespace Post

open BlogIndex

/-- No text of the post holds an opening bracket. -/
structure IsPlain (post : Post) : Prop where
  slug : '<' ∉ post.slug.toList
  title : '<' ∉ post.title.toList
  date : '<' ∉ post.date.toList
  dateFormatted : ∀ formatted ∈ post.dateFormatted, '<' ∉ formatted.toList
  category : '<' ∉ post.category.toList
  categoryLabel : '<' ∉ post.categoryLabel.toList
  excerpt : '<' ∉ post.excerpt.toList
  description : '<' ∉ post.description.toList
  image : '<' ∉ post.image.toList
  imageAlt : '<' ∉ post.imageAlt.toList
  shareHook : ∀ hook ∈ post.shareHook, '<' ∉ hook.toList
  displayDate : '<' ∉ post.displayDate.toList

variable {post : Post}

/-- The colour tokens of the badge hold no opening bracket. -/
theorem isUnmarked_palette (post : Post) :
    IsUnmarked post.palette.textLight.toList ∧ IsUnmarked post.palette.textDark.toList ∧
      IsUnmarked post.palette.text.toList ∧ IsUnmarked post.palette.textDarkMode.toList := by
  obtain ⟨colour, hcolour, hpalette⟩ := post.exists_palette_eq
  have hshade (shade : String) (hshade : IsUnmarked shade.toList) :
      IsUnmarked (colour ++ shade).toList :=
    (isUnmarked_of_notMem hcolour).concat hshade
  rw [hpalette]
  exact ⟨hshade "-100" (isUnmarked_literal rfl (by decide)),
    hshade "-500/20" (isUnmarked_literal rfl (by decide)),
    hshade "-700" (isUnmarked_literal rfl (by decide)),
    hshade "-400" (isUnmarked_literal rfl (by decide))⟩

theorem isUnmarked_badge (h : post.IsPlain) : IsUnmarked post.badge.toList := by
  obtain ⟨hlight, hdark, htext, hmode⟩ := isUnmarked_palette post
  unfold badge
  repeat' with_reducible refine IsUnmarked.concat ?_ ?_
  all_goals first
    | with_reducible assumption
    | with_reducible exact isUnmarked_of_notMem h.categoryLabel
    | exact isUnmarked_literal rfl (by decide +kernel)

theorem isUnmarked_articleTag (h : post.IsPlain) : IsUnmarked post.articleTag.toList := by
  unfold articleTag
  repeat' with_reducible refine IsUnmarked.concat ?_ ?_
  all_goals first
    | with_reducible exact isUnmarked_of_notMem h.category
    | exact isUnmarked_literal rfl (by decide +kernel)

theorem isUnmarked_dateTag (h : post.IsPlain) : IsUnmarked post.dateTag.toList := by
  unfold dateTag
  repeat' with_reducible refine IsUnmarked.concat ?_ ?_
  all_goals first
    | with_reducible exact isUnmarked_of_notMem h.displayDate
    | exact isUnmarked_literal rfl (by decide +kernel)

theorem isUnmarked_titleLink (h : post.IsPlain) : IsUnmarked post.titleLink.toList := by
  unfold titleLink
  repeat' with_reducible refine IsUnmarked.concat ?_ ?_
  all_goals first
    | with_reducible exact isUnmarked_of_notMem h.slug
    | with_reducible exact isUnmarked_of_notMem h.title
    | exact isUnmarked_literal rfl (by decide +kernel)

theorem lt_notMem_featured_image (h : post.IsPlain) :
    '<' ∉ (ImageSize.featured post.image).toList := by
  rw [ImageSize.featured, ImageSize.setWidth, String.toList_ofList]
  exact ImageSize.lt_notMem_setFirst (by decide) h.image

/-- The card of a plain post ends with the end of its article, and is clear of landmarks in front
of it. -/
theorem exists_card_eq (h : post.IsPlain) :
    ∃ body, post.card.toList = body ++ articleClose ∧ IsUnmarked body := by
  obtain ⟨body, heq, hbody⟩ : ∃ body, post.card.toList =
      body ++ "        </article>".toList ∧ IsUnmarked body := by
    refine exists_toList_intercalate_eq rfl ?_
    repeat' refine List.forall_mem_cons.2 ⟨?_, ?_⟩
    repeat' with_reducible refine IsUnmarked.concat ?_ ?_
    all_goals first
      | with_reducible exact isUnmarked_articleTag h
      | with_reducible exact isUnmarked_badge h
      | with_reducible exact isUnmarked_dateTag h
      | with_reducible exact isUnmarked_titleLink h
      | with_reducible exact isUnmarked_of_notMem h.title
      | with_reducible exact isUnmarked_of_notMem h.image
      | with_reducible exact isUnmarked_of_notMem h.imageAlt
      | with_reducible exact isUnmarked_of_notMem h.excerpt
      | with_reducible exact isUnmarked_of_notMem h.slug
      | exact isUnmarked_literal rfl (by decide +kernel)
      | exact List.forall_mem_nil _
  refine ⟨body ++ "        ".toList, ?_, hbody.append (isUnmarked_of_notMem (by decide))⟩
  rw [heq, List.append_assoc]
  rfl

/-- The featured block has its comment in front of its lines and its closing sequence behind them.
One of the lines is the excerpt, and those of a plain post are clear of landmarks. -/
theorem exists_featuredBlock_eq_lines (post : Post) : ∃ lines,
    post.featuredBlock.toList =
      featuredComment ++ ('\n' :: endedLines lines ++ "        ".toList) ++ blockEnd ∧
        "                " ++ post.excerpt ∈ lines ∧
          (post.IsPlain → ∀ line ∈ lines, IsUnmarked line.toList) := by
  have hblock : post.featuredBlock.toList = "<!-- Featured Post -->".toList ++
      '\n' :: endedLines _ ++ "        </article>".toList ++ '\n' :: "      </div>".toList :=
    toList_intercalate_eq_of_tail rfl
  have hclose : "        </article>".toList = "        ".toList ++ articleClose := rfl
  have hlast : "      </div>".toList = "      ".toList ++ divisionClose := rfl
  have hassoc (comment body indent close gap last : Text) :
      comment ++ '\n' :: body ++ (indent ++ close) ++ '\n' :: (gap ++ last) =
        comment ++ ('\n' :: body ++ indent) ++ (close ++ '\n' :: gap ++ last) := by simp
  rw [hclose, hlast] at hblock
  refine ⟨_, hblock.trans (hassoc _ _ _ _ _ _), ?_, fun h => ?_⟩
  · exact List.mem_of_getElem? (i := 18) rfl
  · repeat' refine List.forall_mem_cons.2 ⟨?_, ?_⟩
    repeat' with_reducible refine IsUnmarked.concat ?_ ?_
    all_goals first
      | with_reducible exact isUnmarked_articleTag h
      | with_reducible exact isUnmarked_badge h
      | with_reducible exact isUnmarked_dateTag h
      | with_reducible exact isUnmarked_titleLink h
      | with_reducible exact isUnmarked_of_notMem (lt_notMem_featured_image h)
      | with_reducible exact isUnmarked_of_notMem h.imageAlt
      | with_reducible exact isUnmarked_of_notMem h.excerpt
      | with_reducible exact isUnmarked_of_notMem h.slug
      | exact isUnmarked_literal rfl (by decide +kernel)
      | exact List.forall_mem_nil _

/-- The featured block of a plain post begins with its comment and ends with its closing sequence,
and is clear of landmarks between them. -/
theorem exists_featuredBlock_eq (h : post.IsPlain) :
    ∃ body, post.featuredBlock.toList = featuredComment ++ body ++ blockEnd ∧
      IsUnmarked body := by
  obtain ⟨lines, heq, -, hlines⟩ := exists_featuredBlock_eq_lines post
  exact ⟨_, heq, ((isUnmarked_of_notMem (by simp : '<' ∉ ['\n'])).append
    (isUnmarked_endedLines (hlines h))).append (isUnmarked_of_notMem (by decide))⟩

end Post

/-! ### The index -/

namespace BlogIndex

theorem isClosing_blockEnd : IsClosing articleClose divisionClose blockEnd :=
  ⟨'\n' :: "      ".toList, List.all_eq_true.1 rfl, rfl⟩

/-- The markup cannot be taken for more or less than it is: the featured block is its comment with
a text up to the first end of a block behind it, and it holds nothing that the page is searched for;
the cards are empty or end with the end of an article, and they hold nothing but such ends. -/
structure IsPlain (index : BlogIndex) : Prop where
  exists_featured_eq : ∃ body, index.featuredHtml.toList = featuredComment ++ body ++ blockEnd ∧
    IsUnmarked body
  exists_cards_eq : index.cardsHtml.toList = [] ∨
    ∃ body, index.cardsHtml.toList = body ++ articleClose
  isClear_cards : ∀ tag ∈ landmarks, IsClear tag articleClose → IsClear tag index.cardsHtml.toList

namespace IsPlain

variable {index : BlogIndex} {tag : Text}

theorem featuredComment_cards (h : index.IsPlain) :
    IsClear featuredComment index.cardsHtml.toList :=
  h.isClear_cards featuredComment (by simp [landmarks]) (by decide +kernel)

theorem emptyStateComment_cards (h : index.IsPlain) :
    IsClear emptyStateComment index.cardsHtml.toList :=
  h.isClear_cards emptyStateComment (by simp [landmarks]) (by decide +kernel)

theorem not_hasClosing_cards (h : index.IsPlain) :
    ¬ HasClosing divisionClose emptyStateComment index.cardsHtml.toList :=
  mt HasClosing.infix_ending (h.emptyStateComment_cards.not_isInfix isTag_emptyStateComment)

/-- The featured block is clear of the landmarks that its comment and its end are clear of. -/
theorem isClear_featured (h : index.IsPlain) (hlandmark : tag ∈ landmarks)
    (hcomment : IsClear tag featuredComment) (hend : IsClear tag blockEnd) :
    IsClear tag index.featuredHtml.toList := by
  obtain ⟨body, hhtml, hbody⟩ := h.exists_featured_eq
  rw [hhtml]
  exact (hcomment.append (hbody.isClear tag hlandmark)).append hend

end IsPlain

theorem mem_of_featured?_eq_some {posts : List Post} {number : Nat} {post : Post}
    (h : featured? posts = some (number, post)) : post ∈ posts := by
  rw [featured?] at h
  split at h
  · next found position hfind =>
    obtain ⟨rfl, rfl⟩ := by simpa using h
    exact List.fst_mem_of_mem_zipIdx (List.mem_of_find?_eq_some hfind)
  · obtain ⟨first, hfirst, heq⟩ := Option.map_eq_some_iff.1 h
    obtain ⟨rfl, rfl⟩ := by simpa using heq
    exact List.mem_of_head? hfirst

theorem exists_mem_of_mem_cards {posts : List Post} {card : String} (h : card ∈ cards posts) :
    ∃ post ∈ posts, card = post.card := by
  obtain ⟨post, hpost, rfl⟩ := List.mem_map.1 h
  exact ⟨post, List.mem_of_mem_filter hpost, rfl⟩

/-- A card is clear of the landmarks that the end of an article is clear of. -/
theorem isClear_card {post : Post} (h : post.IsPlain) {tag : Text} (hlandmark : tag ∈ landmarks)
    (hclose : IsClear tag articleClose) : IsClear tag post.card.toList := by
  obtain ⟨body, heq, hbody⟩ := Post.exists_card_eq h
  rw [heq]
  exact (hbody.isClear tag hlandmark).append hclose

/-- The cards of plain posts are clear of the landmarks that the end of an article is clear of. -/
theorem isClear_intercalate_cards {posts : List Post} (hposts : ∀ post ∈ posts, post.IsPlain)
    {tag : Text} (hlandmark : tag ∈ landmarks) (hclose : IsClear tag articleClose) :
    IsClear tag (String.intercalate "\n" (cards posts)).toList := by
  have hcard : ∀ card ∈ cards posts, IsClear tag card.toList := by
    intro card hcard
    obtain ⟨post, hpost, rfl⟩ := exists_mem_of_mem_cards hcard
    exact isClear_card (hposts post hpost) hlandmark hclose
  rcases List.eq_nil_or_concat' (cards posts) with hnil | ⟨lines, last, hconcat⟩
  · rw [hnil]
    exact isClear_of_notMem (by simp)
  · rw [hconcat] at hcard ⊢
    rw [toList_intercalate_concat]
    exact (isClear_endedLines fun line hline => hcard line (List.mem_append_left _ hline)).append
      (hcard last (by simp))

/-- **The markup of plain posts is plain.** -/
theorem isPlain_of_generate {posts : List Post} {index : BlogIndex}
    (hposts : ∀ post ∈ posts, post.IsPlain) (h : generate posts = .ok index) : index.IsPlain := by
  rw [generate] at h
  split at h
  · simp at h
  next number post hfeatured =>
  obtain rfl := by simpa using h
  refine ⟨Post.exists_featuredBlock_eq (hposts post (mem_of_featured?_eq_some hfeatured)), ?_,
    fun tag hlandmark hclose => isClear_intercalate_cards hposts hlandmark hclose⟩
  rcases List.eq_nil_or_concat' (cards posts) with hnil | ⟨lines, last, hconcat⟩
  · exact Or.inl (by simp [hnil])
  · have hlast : last ∈ cards posts := by simp [hconcat]
    obtain ⟨post, hpost, rfl⟩ := exists_mem_of_mem_cards hlast
    obtain ⟨body, heq, -⟩ := Post.exists_card_eq (hposts post hpost)
    exact Or.inr ⟨endedLines lines ++ body, by
      rw [hconcat, toList_intercalate_concat, heq, List.append_assoc]⟩

end BlogIndex

end SiteWeave
