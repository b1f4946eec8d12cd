import SiteWeave.Proofs.Page.Step

/-!
# Pages without their cuts

Steps cut texts in two and set new texts between them, so that one and the same page has many lists
of segments. Its cells do not depend on the cuts: a cell is a character outside the regions, or a
whole region. An occurrence of a tag outside the regions is a stretch of such characters.

The steps search one text segment at a time. They miss no occurrence, because no token crosses a
border of segments, neither in a page that was read nor after a step.

## Main definitions

* `Cell`, `Page.cells`: a page as characters outside the regions and whole regions.
* `IsFirst`, `IsLast`: a place in front of the first and of the last occurrence of a tag.
* `Page.IsSeamed`: no token crosses a border of segments.

## Main results

* `Page.IsSeamed.isFirst`, `Page.IsSeamed.isLast`: the places that the steps find.
* `Page.HasTextsApart.isSeamed`, `Page.FooterStep.isSeamed`, `Page.RegionStep.isSeamed`: the pages
  of a run have no token across a border.
-/

namespace SiteWeave

open Text

/-! ### Cells -/

/-- A piece of a page that no step cuts. -/
inductive Cell where
  /-- A character outside the regions. -/
  | char (c : Char)
  /-- A region with the text between its markers. -/
  | region (kind : RegionKind) (body : Text)
deriving DecidableEq, Repr

/-- The text of a cell. -/
def Cell.render : Cell → Text
  | char c => [c]
  | region kind body => (Segment.region kind body).render

/-- The text of a cell, with a region drawn together to its end marker. -/
def Cell.outline : Cell → Text
  | char c => [c]
  | region kind _ => kind.endMarker

/-- The characters of a text that stands outside the regions. -/
def Text.cells (text : Text) : List Cell :=
  text.map Cell.char

/-- The cells of a segment. -/
def Segment.cells : Segment → List Cell
  | text content => content.cells
  | region kind body => [.region kind body]

/-- The cells of a page in order. -/
def Page.cells (page : Page) : List Cell :=
  page.flatMap Segment.cells

namespace Text

@[simp] theorem cells_nil : cells [] = [] := rfl

@[simp] theorem cells_cons (c : Char) (text : Text) : cells (c :: text) = .char c :: cells text :=
  rfl

@[simp] theorem cells_append (front back : Text) :
    cells (front ++ back) = cells front ++ cells back :=
  List.map_append

@[simp] theorem length_cells (text : Text) : text.cells.length = text.length :=
  List.length_map _

theorem cells_injective : Function.Injective cells :=
  List.map_injective_iff.2 fun _ _ => Cell.char.inj

theorem cells_eq_append_iff {text : Text} {front back : List Cell} :
    text.cells = front ++ back ↔
      ∃ left right, text = left ++ right ∧ left.cells = front ∧ right.cells = back :=
  List.map_eq_append_iff

theorem cells_isPrefix_iff {tag text : Text} : tag.cells <+: text.cells ↔ tag <+: text := by
  constructor
  · rintro ⟨rest, heq⟩
    obtain ⟨front, back, rfl, hfront, -⟩ := cells_eq_append_iff.1 heq.symm
    exact cells_injective hfront ▸ List.prefix_append front back
  · rintro ⟨rest, rfl⟩
    rw [cells_append]
    exact List.prefix_append _ _

@[simp] theorem region_notMem_cells {kind : RegionKind} {body text : Text} :
    .region kind body ∉ text.cells := by
  simp [cells]

@[simp] theorem flatMap_render_cells (text : Text) : text.cells.flatMap Cell.render = text := by
  induction text with
  | nil => rfl
  | cons c text ih => simp [Cell.render, ih]

@[simp] theorem flatMap_outline_cells (text : Text) : text.cells.flatMap Cell.outline = text := by
  induction text with
  | nil => rfl
  | cons c text ih => simp [Cell.outline, ih]

end Text

namespace Page

variable {page : Page} {kind : RegionKind} {body : Text}

@[simp] theorem cells_nil : cells [] = [] := rfl

@[simp] theorem cells_cons_text (content : Text) (page : Page) :
    cells (.text content :: page) = content.cells ++ cells page := rfl

@[simp] theorem cells_cons_region (kind : RegionKind) (body : Text) (page : Page) :
    cells (.region kind body :: page) = .region kind body :: cells page := rfl

@[simp] theorem cells_append (front back : Page) :
    cells (front ++ back) = cells front ++ cells back :=
  List.flatMap_append

@[simp] theorem cells_ofText (content : Text) : cells (ofText content) = content.cells := by
  cases content <;> simp [ofText]

theorem flatMap_render_cells (page : Page) : page.cells.flatMap Cell.render = page.render := by
  induction page with
  | nil => rfl
  | cons segment page ih =>
    cases segment with
    | text content => simp [ih, Segment.render]
    | region kind body => simp [ih, Cell.render]

theorem flatMap_outline_cells (page : Page) : page.cells.flatMap Cell.outline = page.outline := by
  induction page with
  | nil => rfl
  | cons segment page ih =>
    cases segment with
    | text content => simp [ih]
    | region kind body => simp [ih, Cell.outline]

theorem region_mem_cells : .region kind body ∈ page.cells ↔ .region kind body ∈ page := by
  induction page with
  | nil => simp
  | cons segment page ih => cases segment <;> simp [ih]

/-- A text that a page begins with outside the regions begins its outline. -/
theorem isPrefix_outline {tag : Text} (h : tag.cells <+: page.cells) : tag <+: page.outline := by
  obtain ⟨rest, hrest⟩ := h
  rw [← flatMap_outline_cells, ← hrest, List.flatMap_append, Text.flatMap_outline_cells]
  exact List.prefix_append _ _

theorem cells_page (place : Place) : place.page.cells =
    place.before.cells ++ place.left.cells ++ (place.right.cells ++ place.after.cells) := by
  simp [Place.page]

theorem cells_insert (place : Place) (inserted : Page) : (place.insert inserted).cells =
    place.before.cells ++ place.left.cells ++ inserted.cells ++
      (place.right.cells ++ place.after.cells) := by
  simp [Place.insert]

/-! ### Borders of segments -/

/-- No token crosses a border of segments. -/
def IsSeamed (page : Page) : Prop :=
  ∀ front back, page = front ++ back →
    ∀ token, IsToken token → IsSeam token front.outline back.outline

theorem isSeamed_append {front back : Page} : IsSeamed (front ++ back) ↔
    IsSeamed front ∧ IsSeamed back ∧
      ∀ token, IsToken token → IsSeam token front.outline back.outline := by
  constructor
  · intro h
    refine ⟨fun left right heq token htoken => ?_, fun left right heq token htoken => ?_,
      h front back rfl⟩
    · have hseam := h left (right ++ back) (by simp [heq]) token htoken
      rw [outline_append] at hseam
      exact hseam.of_isPrefix (List.prefix_append _ _)
    · have hseam := h (front ++ left) right (by simp [heq]) token htoken
      rw [outline_append] at hseam
      exact hseam.of_isSuffix (List.suffix_append _ _)
  · rintro ⟨hfront, hback, hborder⟩ left right heq token htoken
    rcases List.append_eq_append_iff.1 heq with ⟨middle, rfl, rfl⟩ | ⟨middle, rfl, rfl⟩
    · rw [outline_append]
      exact (hback middle right rfl token htoken).append_left
        (outline_append middle right ▸ hborder token htoken)
    · rw [outline_append]
      exact (hfront left middle rfl token htoken).append_right
        (outline_append left middle ▸ hborder token htoken)

theorem isSeamed_nil : IsSeamed [] := by
  intro front back heq token htoken
  obtain ⟨rfl, rfl⟩ := List.append_eq_nil_iff.1 heq.symm
  exact IsSeam.nil_left token _

theorem isSeamed_singleton (segment : Segment) : IsSeamed [segment] := by
  intro front back heq token htoken
  rcases List.append_eq_singleton_iff.1 heq.symm with ⟨rfl, -⟩ | ⟨-, rfl⟩
  · exact IsSeam.nil_left token _
  · exact IsSeam.nil_right token _

theorem isSeamed_ofText (content : Text) : IsSeamed (ofText content) := by
  by_cases h : content = []
  · rw [h]
    exact isSeamed_nil
  · rw [ofText_of_ne_nil h]
    exact isSeamed_singleton _

/-- In front of a region and behind it there are borders that no token crosses. -/
theorem HasTextsApart.isSeamed (h : HasTextsApart page) : IsSeamed page := by
  induction page with
  | nil => exact isSeamed_nil
  | cons segment page ih =>
    rw [← List.singleton_append, isSeamed_append]
    cases segment with
    | text content =>
      obtain ⟨-, hhead, hpage⟩ := hasTextsApart_cons_text.1 h
      exact ⟨isSeamed_singleton _, ih hpage, fun token htoken => isSeam_outline htoken _ hhead⟩
    | region kind body =>
      refine ⟨isSeamed_singleton _, ih (hasTextsApart_cons_region.1 h), fun token htoken => ?_⟩
      rw [outline_cons_region, outline_nil, List.append_nil]
      exact htoken.endMarker_isSeam kind _

theorem IsSeamed.mapInteriors (g : RegionKind → Text → Text) (h : IsSeamed page) :
    IsSeamed (mapInteriors g page) := by
  intro front back heq token htoken
  obtain ⟨left, right, rfl, rfl, rfl⟩ := List.map_eq_append_iff.1 heq
  have hleft : outline (mapInteriors g left) = outline left := outline_mapInteriors
  have hright : outline (mapInteriors g right) = outline right := outline_mapInteriors
  exact hleft.symm ▸ hright.symm ▸ h left right rfl token htoken

/-- An insertion that fits brings borders that no token crosses. -/
theorem IsSeamed.insert {place : Place} {inserted : Page} (h : IsSeamed place.page)
    (hinserted : IsSeamed inserted) (hfits : place.Fits inserted) :
    IsSeamed (place.insert inserted) := by
  obtain ⟨hbefore, hrest, hfront⟩ := isSeamed_append.1 h
  obtain ⟨-, hafter, hback⟩ := isSeamed_append.1 (List.singleton_append ▸ hrest)
  have hinsert : ∀ token, IsToken token → IsSeam token
      (place.before.outline ++ place.left ++ inserted.outline)
        (place.right ++ place.after.outline) :=
    fun token htoken => (hfits.isSeam_back htoken).append_left (hfits.isSeam_front htoken)
  rw [Place.insert]
  refine isSeamed_append.2 ⟨isSeamed_append.2 ⟨isSeamed_append.2 ⟨isSeamed_append.2
    ⟨hbefore, isSeamed_ofText _, fun token htoken => ?_⟩, hinserted, fun token htoken => ?_⟩,
      isSeamed_ofText _, fun token htoken => ?_⟩, hafter, fun token htoken => ?_⟩
  · have hseam := hfront token htoken
    rw [outline_cons_text, List.append_assoc] at hseam
    rw [outline_ofText]
    exact hseam.of_isPrefix (List.prefix_append _ _)
  · rw [outline_append, outline_ofText]
    exact (hfits.isSeam_front htoken).of_isPrefix (List.prefix_append _ _)
  · rw [outline_append, outline_append, outline_ofText, outline_ofText]
    exact (hinsert token htoken).of_isPrefix (List.prefix_append _ _)
  · rw [outline_append, outline_append, outline_append, outline_ofText, outline_ofText]
    refine IsSeam.append_left ?_ (hinsert token htoken)
    have hseam := hback token htoken
    rw [outline_cons_text, outline_nil, List.append_nil] at hseam
    exact hseam.of_isSuffix (List.suffix_append _ _)

theorem IsBlock.isSeamed {block : Page} (h : IsBlock kind body block) : IsSeamed block := by
  refine HasTextsApart.isSeamed ?_
  cases h with
  | behind =>
    exact hasTextsApart_cons_region.2
      (hasTextsApart_cons_text.2 ⟨by simp, by simp, hasTextsApart_nil⟩)
  | apart =>
    exact hasTextsApart_cons_text.2 ⟨by simp, by simp [Segment.isText],
      hasTextsApart_cons_region.2
        (hasTextsApart_cons_text.2 ⟨by simp, by simp, hasTextsApart_nil⟩)⟩

theorem FooterStep.isSeamed {links : Text} {next : Page} (h : FooterStep links page next)
    (hpage : IsSeamed page) : IsSeamed next := by
  cases h with
  | skip hrefuses => exact hpage
  | insert hrefuses place line hplace hfits hline =>
    exact IsSeamed.insert (hplace ▸ hpage) (isSeamed_singleton _) hfits

theorem RegionStep.isSeamed {refuses : Prop} {next : Page}
    (h : RegionStep kind body refuses page next) (hpage : IsSeamed page) : IsSeamed next := by
  cases h with
  | fill h => exact hpage.mapInteriors _
  | skip h hrefuses => exact hpage
  | insert h hrefuses place block hplace hblock =>
    exact IsSeamed.insert (hplace.page_eq ▸ hpage) hblock.isSeamed (hblock.fits hplace)

end Page

/-! ### The first and the last occurrence of a tag -/

/-- The cells `back` begin with an occurrence of the tag outside the regions, and no occurrence
begins further to the front. -/
structure IsFirst (tag : Text) (front back : List Cell) : Prop where
  isPrefix : tag.cells <+: back
  length_le : ∀ left right, front ++ back = left ++ right → tag.cells <+: right →
    front.length ≤ left.length

theorem isFirst_iff {tag : Text} {front back : List Cell} : IsFirst tag front back ↔
    tag.cells <+: back ∧ ∀ n < front.length, ¬ tag.cells <+: (front ++ back).drop n := by
  constructor
  · rintro ⟨hback, hle⟩
    refine ⟨hback, fun n hn htag => ?_⟩
    have hlen := hle _ _ (List.take_append_drop n (front ++ back)).symm htag
    simp only [List.length_take, List.length_append] at hlen
    omega
  · rintro ⟨hback, hnot⟩
    refine ⟨hback, fun left right heq htag => ?_⟩
    by_contra hlt
    refine hnot left.length (by omega) ?_
    rwa [heq, List.drop_left]

instance (tag : Text) (front back : List Cell) : Decidable (IsFirst tag front back) :=
  decidable_of_iff _ isFirst_iff.symm

/-- The cells `back` begin with an occurrence of the tag outside the regions, and no occurrence
begins further to the back. -/
structure IsLast (tag : Text) (front back : List Cell) : Prop where
  isPrefix : tag.cells <+: back
  length_le : ∀ left right, front ++ back = left ++ right → tag.cells <+: right →
    left.length ≤ front.length

namespace Page

variable {page : Page} {tag content : Text} {left right : List Cell}

/-- An occurrence outside the regions does not begin at a region. -/
theorem exists_eq_of_cells_cons_region (htag : IsToken tag) {kind : RegionKind} {body : Text}
    {cells : List Cell} (h : .region kind body :: cells = left ++ right)
    (hright : tag.cells <+: right) :
    ∃ rest, left = .region kind body :: rest ∧ cells = rest ++ right := by
  cases left with
  | cons cell rest =>
    obtain ⟨rfl, rfl⟩ := List.cons.inj h
    exact ⟨rest, rfl, rfl⟩
  | nil =>
    obtain ⟨c, inner, rfl⟩ := List.exists_cons_of_ne_nil htag.ne_nil
    rw [← (List.nil_append right ▸ h : _ = right), cells_cons, List.cons_prefix_cons] at hright
    exact absurd hright.1 (by simp)

/-- An occurrence outside the regions that begins in the first text of a page lies in it. -/
theorem exists_eq_or_eq_of_cells (hseam : IsSeam tag content page.outline)
    (h : content.cells ++ page.cells = left ++ right) (hright : tag.cells <+: right) :
    (∃ front back, content = front ++ tag ++ back ∧ left = front.cells) ∨
      ∃ rest, left = content.cells ++ rest ∧ page.cells = rest ++ right := by
  rcases List.append_eq_append_iff.1 h with ⟨rest, rfl, hrest⟩ | ⟨rest, hcontent, rfl⟩
  · exact Or.inr ⟨rest, rfl, hrest⟩
  obtain ⟨front, middle, rfl, rfl, rfl⟩ := cells_eq_append_iff.1 hcontent
  rcases List.prefix_or_prefix_of_prefix hright (List.prefix_append middle.cells page.cells) with
    hshort | hlong
  · obtain ⟨back, rfl⟩ := cells_isPrefix_iff.1 hshort
    exact Or.inl ⟨front, back, by simp, rfl⟩
  obtain ⟨tail, rfl⟩ := cells_isPrefix_iff.1 hlong
  rw [Text.cells_append, List.prefix_append_right_inj] at hright
  -- The occurrence is cut at the border, so that one of its parts is empty.
  by_cases hmiddle : middle = []
  · exact Or.inr ⟨[], by simp [hmiddle], by simp [hmiddle]⟩
  · by_cases htail : tail = []
    · exact Or.inl ⟨front, [], by simp [htail], rfl⟩
    · exact absurd (isPrefix_outline hright)
        (hseam middle tail hmiddle htail rfl (List.suffix_append front middle))

theorem isSeam_of_isSeamed_cons (htag : IsToken tag) (h : IsSeamed (.text content :: page)) :
    IsSeam tag content page.outline := by
  have hseam := h [.text content] page rfl tag htag
  rwa [outline_cons_text, outline_nil, List.append_nil] at hseam

theorem IsSeamed.of_cons {segment : Segment} (h : IsSeamed (segment :: page)) : IsSeamed page :=
  (isSeamed_append.1 (List.singleton_append ▸ h : IsSeamed ([segment] ++ page))).2.1

namespace IsSeamed

variable {place : Place}

/-- The first place of a tag is in front of its first occurrence outside the regions. -/
theorem isFirst (h : IsSeamed page) (htag : IsToken tag)
    (hplace : firstPlace? tag page = some place) :
    IsFirst tag (place.before.cells ++ place.left.cells)
      (place.right.cells ++ place.after.cells) := by
  obtain ⟨hpage, rest, hrest⟩ := isBefore_of_firstPlace? hplace
  refine ⟨?_, ?_⟩
  · rw [hrest, Text.cells_append, List.append_assoc]
    exact List.prefix_append _ _
  rw [← cells_page, hpage]
  clear hpage hrest
  intro left right heq hright
  induction page generalizing place left with
  | nil => simp [firstPlace?] at hplace
  | cons segment page ih =>
    cases segment with
    | region kind body =>
      obtain ⟨inner, hinner, rfl⟩ := Option.map_eq_some_iff.1 hplace
      obtain ⟨front, rfl, hfront⟩ := exists_eq_of_cells_cons_region htag heq hright
      have hle := ih h.of_cons hinner front hfront
      simpa [Place.behind] using hle
    | text content =>
      have hseam := isSeam_of_isSeamed_cons htag h
      rw [firstPlace?] at hplace
      rcases exists_eq_or_eq_of_cells hseam heq hright with
        ⟨front, back, hcontent, rfl⟩ | ⟨front, rfl, hfront⟩
      · split at hplace
        · next before after hsplit =>
          obtain rfl := by simpa using hplace
          simpa using length_le_of_splitFirst? hsplit hcontent
        · next hsplit =>
          exact absurd ⟨front, back, hcontent.symm⟩ (splitFirst?_eq_none_iff.1 hsplit)
      · split at hplace
        · next before after hsplit =>
          obtain rfl := by simpa using hplace
          have hlen := congrArg List.length (eq_append_of_splitFirst? hsplit)
          simp only [List.length_append] at hlen
          simp only [cells_nil, List.nil_append, length_cells, List.length_append]
          omega
        · obtain ⟨inner, hinner, rfl⟩ := Option.map_eq_some_iff.1 hplace
          have hle := ih h.of_cons hinner front hfront
          simpa [Place.behind] using hle

/-- A tag without a place does not occur outside the regions. -/
theorem not_isPrefix_of_lastPlace? (h : IsSeamed page) (htag : IsToken tag)
    (hplace : lastPlace? tag page = none) (heq : page.cells = left ++ right) :
    ¬ tag.cells <+: right := by
  rw [lastPlace?_eq_none_iff] at hplace
  intro hright
  induction page generalizing left with
  | nil =>
    obtain ⟨-, rfl⟩ := List.append_eq_nil_iff.1 heq.symm
    exact htag.ne_nil (cells_injective (List.prefix_nil.1 hright))
  | cons segment page ih =>
    have hpage : ∀ content, .text content ∈ page → ¬ tag <:+: content :=
      fun content hmem => hplace content (List.mem_cons_of_mem _ hmem)
    cases segment with
    | region kind body =>
      obtain ⟨front, -, hfront⟩ := exists_eq_of_cells_cons_region htag heq hright
      exact ih h.of_cons hpage hfront
    | text content =>
      rcases exists_eq_or_eq_of_cells (isSeam_of_isSeamed_cons htag h) heq hright with
        ⟨front, back, rfl, -⟩ | ⟨front, -, hfront⟩
      · exact hplace _ List.mem_cons_self ⟨front, back, rfl⟩
      · exact ih h.of_cons hpage hfront

/-- The last place of a tag is in front of its last occurrence outside the regions. -/
theorem isLast (h : IsSeamed page) (htag : IsToken tag)
    (hplace : lastPlace? tag page = some place) :
    IsLast tag (place.before.cells ++ place.left.cells)
      (place.right.cells ++ place.after.cells) := by
  obtain ⟨hpage, rest, hrest⟩ := isBefore_of_lastPlace? hplace
  refine ⟨?_, ?_⟩
  · rw [hrest, Text.cells_append, List.append_assoc]
    exact List.prefix_append _ _
  rw [← cells_page, hpage]
  clear hpage hrest
  intro left right heq hright
  induction page generalizing place left with
  | nil => simp [lastPlace?] at hplace
  | cons segment page ih =>
    cases segment with
    | region kind body =>
      obtain ⟨inner, hinner, rfl⟩ := Option.map_eq_some_iff.1 hplace
      obtain ⟨front, rfl, hfront⟩ := exists_eq_of_cells_cons_region htag heq hright
      have hle := ih h.of_cons hinner front hfront
      simpa [Place.behind] using hle
    | text content =>
      rw [lastPlace?] at hplace
      rcases exists_eq_or_eq_of_cells (isSeam_of_isSeamed_cons htag h) heq hright with
        ⟨front, back, hcontent, rfl⟩ | ⟨front, rfl, hfront⟩
      · split at hplace
        · next inner hinner =>
          obtain rfl := by simpa using hplace
          have hlen := congrArg List.length hcontent
          simp only [List.length_append] at hlen
          simp only [Place.behind, cells_cons_text, List.length_append, length_cells]
          omega
        · obtain ⟨⟨before, after⟩, hsplit, rfl⟩ := Option.map_eq_some_iff.1 hplace
          simpa using length_le_of_splitLast? hsplit hcontent
      · split at hplace
        · next inner hinner =>
          obtain rfl := by simpa using hplace
          have hle := ih h.of_cons hinner front hfront
          simpa [Place.behind] using hle
        · next hnone =>
          exact absurd hright (h.of_cons.not_isPrefix_of_lastPlace? htag hnone hfront)

end IsSeamed

end Page

end SiteWeave
