import SiteWeave.Proofs.Page.Segmentation

/-!
# The outline of a page

The outline of a page is its text outside the regions, with every region drawn together to its end
marker. It is one text, so that questions about what stands outside the regions, and in which order,
become questions about occurrences in one text. A region's interior is not part of it.

After a page has been edited, texts may stand side by side. Writing the page and reading it again
joins them. Whether the page that is read is otherwise the page that was written depends on the
outline alone: no begin marker in it may have an end marker of its kind behind it.

## Main definitions

* `Page.outline`: the text outside the regions, each region drawn together to its end marker.
* `Page.join`: the page with texts that stand side by side set together.
* `Page.IsInert`: no begin marker outside the regions is closed.
* `IsLandmark`: the tokens that the build looks for outside the regions.
* `Page.IsIntact`: the borders of segments cut no landmark.

## Main results

* `Page.parse_render_eq_join_iff`: a page is read back as it was written exactly when it is inert.
* `Page.HasTextsApart.isIntact`: pages with their texts apart are intact.
-/

namespace SiteWeave

open Text

namespace RegionKind

theorem not_beginMarker_infix_endMarker (kind other : RegionKind) :
    ¬ kind.beginMarker <:+: other.endMarker := by
  rw [← contains_eq_true_iff]
  cases kind <;> cases other <;> decide

theorem not_endMarker_infix_beginMarker (kind other : RegionKind) :
    ¬ kind.endMarker <:+: other.beginMarker := by
  rw [← contains_eq_true_iff]
  cases kind <;> cases other <;> decide

theorem endMarker_infix_endMarker_iff {kind other : RegionKind} :
    kind.endMarker <:+: other.endMarker ↔ kind = other := by
  rw [← contains_eq_true_iff]
  cases kind <;> cases other <;> decide

end RegionKind

/-- The text holds no marker of any kind. -/
def Text.IsMarkerFree (text : Text) : Prop :=
  ∀ kind : RegionKind, ¬ kind.beginMarker <:+: text ∧ ¬ kind.endMarker <:+: text

instance (text : Text) : Decidable text.IsMarkerFree :=
  decidable_of_iff (∀ kind ∈ RegionKind.all,
      Text.contains kind.beginMarker text ≠ true ∧ Text.contains kind.endMarker text ≠ true) <| by
    simp only [Text.IsMarkerFree, ne_eq, contains_eq_true_iff]
    exact ⟨fun h kind => h kind kind.mem_all, fun h kind _ => h kind⟩

/-- The tokens that the build looks for outside the regions: none of them is part of an end
marker. -/
structure IsLandmark (landmark : Text) : Prop extends IsToken landmark where
  not_infix_endMarker : ∀ kind : RegionKind, ¬ landmark <:+: kind.endMarker

theorem RegionKind.isLandmark_beginMarker (kind : RegionKind) : IsLandmark kind.beginMarker :=
  ⟨kind.isToken_beginMarker, kind.not_beginMarker_infix_endMarker⟩

namespace Page

/-! ### The outline -/

/-- The text outside the regions, with every region drawn together to its end marker. -/
def outline (page : Page) : Text :=
  page.flatMap fun
    | .text content => content
    | .region kind _ => kind.endMarker

@[simp] theorem outline_nil : outline [] = [] := rfl

@[simp] theorem outline_cons_text (content : Text) (page : Page) :
    outline (.text content :: page) = content ++ outline page := by
  simp [outline]

@[simp] theorem outline_cons_region (kind : RegionKind) (body : Text) (page : Page) :
    outline (.region kind body :: page) = kind.endMarker ++ outline page := by
  simp [outline]

@[simp] theorem outline_append (front back : Page) :
    outline (front ++ back) = outline front ++ outline back := by
  simp [outline]

@[simp] theorem outline_ofText (content : Text) : outline (ofText content) = content := by
  cases content <;> simp [ofText]

theorem infix_outline_of_mem {content : Text} {page : Page} (h : .text content ∈ page) :
    content <:+: outline page := by
  obtain ⟨front, back, rfl⟩ := List.append_of_mem h
  exact ⟨outline front, outline back, by simp⟩

theorem isSeam_outline {token : Text} (htoken : IsToken token) (left : Text) {page : Page}
    (hhead : ∀ segment ∈ page.head?, segment.isText = false) :
    IsSeam token left (outline page) := by
  cases page with
  | nil => exact IsSeam.nil_right token left
  | cons segment page =>
    cases segment with
    | text content => exact absurd (hhead _ rfl) (by simp [Segment.isText])
    | region kind body =>
      rw [outline_cons_region]
      exact htoken.isSeam_endMarker left kind (outline page)

/-! ### Texts that stand side by side -/

/-- A page with text in front of it, set together with the text that the page begins with. -/
def joinText (content : Text) : Page → Page
  | .text next :: page => .text (content ++ next) :: page
  | page => ofText content ++ page

/-- The page with texts that stand side by side set together. -/
def join : Page → Page
  | [] => []
  | .text content :: page => joinText content (join page)
  | .region kind body :: page => .region kind body :: join page

theorem render_joinText (content : Text) (page : Page) :
    render (joinText content page) = content ++ render page := by
  cases page with
  | nil => simp [joinText]
  | cons segment page => cases segment <;> simp [joinText, Segment.render]

theorem outline_joinText (content : Text) (page : Page) :
    outline (joinText content page) = content ++ outline page := by
  cases page with
  | nil => simp [joinText]
  | cons segment page => cases segment <;> simp [joinText]

theorem region_mem_joinText {kind : RegionKind} {body content : Text} {page : Page} :
    .region kind body ∈ joinText content page ↔ .region kind body ∈ page := by
  have hofText : Segment.region kind body ∉ ofText content := by
    by_cases h : content = []
    · simp [h]
    · simp [ofText_of_ne_nil h]
  cases page with
  | nil => simp [joinText, hofText]
  | cons segment page => cases segment <;> simp [joinText, hofText]

@[simp] theorem render_join (page : Page) : render (join page) = render page := by
  induction page with
  | nil => rfl
  | cons segment page ih =>
    cases segment with
    | text content => rw [join, render_joinText, ih, render_cons, Segment.render]
    | region kind body => rw [join, render_cons, render_cons, ih]

@[simp] theorem outline_join (page : Page) : outline (join page) = outline page := by
  induction page with
  | nil => rfl
  | cons segment page ih =>
    cases segment with
    | text content => rw [join, outline_joinText, ih, outline_cons_text]
    | region kind body => rw [join, outline_cons_region, outline_cons_region, ih]

@[simp] theorem region_mem_join {kind : RegionKind} {body : Text} {page : Page} :
    .region kind body ∈ join page ↔ .region kind body ∈ page := by
  induction page with
  | nil => simp [join]
  | cons segment page ih =>
    cases segment with
    | text content => simp [join, region_mem_joinText, ih]
    | region k old => simp [join, ih]

theorem hasTextsApart_joinText {content : Text} {page : Page} (h : HasTextsApart page) :
    HasTextsApart (joinText content page) := by
  cases page with
  | nil =>
    by_cases hcontent : content = []
    · simpa [joinText, hcontent] using h
    · rw [joinText, List.append_nil, ofText_of_ne_nil hcontent]
      · exact hasTextsApart_cons_text.2 ⟨hcontent, by simp, h⟩
      · simp
  | cons segment page =>
    cases segment with
    | text next =>
      obtain ⟨hnext, hhead, hpage⟩ := hasTextsApart_cons_text.1 h
      exact hasTextsApart_cons_text.2 ⟨by simp [hnext], hhead, hpage⟩
    | region kind body =>
      by_cases hcontent : content = []
      · simpa [joinText, hcontent] using h
      · rw [joinText, ofText_of_ne_nil hcontent]
        · exact hasTextsApart_cons_text.2 ⟨hcontent, by simp [Segment.isText], h⟩
        · simp

theorem hasTextsApart_join (page : Page) : HasTextsApart (join page) := by
  induction page with
  | nil => exact hasTextsApart_nil
  | cons segment page ih =>
    cases segment with
    | text content => exact hasTextsApart_joinText ih
    | region kind body => exact hasTextsApart_cons_region.2 ih

/-! ### Reading a written page -/

/-- The interiors of regions hold no marker. -/
def HasFreeBodies (page : Page) : Prop :=
  ∀ kind body, .region kind body ∈ page → body.IsMarkerFree

/-- No begin marker outside the regions has an end marker of its kind behind it. -/
def IsInert (page : Page) : Prop :=
  ∀ kind : RegionKind, ¬ IsFollowed kind.beginMarker kind.endMarker (outline page)

/-- What occurs in a written page with text in front of it stands in the outline, or belongs to a
region: to its begin marker or to its interior. -/
theorem infix_append_render_iff {token : Text} (htoken : IsToken token) {front : Text}
    {page : Page} :
    token <:+: front ++ render page ↔ token <:+: front ++ outline page ∨
      ∃ kind body, .region kind body ∈ page ∧ (token <:+: kind.beginMarker ∨ token <:+: body) := by
  induction page generalizing front with
  | nil => simp
  | cons segment page ih =>
    cases segment with
    | text content =>
      rw [render_cons, Segment.render, outline_cons_text, ← List.append_assoc,
        ← List.append_assoc, ih]
      simp
    | region k old =>
      have hrest : token <:+: render page ↔ token <:+: outline page ∨ ∃ kind body,
          .region kind body ∈ page ∧ (token <:+: kind.beginMarker ∨ token <:+: body) :=
        @ih []
      rw [render_cons, Segment.render, outline_cons_region, List.append_assoc, List.append_assoc,
        (htoken.isSeam_beginMarker _ _ _).infix_append_iff,
        (htoken.beginMarker_isSeam _ _).infix_append_iff,
        (htoken.isSeam_endMarker _ _ _).infix_append_iff,
        (htoken.endMarker_isSeam _ _).infix_append_iff,
        (htoken.isSeam_endMarker _ _ _).infix_append_iff,
        (htoken.endMarker_isSeam _ _).infix_append_iff, hrest]
      simp only [List.mem_cons, Segment.region.injEq, or_and_right, exists_or, and_assoc,
        exists_and_left, exists_eq_left, or_assoc, or_left_comm]

theorem infix_render_iff {token : Text} (htoken : IsToken token) {page : Page} :
    token <:+: render page ↔ token <:+: outline page ∨
      ∃ kind body, .region kind body ∈ page ∧ (token <:+: kind.beginMarker ∨ token <:+: body) :=
  @infix_append_render_iff token htoken [] page

theorem infix_append_render {token : Text} (htoken : IsToken token) {front : Text} {page : Page}
    (h : token <:+: front ++ outline page) : token <:+: front ++ render page :=
  (infix_append_render_iff htoken).2 (Or.inl h)

/-- An end marker in a written page with text in front of it stands in its outline, if the interiors
of its regions hold no marker. -/
theorem endMarker_infix_append_outline {kind : RegionKind} {front : Text} {page : Page}
    (hfree : HasFreeBodies page) (h : kind.endMarker <:+: front ++ render page) :
    kind.endMarker <:+: front ++ outline page := by
  refine ((infix_append_render_iff kind.isToken_endMarker).1 h).resolve_right ?_
  rintro ⟨k, body, hmem, hbegin | hbody⟩
  · exact RegionKind.not_endMarker_infix_beginMarker kind k hbegin
  · exact (hfree k body hmem kind).2 hbody

theorem IsCanonical.isInert {page : Page} (h : IsCanonical page) : IsInert page := by
  induction page with
  | nil =>
    rintro kind ⟨front, back, heq, -⟩
    simp [kind.isToken_beginMarker.ne_nil] at heq
  | cons segment page ih =>
    cases segment with
    | text content =>
      obtain ⟨-, hhead, hcontent, hpage⟩ := isCanonical_cons_text.1 h
      intro kind
      rw [outline_cons_text,
        isFollowed_append_iff (isSeam_outline kind.isToken_beginMarker content hhead)
          (isSeam_outline kind.isToken_endMarker content hhead)]
      rintro (⟨left, right, hleft, hright⟩ | ⟨⟨left, right, hleft⟩, hright⟩ | hrest)
      · exact hcontent kind left right hleft (List.infix_append_of_infix_left hright)
      · exact hcontent kind left right hleft.symm
          (infix_append_render kind.isToken_endMarker (List.infix_append_of_infix_right hright))
      · exact ih hpage kind hrest
    | region k body =>
      obtain ⟨-, hpage⟩ := isCanonical_cons_region.1 h
      intro kind
      rw [outline_cons_region, isFollowed_append_iff (kind.isToken_beginMarker.endMarker_isSeam _ _)
        (kind.isToken_endMarker.endMarker_isSeam _ _)]
      have hnot := RegionKind.not_beginMarker_infix_endMarker kind k
      rintro (hleft | ⟨hleft, -⟩ | hrest)
      · exact hnot hleft.infix_left
      · exact hnot hleft
      · exact ih hpage kind hrest

theorem HasTextsApart.isCanonical {page : Page} (h : HasTextsApart page)
    (hfree : HasFreeBodies page) (hinert : IsInert page) : IsCanonical page where
  toHasTextsApart := h
  not_endMarker_infix kind body hmem := (hfree kind body hmem kind).2
  unpaired front content back heq kind left right hcontent hend := by
    have hback : HasFreeBodies back := fun k body hmem => hfree k body (by simp [heq, hmem])
    refine hinert kind ⟨outline front ++ left, right ++ outline back, ?_,
      endMarker_infix_append_outline hback hend⟩
    simp [heq, hcontent]

/-- **Inert pages are read back, and no others.** A page whose regions hold no marker is read back
as it was written, up to the cutting of texts, exactly when no begin marker outside the regions is
closed. -/
theorem parse_render_eq_join_iff {page : Page} (hfree : HasFreeBodies page) :
    parse (render page) = join page ↔ IsInert page := by
  have hinert : IsInert (join page) ↔ IsInert page := by simp only [IsInert, outline_join]
  constructor
  · intro h
    rw [← hinert, ← h]
    exact (isCanonical_parse _).isInert
  · intro h
    rw [← render_join]
    refine parse_render_of_isCanonical _ ((hasTextsApart_join page).isCanonical ?_ (hinert.2 h))
    exact fun kind body hmem => hfree kind body (region_mem_join.1 hmem)

/-! ### Landmarks -/

/-- A landmark in the outline of a page stands in one of its texts. -/
def IsIntact (page : Page) : Prop :=
  ∀ landmark, IsLandmark landmark → landmark <:+: outline page →
    ∃ content, .text content ∈ page ∧ landmark <:+: content

theorem HasTextsApart.isIntact {page : Page} (h : HasTextsApart page) : IsIntact page := by
  intro landmark hlandmark hoccurs
  induction page with
  | nil => exact absurd (List.infix_nil.1 hoccurs) hlandmark.ne_nil
  | cons segment page ih =>
    cases segment with
    | text content =>
      obtain ⟨-, hhead, hpage⟩ := hasTextsApart_cons_text.1 h
      rw [outline_cons_text,
        (isSeam_outline hlandmark.toIsToken content hhead).infix_append_iff] at hoccurs
      rcases hoccurs with hoccurs | hoccurs
      · exact ⟨content, List.mem_cons_self, hoccurs⟩
      · obtain ⟨next, hmem, hnext⟩ := ih hpage hoccurs
        exact ⟨next, List.mem_cons_of_mem _ hmem, hnext⟩
    | region kind body =>
      rw [outline_cons_region, (hlandmark.endMarker_isSeam kind _).infix_append_iff,
        or_iff_right (hlandmark.not_infix_endMarker kind)] at hoccurs
      obtain ⟨next, hmem, hnext⟩ := ih (hasTextsApart_cons_region.1 h) hoccurs
      exact ⟨next, List.mem_cons_of_mem _ hmem, hnext⟩

theorem IsIntact.infix_outline_iff {page : Page} (h : IsIntact page) {landmark : Text}
    (hlandmark : IsLandmark landmark) :
    landmark <:+: outline page ↔ ∃ content, .text content ∈ page ∧ landmark <:+: content := by
  refine ⟨h landmark hlandmark, ?_⟩
  rintro ⟨content, hmem, hcontent⟩
  exact hcontent.trans (infix_outline_of_mem hmem)

end Page

end SiteWeave
