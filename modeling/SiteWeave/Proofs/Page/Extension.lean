import SiteWeave.Proofs.Page.Insertion

/-!
# Pages that keep another one

Filling regions and inserting segments take nothing away from a page outside its regions. What is
kept is stated once here, for the steps of the build and for whole runs: the regions, the tokens
outside them and what they stand in front of, and the text outside the regions.

## Main definitions

* `Page.plainText`: the text outside the regions.
* `Page.IsAhead`: a text occurs outside the regions in front of a region.
* `Page.IsExtension`: one page keeps another.

## Main results

* `Page.plainText_sublist_render`: the text outside the regions is part of the written page.
* `Page.IsExtension.mapInteriors`, `Page.IsExtension.insert`: filling and inserting keep the page.
-/

namespace SiteWeave

open Text

namespace Page

variable {page next last : Page} {kind : RegionKind}

/-! ### The text outside the regions -/

/-- The text outside the regions. -/
def plainText (page : Page) : Text :=
  page.flatMap fun
    | .text content => content
    | .region _ _ => []

@[simp] theorem plainText_nil : plainText [] = [] := rfl

@[simp] theorem plainText_cons_text (content : Text) (page : Page) :
    plainText (.text content :: page) = content ++ plainText page := by
  simp [plainText]

@[simp] theorem plainText_cons_region (kind : RegionKind) (body : Text) (page : Page) :
    plainText (.region kind body :: page) = plainText page := by
  simp [plainText]

@[simp] theorem plainText_append (front back : Page) :
    plainText (front ++ back) = plainText front ++ plainText back := by
  simp [plainText]

@[simp] theorem plainText_ofText (content : Text) : plainText (ofText content) = content := by
  cases content <;> simp [ofText]

theorem plainText_joinText (content : Text) (page : Page) :
    plainText (joinText content page) = content ++ plainText page := by
  cases page with
  | nil => simp [joinText]
  | cons segment page => cases segment <;> simp [joinText]

@[simp] theorem plainText_join (page : Page) : plainText (join page) = plainText page := by
  induction page with
  | nil => rfl
  | cons segment page ih =>
    cases segment with
    | text content => rw [join, plainText_joinText, ih, plainText_cons_text]
    | region kind body => rw [join, plainText_cons_region, plainText_cons_region, ih]

@[simp] theorem plainText_mapInteriors (g : RegionKind → Text → Text) (page : Page) :
    plainText (mapInteriors g page) = plainText page := by
  induction page with
  | nil => rfl
  | cons segment page ih => cases segment <;> simp [ih]

theorem plainText_sublist_render (page : Page) : page.plainText.Sublist page.render := by
  induction page with
  | nil => exact List.Sublist.slnil
  | cons segment page ih =>
    rw [render_cons]
    cases segment with
    | text content => exact (plainText_cons_text content page) ▸ ih.append_left content
    | region kind body =>
      rw [plainText_cons_region]
      exact ih.trans (List.sublist_append_right _ _)

/-! ### Pages that keep another one -/

/-- The text occurs outside the regions in front of some region of the kind. -/
def IsAhead (token : Text) (kind : RegionKind) (page : Page) : Prop :=
  ∃ front body back, page = front ++ .region kind body :: back ∧ token <:+: outline front

/-- The page `next` keeps what `page` has outside the interiors of its regions. -/
structure IsExtension (page next : Page) : Prop where
  hasRegion : ∀ kind, page.hasRegion kind = true → next.hasRegion kind = true
  infix_outline : ∀ token, IsToken token → token <:+: page.outline → token <:+: next.outline
  isAhead : ∀ token kind, IsToken token → IsAhead token kind page → IsAhead token kind next
  plainText_sublist : page.plainText.Sublist next.plainText
  isIntact : page.IsIntact → next.IsIntact

namespace IsExtension

theorem refl (page : Page) : IsExtension page page :=
  ⟨fun _ h => h, fun _ _ h => h, fun _ _ _ h => h, List.Sublist.refl _, id⟩

theorem trans (h : IsExtension page next) (hnext : IsExtension next last) :
    IsExtension page last where
  hasRegion kind hkind := hnext.hasRegion kind (h.hasRegion kind hkind)
  infix_outline token htoken hoccurs :=
    hnext.infix_outline token htoken (h.infix_outline token htoken hoccurs)
  isAhead token kind htoken hahead :=
    hnext.isAhead token kind htoken (h.isAhead token kind htoken hahead)
  plainText_sublist := h.plainText_sublist.trans hnext.plainText_sublist
  isIntact hpage := hnext.isIntact (h.isIntact hpage)

theorem hasRegion_eq_false (h : IsExtension page next) (hnot : next.hasRegion kind = false) :
    page.hasRegion kind = false := by
  rw [← Bool.not_eq_true] at hnot ⊢
  exact fun hkind => hnot (h.hasRegion kind hkind)

theorem mapInteriors (g : RegionKind → Text → Text) (page : Page) :
    IsExtension page (mapInteriors g page) where
  hasRegion kind hkind := by rwa [hasRegion_mapInteriors]
  infix_outline token _ hoccurs := by rwa [outline_mapInteriors]
  isAhead token kind _ := by
    rintro ⟨front, body, back, rfl, hoccurs⟩
    refine ⟨Page.mapInteriors g front, g kind body, Page.mapInteriors g back, ?_, ?_⟩
    · rw [mapInteriors_append, mapInteriors_cons_region]
    · rwa [outline_mapInteriors]
  plainText_sublist := by rw [plainText_mapInteriors]
  isIntact hpage landmark hlandmark hoccurs := by
    rw [outline_mapInteriors] at hoccurs
    obtain ⟨content, hmem, hcontent⟩ := hpage landmark hlandmark hoccurs
    exact ⟨content, text_mem_mapInteriors.2 hmem, hcontent⟩

/-- An insertion that fits leaves a token in front of a region where it is. -/
theorem isAhead_insert {place : Place} {inserted : Page} (hfits : place.Fits inserted)
    {token : Text} (htoken : IsToken token) (h : IsAhead token kind place.page) :
    IsAhead token kind (place.insert inserted) := by
  obtain ⟨front, body, back, heq, hoccurs⟩ := h
  rcases List.append_eq_append_iff.1 heq with ⟨mid, rfl, hmid⟩ | ⟨mid, hbefore, hmid⟩
  · -- The place is in front of the region.
    cases mid with
    | nil => simp at hmid
    | cons segment mid =>
      rw [List.cons_append] at hmid
      obtain ⟨rfl, hafter⟩ := List.cons.inj hmid
      refine ⟨place.before ++ ofText place.left ++ inserted ++ ofText place.right ++ mid, body,
        back, by simp [Place.insert, hafter], ?_⟩
      have hbegins : place.right ++ outline mid <+: place.right ++ place.after.outline := by
        rw [hafter, outline_append, ← List.append_assoc]
        exact List.prefix_append _ _
      have hseam := (hfits.isSeam htoken).of_isPrefix hbegins
      rw [outline_append, outline_cons_text, List.append_assoc, ← List.append_assoc,
        hseam.infix_append_iff] at hoccurs
      simp only [outline_append, outline_ofText, List.append_assoc]
      rw [← List.append_assoc]
      rcases hoccurs with hleft | hright
      · exact List.infix_append_of_infix_left hleft
      · exact List.infix_append_of_infix_right (List.infix_append_of_infix_right hright)
  · -- The place is behind the region.
    cases mid with
    | nil => simp at hmid
    | cons segment mid =>
      obtain ⟨rfl, -⟩ := List.cons.inj hmid
      exact ⟨front, body, mid ++ ofText place.left ++ inserted ++ ofText place.right ++ place.after,
        by simp [Place.insert, hbefore], hoccurs⟩

theorem insert {place : Place} {inserted : Page} (hfits : place.Fits inserted)
    (hinserted : inserted.IsIntact) : IsExtension place.page (place.insert inserted) where
  hasRegion kind hkind := by
    obtain ⟨body, hmem⟩ := hasRegion_iff.1 hkind
    exact hasRegion_iff.2 ⟨body, Place.region_mem_insert.2 (Or.inl hmem)⟩
  infix_outline token htoken hoccurs := (hfits.infix_outline_iff htoken).2 (Or.inl hoccurs)
  isAhead _ _ htoken hahead := isAhead_insert hfits htoken hahead
  plainText_sublist := by
    rw [Place.page, Place.insert]
    simp only [plainText_append, plainText_cons_text, plainText_ofText, List.append_assoc]
    exact ((List.sublist_append_right _ _).append_left place.left).append_left _
  isIntact hpage := hfits.isIntact hpage hinserted

end IsExtension

theorem isIntact_of_text (content : Text) : IsIntact [.text content] := by
  intro landmark hlandmark hoccurs
  rw [outline_cons_text, outline_nil, List.append_nil] at hoccurs
  exact ⟨content, List.mem_cons_self, hoccurs⟩

end Page

end SiteWeave
