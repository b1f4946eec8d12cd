import SiteWeave.Proofs.Page.Outline
import SiteWeave.Page.Weave

/-!
# The interiors of regions

The interiors of regions belong to the build and are overwritten by it. Everything else about a page
(its outline, which regions it has, where a tag stands outside them) does not depend on them.

## Main definitions

* `Page.mapInteriors`: the page with every interior changed.
* `Page.fill`: the page with a prescribed interior in every region.
* `PageFragments.body`: the interior that the fragments prescribe for a kind of region.

## Main results

* `Page.fill_eq_self_iff`: a page is filled when every region has the prescribed interior.
* `Page.firstPlace?_mapInteriors`, `Page.lastPlace?_mapInteriors`: the places of a tag stay.
-/

namespace SiteWeave

open Text

namespace Page

variable {g : RegionKind → Text → Text} {page : Page} {kind : RegionKind} {body content : Text}

/-! ### Changing interiors -/

/-- The page with the interior of every region changed. -/
def mapInteriors (g : RegionKind → Text → Text) (page : Page) : Page :=
  page.map fun
    | .text content => .text content
    | .region kind body => .region kind (g kind body)

@[simp] theorem mapInteriors_nil : mapInteriors g [] = [] := rfl

@[simp] theorem mapInteriors_cons_text (content : Text) (page : Page) :
    mapInteriors g (.text content :: page) = .text content :: mapInteriors g page := rfl

@[simp] theorem mapInteriors_cons_region (kind : RegionKind) (body : Text) (page : Page) :
    mapInteriors g (.region kind body :: page) =
      .region kind (g kind body) :: mapInteriors g page := rfl

@[simp] theorem mapInteriors_append (front back : Page) :
    mapInteriors g (front ++ back) = mapInteriors g front ++ mapInteriors g back :=
  List.map_append

@[simp] theorem mapInteriors_ofText (content : Text) :
    mapInteriors g (ofText content) = ofText content := by
  cases content <;> rfl

theorem mapInteriors_mapInteriors (h : RegionKind → Text → Text) :
    mapInteriors h (mapInteriors g page) =
      mapInteriors (fun kind body => h kind (g kind body)) page := by
  rw [mapInteriors, mapInteriors, mapInteriors, List.map_map]
  refine List.map_congr_left fun segment _ => ?_
  cases segment <;> rfl

theorem mapInteriors_congr {h : RegionKind → Text → Text}
    (heq : ∀ kind body, .region kind body ∈ page → g kind body = h kind body) :
    mapInteriors g page = mapInteriors h page := by
  refine List.map_congr_left fun segment hmem => ?_
  cases segment with
  | text content => rfl
  | region kind body => exact congrArg (Segment.region kind) (heq kind body hmem)

theorem mapInteriors_eq_self (heq : ∀ kind body, .region kind body ∈ page → g kind body = body) :
    mapInteriors g page = page := by
  rw [mapInteriors_congr (h := fun _ body => body) heq]
  exact (List.map_congr_left fun segment _ => by cases segment <;> rfl).trans (List.map_id page)

@[simp] theorem outline_mapInteriors : outline (mapInteriors g page) = outline page := by
  induction page with
  | nil => rfl
  | cons segment page ih => cases segment <;> simp [ih]

@[simp] theorem text_mem_mapInteriors : .text content ∈ mapInteriors g page ↔
    .text content ∈ page := by
  induction page with
  | nil => simp
  | cons segment page ih => cases segment <;> simp [ih]

theorem region_mem_mapInteriors : .region kind body ∈ mapInteriors g page ↔
    ∃ old, .region kind old ∈ page ∧ body = g kind old := by
  induction page with
  | nil => simp
  | cons segment page ih =>
    cases segment with
    | text content => simp [ih]
    | region k old =>
      simp only [mapInteriors_cons_region, List.mem_cons, Segment.region.injEq, ih]
      constructor
      · rintro (⟨rfl, rfl⟩ | ⟨inner, hmem, rfl⟩)
        · exact ⟨old, Or.inl ⟨rfl, rfl⟩, rfl⟩
        · exact ⟨inner, Or.inr hmem, rfl⟩
      · rintro ⟨inner, ⟨rfl, rfl⟩ | hmem, rfl⟩
        · exact Or.inl ⟨rfl, rfl⟩
        · exact Or.inr ⟨inner, hmem, rfl⟩

theorem isText_head?_mapInteriors (h : ∀ segment ∈ page.head?, segment.isText = false) :
    ∀ segment ∈ (mapInteriors g page).head?, segment.isText = false := by
  cases page with
  | nil => simp
  | cons segment page =>
    cases segment with
    | text content => exact absurd (h _ rfl) (by simp [Segment.isText])
    | region kind body => simp [Segment.isText]

theorem HasTextsApart.mapInteriors (h : HasTextsApart page) :
    HasTextsApart (mapInteriors g page) := by
  induction page with
  | nil => exact h
  | cons segment page ih =>
    cases segment with
    | text content =>
      obtain ⟨hne, hhead, hpage⟩ := hasTextsApart_cons_text.1 h
      exact hasTextsApart_cons_text.2 ⟨hne, isText_head?_mapInteriors hhead, ih hpage⟩
    | region kind body =>
      exact hasTextsApart_cons_region.2 (ih (hasTextsApart_cons_region.1 h))

theorem joinText_mapInteriors (content : Text) (page : Page) :
    joinText content (mapInteriors g page) = mapInteriors g (joinText content page) := by
  cases page with
  | nil => simp [joinText]
  | cons segment page => cases segment <;> simp [joinText]

theorem join_mapInteriors (page : Page) :
    join (mapInteriors g page) = mapInteriors g (join page) := by
  induction page with
  | nil => rfl
  | cons segment page ih =>
    cases segment with
    | text content => rw [mapInteriors_cons_text, join, ih, join, joinText_mapInteriors]
    | region kind body => rw [mapInteriors_cons_region, join, ih, join, mapInteriors_cons_region]

/-! ### Which regions a page has -/

theorem hasRegion_iff : page.hasRegion kind = true ↔ ∃ body, .region kind body ∈ page := by
  rw [hasRegion]
  induction page with
  | nil => simp [region?]
  | cons segment page ih =>
    cases segment with
    | text content => simpa [region?] using ih
    | region k body =>
      by_cases hk : k = kind
      · subst hk
        simp only [region?, ↓reduceIte, Option.isSome_some, true_iff]
        exact ⟨body, List.mem_cons_self⟩
      · simp [region?, hk, ih, Ne.symm hk]

theorem not_region_mem (h : page.hasRegion kind = false) (body : Text) :
    .region kind body ∉ page := by
  intro hmem
  rw [hasRegion_iff.2 ⟨body, hmem⟩] at h
  exact absurd h (by decide)

@[simp] theorem hasRegion_mapInteriors : (mapInteriors g page).hasRegion kind =
    page.hasRegion kind := by
  rw [Bool.eq_iff_iff, hasRegion_iff, hasRegion_iff]
  simp [region_mem_mapInteriors]

theorem hasRegion_join : (join page).hasRegion kind = page.hasRegion kind := by
  rw [Bool.eq_iff_iff, hasRegion_iff, hasRegion_iff]
  simp

theorem setRegions_eq_mapInteriors (kind : RegionKind) (body : Text) (page : Page) :
    page.setRegions kind body = mapInteriors (fun k old => if k = kind then body else old) page :=
  rfl

theorem setRegions_of_not_hasRegion (h : page.hasRegion kind = false) :
    page.setRegions kind body = page := by
  refine mapInteriors_eq_self fun k old hmem => if_neg ?_
  rintro rfl
  exact not_region_mem h old hmem

/-! ### Filling the regions -/

/-- The page with a prescribed interior in every region. -/
def fill (bodies : RegionKind → Text) (page : Page) : Page :=
  mapInteriors (fun kind _ => bodies kind) page

theorem fill_eq_self_iff {bodies : RegionKind → Text} :
    fill bodies page = page ↔ ∀ kind body, .region kind body ∈ page → body = bodies kind := by
  constructor
  · intro h kind body hmem
    rw [← h, fill, region_mem_mapInteriors] at hmem
    obtain ⟨-, -, hbody⟩ := hmem
    exact hbody
  · exact fun h => mapInteriors_eq_self fun kind body hmem => (h kind body hmem).symm

theorem fill_mapInteriors (bodies : RegionKind → Text) (page : Page) :
    fill bodies (mapInteriors g page) = fill bodies page :=
  mapInteriors_mapInteriors _

end Page

/-! ### Places -/

/-- The place in the page with the interior of every region changed. -/
def Place.mapInteriors (g : RegionKind → Text → Text) (place : Place) : Place :=
  { place with
    before := Page.mapInteriors g place.before
    after := Page.mapInteriors g place.after }

namespace Page

variable {g : RegionKind → Text → Text}

theorem mapInteriors_insert (place : Place) (inserted : Page) :
    mapInteriors g (place.insert inserted) =
      (place.mapInteriors g).insert (mapInteriors g inserted) := by
  simp [Place.insert, Place.mapInteriors]

theorem firstPlace?_mapInteriors (tag : Text) (page : Page) :
    firstPlace? tag (mapInteriors g page) =
      (firstPlace? tag page).map (Place.mapInteriors g) := by
  induction page with
  | nil => rfl
  | cons segment page ih =>
    cases segment with
    | region kind body =>
      rw [mapInteriors_cons_region, firstPlace?, firstPlace?, ih, Option.map_map, Option.map_map]
      rfl
    | text content =>
      rw [mapInteriors_cons_text, firstPlace?, firstPlace?]
      cases splitFirst? tag content with
      | some cut => rfl
      | none =>
        simp only [ih, Option.map_map]
        rfl

theorem lastPlace?_mapInteriors (tag : Text) (page : Page) :
    lastPlace? tag (mapInteriors g page) =
      (lastPlace? tag page).map (Place.mapInteriors g) := by
  induction page with
  | nil => rfl
  | cons segment page ih =>
    cases segment with
    | region kind body =>
      rw [mapInteriors_cons_region, lastPlace?, lastPlace?, ih, Option.map_map, Option.map_map]
      rfl
    | text content =>
      rw [mapInteriors_cons_text, lastPlace?, lastPlace?, ih]
      cases lastPlace? tag page with
      | some place => rfl
      | none =>
        simp only [Option.map_none, Option.map_map]
        rfl

end Page

/-- The interior that the fragments prescribe for the regions of a kind. -/
def PageFragments.body (fragments : PageFragments) : RegionKind → Text
  | .nav => ownLines fragments.nav
  | .cookieConsent => cookieBody fragments.cookieConsent
  | .sharedScripts => ownLines fragments.scripts

end SiteWeave
