import SiteWeave.Page.Segment

/-!
# Places in the text of a page

An insertion goes to a place in a text segment, in front of an occurrence of some tag. The interiors
of regions belong to the build and are not searched.

## Main definitions

* `Place`: a position inside a text segment, as what stands on both sides of it.
* `Page.firstPlace?`, `Page.lastPlace?`: the place of the first and of the last occurrence of a tag
  outside the regions.
* `Place.insert`: the page with segments inserted at a place.

## Main results

* `Page.eq_page_of_firstPlace?`, `Page.eq_page_of_lastPlace?`: a place that was found is a place of
  the page.
* `Place.render_insert`: an insertion adds its text at the place and nothing else.
-/

namespace SiteWeave

/-- A position inside a text segment. -/
structure Place where
  /-- The segments in front of the text segment. -/
  before : Page
  /-- The text of the segment in front of the position. -/
  left : Text
  /-- The text of the segment behind the position. -/
  right : Text
  /-- The segments behind the text segment. -/
  after : Page

namespace Place

/-- The page that the place belongs to. -/
def page (place : Place) : Page :=
  place.before ++ .text (place.left ++ place.right) :: place.after

/-- The place one segment further back in a longer page. -/
def behind (segment : Segment) (place : Place) : Place :=
  { place with before := segment :: place.before }

/-- The page with segments inserted at the place; a side of the split text that is empty leaves no
segment. -/
def insert (place : Place) (inserted : Page) : Page :=
  place.before ++ Page.ofText place.left ++ inserted ++ Page.ofText place.right ++ place.after

theorem render_insert (place : Place) (inserted : Page) :
    Page.render (place.insert inserted) =
      Page.render place.before ++ place.left ++ Page.render inserted ++ place.right ++
        Page.render place.after := by
  simp [insert]

end Place

namespace Page

/-- The place in front of the first occurrence of a tag outside the regions. -/
def firstPlace? (tag : Text) : Page → Option Place
  | [] => none
  | .region kind body :: page => (firstPlace? tag page).map (Place.behind (.region kind body))
  | .text content :: page =>
    match Text.splitFirst? tag content with
    | some (left, rest) => some ⟨[], left, tag ++ rest, page⟩
    | none => (firstPlace? tag page).map (Place.behind (.text content))

/-- The place in front of the last occurrence of a tag outside the regions. -/
def lastPlace? (tag : Text) : Page → Option Place
  | [] => none
  | .region kind body :: page => (lastPlace? tag page).map (Place.behind (.region kind body))
  | .text content :: page =>
    match lastPlace? tag page with
    | some place => some (place.behind (.text content))
    | none => (Text.splitLast? tag content).map fun (left, rest) => ⟨[], left, tag ++ rest, page⟩

theorem eq_page_of_firstPlace? {tag : Text} {page : Page} {place : Place}
    (h : firstPlace? tag page = some place) : place.page = page := by
  induction page generalizing place with
  | nil => simp [firstPlace?] at h
  | cons segment page ih =>
    cases segment with
    | region kind body =>
      obtain ⟨inner, hinner, rfl⟩ := Option.map_eq_some_iff.1 h
      simpa [Place.page, Place.behind] using ih hinner
    | text content =>
      simp only [firstPlace?] at h
      split at h
      · next left rest hsplit =>
        obtain rfl := by simpa using h
        simp [Place.page, Text.eq_append_of_splitFirst? hsplit]
      · obtain ⟨inner, hinner, rfl⟩ := Option.map_eq_some_iff.1 h
        simpa [Place.page, Place.behind] using ih hinner

theorem eq_page_of_lastPlace? {tag : Text} {page : Page} {place : Place}
    (h : lastPlace? tag page = some place) : place.page = page := by
  induction page generalizing place with
  | nil => simp [lastPlace?] at h
  | cons segment page ih =>
    cases segment with
    | region kind body =>
      obtain ⟨inner, hinner, rfl⟩ := Option.map_eq_some_iff.1 h
      simpa [Place.page, Place.behind] using ih hinner
    | text content =>
      simp only [lastPlace?] at h
      split at h
      · next inner hinner =>
        obtain rfl := by simpa using h
        simpa [Place.page, Place.behind] using ih hinner
      · obtain ⟨⟨left, rest⟩, hsplit, rfl⟩ := Option.map_eq_some_iff.1 h
        simp [Place.page, Text.eq_append_of_splitLast? hsplit]

end Page

end SiteWeave
