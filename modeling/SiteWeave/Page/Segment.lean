import SiteWeave.Text.Search

/-!
# Pages as segments

A page is text with regions that belong to the build. A region of some kind stands between the two
marker comments of the kind; everything else is opaque text. A page is read from left to right: the
next region is the one whose begin marker comes first among the begin markers that have an end
marker of the same kind somewhere behind them, and it ends at the first such end marker.

## Main definitions

* `RegionKind`: the kinds of regions, with their markers.
* `Segment`: a stretch of text, or a region with its interior.
* `Page`: the segments of a page in order.
* `Page.parse`, `Page.render`: a page from its text and back.
* `Page.region?`, `Page.contains`: the first region of a kind, and the occurrence of a text.

## Main results

* `Page.render_append`, `Page.render_ofText`: rendering piece by piece.
* `Page.render_parse`: reading a page loses nothing.
-/

namespace SiteWeave

/-- The kinds of regions. -/
inductive RegionKind where
  | nav
  | cookieConsent
  | sharedScripts
deriving DecidableEq, Repr

namespace RegionKind

/-- All kinds of regions. -/
def all : List RegionKind := [nav, cookieConsent, sharedScripts]

/-- The comment in front of a region. -/
def beginMarker : RegionKind → Text
  | nav => "<!-- SITE_NAV -->".toList
  | cookieConsent => "<!-- COOKIE_CONSENT -->".toList
  | sharedScripts => "<!-- SHARED_SCRIPTS -->".toList

/-- The comment behind a region. -/
def endMarker : RegionKind → Text
  | nav => "<!-- /SITE_NAV -->".toList
  | cookieConsent => "<!-- /COOKIE_CONSENT -->".toList
  | sharedScripts => "<!-- /SHARED_SCRIPTS -->".toList

end RegionKind

/-- A piece of a page. -/
inductive Segment where
  /-- Text that does not belong to the build. -/
  | text (content : Text)
  /-- A region with the text between its markers. -/
  | region (kind : RegionKind) (body : Text)
deriving DecidableEq, Repr

namespace Segment

/-- The text of a segment, with the markers of a region. -/
def render : Segment → Text
  | text content => content
  | region kind body => kind.beginMarker ++ body ++ kind.endMarker

/-- The text of a segment, without the markers of a region. -/
def interior : Segment → Text
  | text content => content
  | region _ body => body

end Segment

/-- The segments of a page in order. -/
abbrev Page := List Segment

/-- A region in a text, with the text on both sides. -/
structure RegionMatch where
  /-- The text in front of the begin marker. -/
  before : Text
  /-- The kind of the region. -/
  kind : RegionKind
  /-- The text between the markers. -/
  body : Text
  /-- The text behind the end marker. -/
  after : Text

/-- The first region of a kind: the first begin marker with the first end marker behind it. -/
def RegionKind.match? (kind : RegionKind) (text : Text) : Option RegionMatch :=
  match Text.splitFirst? kind.beginMarker text with
  | none => none
  | some (before, rest) =>
    match Text.splitFirst? kind.endMarker rest with
    | none => none
    | some (body, after) => some ⟨before, kind, body, after⟩

/-- The match that begins first; of two that begin together, the one named first. -/
def RegionMatch.earlier? : Option RegionMatch → Option RegionMatch → Option RegionMatch
  | some a, some b => if b.before.length < a.before.length then some b else some a
  | some a, none => some a
  | none, other => other

/-- The region that begins first in a text. -/
def RegionMatch.next? (text : Text) : Option RegionMatch :=
  (RegionKind.all.map fun kind => kind.match? text).foldr earlier? none

theorem RegionKind.eq_of_match? {kind : RegionKind} {text : Text} {m : RegionMatch}
    (h : kind.match? text = some m) :
    text = m.before ++ (Segment.region m.kind m.body).render ++ m.after := by
  unfold RegionKind.match? at h
  split at h
  · simp at h
  · next before rest hbegin =>
    split at h
    · simp at h
    · next body after hend =>
      obtain rfl := by simpa using h
      rw [Text.eq_append_of_splitFirst? hbegin, Text.eq_append_of_splitFirst? hend]
      simp [Segment.render]

theorem RegionMatch.eq_or_eq_of_earlier? {a b : Option RegionMatch} {m : RegionMatch}
    (h : earlier? a b = some m) : a = some m ∨ b = some m := by
  unfold earlier? at h
  split at h
  · split at h
    · exact .inr h
    · exact .inl h
  · exact .inl h
  · exact .inr h

theorem RegionMatch.exists_of_next? {text : Text} {m : RegionMatch} (h : next? text = some m) :
    ∃ kind : RegionKind, kind.match? text = some m := by
  simp only [next?, RegionKind.all, List.map_cons, List.map_nil, List.foldr_cons,
    List.foldr_nil] at h
  rcases eq_or_eq_of_earlier? h with h | h
  · exact ⟨_, h⟩
  · rcases eq_or_eq_of_earlier? h with h | h
    · exact ⟨_, h⟩
    · rcases eq_or_eq_of_earlier? h with h | h
      · exact ⟨_, h⟩
      · simp at h

theorem RegionMatch.eq_of_next? {text : Text} {m : RegionMatch} (h : next? text = some m) :
    text = m.before ++ (Segment.region m.kind m.body).render ++ m.after := by
  obtain ⟨kind, hkind⟩ := exists_of_next? h
  exact RegionKind.eq_of_match? hkind

theorem RegionMatch.length_lt_of_next? {text : Text} {m : RegionMatch} (h : next? text = some m) :
    m.after.length < text.length := by
  have hlen := congrArg List.length (eq_of_next? h)
  have hmarker : 0 < m.kind.beginMarker.length := by cases m.kind <;> decide
  simp only [List.length_append, Segment.render] at hlen
  omega

namespace Page

/-- A page of text alone; an empty text has no segment. -/
def ofText (text : Text) : Page :=
  if text.isEmpty then [] else [.text text]

/-- The segments of a text. A begin marker without an end marker of its kind behind it is text. -/
def parse (source : Text) : Page :=
  match _h : RegionMatch.next? source with
  | none => ofText source
  | some m => ofText m.before ++ .region m.kind m.body :: parse m.after
termination_by source.length
decreasing_by exact RegionMatch.length_lt_of_next? _h

/-- The text of a page. -/
def render (page : Page) : Text :=
  page.flatMap Segment.render

/-- The interior of the first region of a kind. -/
def region? (kind : RegionKind) : Page → Option Text
  | [] => none
  | .text _ :: page => region? kind page
  | .region k body :: page => if k = kind then some body else region? kind page

/-- Whether a page has a region of a kind. -/
def hasRegion (kind : RegionKind) (page : Page) : Bool :=
  (page.region? kind).isSome

/-- Whether a text occurs in some segment, the interiors of regions included. -/
def contains (needle : Text) (page : Page) : Bool :=
  page.any fun segment => Text.contains needle segment.interior

/-- The page with a new interior for every region of a kind. -/
def setRegions (kind : RegionKind) (body : Text) (page : Page) : Page :=
  page.map fun
    | .text content => .text content
    | .region k old => .region k (if k = kind then body else old)

/-! ### Rendering piece by piece -/

@[simp] theorem render_nil : render [] = [] := rfl

@[simp] theorem render_cons (segment : Segment) (page : Page) :
    render (segment :: page) = segment.render ++ render page := by
  simp [render]

@[simp] theorem render_append (front back : Page) :
    render (front ++ back) = render front ++ render back := by
  simp [render]

@[simp] theorem render_ofText (text : Text) : render (ofText text) = text := by
  cases text <;> simp [ofText, Segment.render]

/-- Reading a page loses nothing. -/
theorem render_parse (source : Text) : render (parse source) = source := by
  fun_induction parse source with
  | case1 => simp
  | case2 source m h ih =>
    simp only [render_append, render_ofText, render_cons, ih]
    rw [RegionMatch.eq_of_next? h, List.append_assoc]

end Page

end SiteWeave
