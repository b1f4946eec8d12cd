import SiteWeave.Proofs.Page.Run

/-!
# Banners between their own markers

A cookie banner may be written with the markers of its region around it. The interior of a region is
then the same as without them, so that a page takes both forms alike, with one exception: whether
there is a banner at all is asked of the text that is written and not of the interior that it gives.
Markers around nothing count as a banner, and a page that a blank banner leaves alone gets an empty
region from them, or is reported to lack the end of its body.

## Main definitions

* `betweenMarkers`: a banner between the markers of its region, with blanks on both sides.

## Main results

* `cookieBody_betweenMarkers`: both forms give the same interior.
* `Page.weaveCookieConsent_betweenMarkers`, `Page.weaveCookieConsent_betweenMarkers_snd_ne`: the
  step for the banner takes both alike, but for a blank banner.
* `weave_betweenMarkers_eq_iff`: when a run takes both alike.
-/

namespace SiteWeave

open Text

namespace Text

variable {front inner back ending : Text}

/-- Trimming takes the blanks from both sides of a text that begins and ends without one. -/
theorem trim_append_append {c d : Char} (hc : isBlank c = false) (hd : isBlank d = false)
    (hfront : ∀ b ∈ front, isBlank b = true) (hback : ∀ b ∈ back, isBlank b = true) :
    trim (front ++ (c :: (inner ++ [d])) ++ back) = c :: (inner ++ [d]) := by
  have hstart : trimStart (front ++ (c :: (inner ++ [d])) ++ back) = c :: (inner ++ [d]) ++ back := by
    rw [trimStart, List.append_assoc, List.dropWhile_append_of_pos hfront, List.cons_append,
      List.dropWhile_cons_of_neg (by simp [hc])]
  have hreverse : (c :: (inner ++ [d]) ++ back).reverse =
      back.reverse ++ (d :: (inner.reverse ++ [c])) := by simp
  rw [trim, hstart, trimEnd, hreverse,
    List.dropWhile_append_of_pos fun b hb => hback b (List.mem_reverse.1 hb),
    List.dropWhile_cons_of_neg (by simp [hd])]
  simp

theorem stripSuffix?_append (ending inner : Text) :
    stripSuffix? ending (inner ++ ending) = some inner := by
  have hreverse : ending.reverse.isPrefixOf? (inner ++ ending).reverse = some inner.reverse :=
    isPrefixOf?_eq_some_iff.2 List.reverse_append
  rw [stripSuffix?, hreverse, Option.map_some, List.reverse_reverse]

end Text

variable {front banner back : Text}

/-! ### The interior -/

/-- A banner between the markers of its region, with blanks on both sides. -/
def betweenMarkers (front banner back : Text) : Text :=
  front ++ (RegionKind.cookieConsent.beginMarker ++ banner ++ RegionKind.cookieConsent.endMarker) ++
    back

theorem trim_betweenMarkers (banner : Text) (hfront : ∀ c ∈ front, isBlank c = true)
    (hback : ∀ c ∈ back, isBlank c = true) : trim (betweenMarkers front banner back) =
      RegionKind.cookieConsent.beginMarker ++ banner ++ RegionKind.cookieConsent.endMarker := by
  obtain ⟨opening, hbegin⟩ := RegionKind.cookieConsent.exists_beginMarker_eq
  obtain ⟨closing, hend⟩ := RegionKind.cookieConsent.exists_endMarker_eq_append
  have hshape : RegionKind.cookieConsent.beginMarker ++ banner ++
      RegionKind.cookieConsent.endMarker = '<' :: (opening ++ banner ++ closing ++ ['>']) := by
    simp [hbegin, hend]
  rw [betweenMarkers, hshape]
  exact trim_append_append (by decide) (by decide) hfront hback

theorem trim_betweenMarkers_ne_nil (banner : Text) (hfront : ∀ c ∈ front, isBlank c = true)
    (hback : ∀ c ∈ back, isBlank c = true) : trim (betweenMarkers front banner back) ≠ [] := by
  rw [trim_betweenMarkers banner hfront hback, List.append_assoc]
  exact List.append_ne_nil_of_left_ne_nil RegionKind.cookieConsent.isToken_beginMarker.ne_nil _

theorem cookieBody_betweenMarkers (banner : Text) (hfront : ∀ c ∈ front, isBlank c = true)
    (hback : ∀ c ∈ back, isBlank c = true) :
    cookieBody (betweenMarkers front banner back) = ownLines banner.trim := by
  have hbegin : RegionKind.cookieConsent.beginMarker.isPrefixOf?
      (RegionKind.cookieConsent.beginMarker ++ banner ++ RegionKind.cookieConsent.endMarker) =
        some (banner ++ RegionKind.cookieConsent.endMarker) :=
    isPrefixOf?_eq_some_iff.2 (List.append_assoc _ _ _)
  simp only [cookieBody, trim_betweenMarkers banner hfront hback, hbegin, Option.bind_some,
    stripSuffix?_append]

theorem cookieBody_of_isMarkerFree (h : banner.IsMarkerFree) :
    cookieBody banner = ownLines banner.trim := by
  have hbegin : RegionKind.cookieConsent.beginMarker.isPrefixOf? banner.trim = none :=
    isPrefixOf?_eq_none_iff.2 fun hbegins =>
      (h .cookieConsent).1 (hbegins.isInfix.trans (trim_isInfix banner))
  simp only [cookieBody, hbegin, Option.bind_none]

/-! ### The step -/

namespace Page

variable {page : Page}

/-- A banner that is not blank counts by the interior that it gives alone. -/
theorem weaveCookieConsent_congr {other : Text} (hbody : cookieBody banner = cookieBody other)
    (hbanner : banner.trim ≠ []) (hother : other.trim ≠ []) :
    page.weaveCookieConsent banner = page.weaveCookieConsent other := by
  have hempty {text : Text} (h : text.trim ≠ []) : text.trim.isEmpty = false :=
    Bool.eq_false_iff.2 fun hnil => h (List.isEmpty_iff.1 hnil)
  simp only [weaveCookieConsent, hbody, hempty hbanner, hempty hother]

/-- A page with a cookie region or with a banner takes both forms alike, and so does every page
unless the banner is blank. -/
theorem weaveCookieConsent_betweenMarkers (hfront : ∀ c ∈ front, isBlank c = true)
    (hback : ∀ c ∈ back, isBlank c = true) (hfree : banner.IsMarkerFree)
    (h : banner.trim ≠ [] ∨ page.hasRegion .cookieConsent = true ∨
      page.contains cookieConsentId = true) :
    page.weaveCookieConsent (betweenMarkers front banner back) =
      page.weaveCookieConsent banner := by
  have hbody : cookieBody (betweenMarkers front banner back) = cookieBody banner := by
    rw [cookieBody_betweenMarkers banner hfront hback, cookieBody_of_isMarkerFree hfree]
  rcases h with hblank | hregion | hguard
  · exact weaveCookieConsent_congr hbody (trim_betweenMarkers_ne_nil banner hfront hback) hblank
  · simp only [weaveCookieConsent, hregion, hbody, ↓reduceIte]
  · simp only [weaveCookieConsent, hbody, hguard, ↓reduceIte]

/-- Otherwise the blank banner is skipped as such, and the markers around it are not. -/
theorem weaveCookieConsent_betweenMarkers_snd_ne (hfront : ∀ c ∈ front, isBlank c = true)
    (hback : ∀ c ∈ back, isBlank c = true) (hblank : banner.trim = [])
    (hregion : page.hasRegion .cookieConsent ≠ true)
    (hguard : page.contains cookieConsentId ≠ true) :
    (page.weaveCookieConsent (betweenMarkers front banner back)).2 ≠
      (page.weaveCookieConsent banner).2 := by
  have hmarkers := trim_betweenMarkers_ne_nil banner hfront hback
  have hskips : (page.weaveCookieConsent banner).2 = .skipped .emptyFragment := by
    simp [weaveCookieConsent, hregion, hguard, hblank]
  rw [hskips]
  simp only [weaveCookieConsent, hregion, hguard, List.isEmpty_iff, hmarkers, ↓reduceIte]
  cases page.firstPlace? bodyClose with
  | none => simp
  | some place => simp

end Page

/-! ### A run -/

/-- Apart from the step for the banner, a run takes nothing from the banner. -/
theorem weave_congr_of_weaveCookieConsent {source other : Text} {f : PageFragments}
    (h : ((Page.parse source).withLinks f).weaveCookieConsent banner =
      ((Page.parse source).withLinks f).weaveCookieConsent other) :
    weave source { f with cookieConsent := banner } =
      weave source { f with cookieConsent := other } := by
  have hrun (text : Text) : weave source { f with cookieConsent := text } =
      (fun step : Page × Outcome => ((step.1.weaveScripts f.scripts).1.render,
        ⟨((Page.parse source).weaveNav f.nav).2,
          (((Page.parse source).withNav f).weaveFooterLinks f.footerLinks).2, step.2,
          (step.1.weaveScripts f.scripts).2⟩))
        (((Page.parse source).withLinks f).weaveCookieConsent text) := rfl
  rw [hrun banner, hrun other, h]

/-- **Banners between their own markers.** Let a banner hold no marker. Set between the markers of
its region, with blanks on both sides, it gives the same page and the same report as without them,
exactly when it is not blank, or the page has a cookie region, or the page with the footer links
holds a banner already. -/
theorem weave_betweenMarkers_eq_iff (source : Text) (f : PageFragments) {front banner back : Text}
    (hfront : ∀ c ∈ front, isBlank c = true) (hback : ∀ c ∈ back, isBlank c = true)
    (hfree : banner.IsMarkerFree) :
    weave source { f with cookieConsent := betweenMarkers front banner back } =
        weave source { f with cookieConsent := banner } ↔
      banner.trim ≠ [] ∨ (Page.parse source).hasRegion .cookieConsent = true ∨
        ((Page.parse source).withLinks f).contains cookieConsentId = true := by
  have hrun := Page.isRun_weaveAll f (Page.isCanonical_parse source).toHasTextsApart
  have hregion : ((Page.parse source).withLinks f).hasRegion .cookieConsent =
      (Page.parse source).hasRegion .cookieConsent := by
    rw [hrun.footerLinks.hasRegion_eq, hrun.nav.hasRegion_of_ne (by decide)]
  rw [← hregion]
  constructor
  · intro hsame
    by_contra hnot
    push Not at hnot
    obtain ⟨hblank, hnone, hguard⟩ := hnot
    exact Page.weaveCookieConsent_betweenMarkers_snd_ne hfront hback hblank hnone hguard
      (congrArg (fun run => run.2.cookieConsent) hsame)
  · exact fun h =>
      weave_congr_of_weaveCookieConsent (Page.weaveCookieConsent_betweenMarkers hfront hback hfree h)

/-- A page without a cookie region. -/
def bareBody : Text := "</body>".toList

/-- Around a banner that is not blank, the markers are nothing but the markers of its region. -/
theorem weave_betweenMarkers_eq_bareBody :
    (∀ c ∈ " \n".toList, isBlank c = true) ∧ (∀ c ∈ "\t".toList, isBlank c = true) ∧
      Text.IsMarkerFree " ok\n".toList ∧
        weave bareBody { cookieConsent := betweenMarkers " \n".toList " ok\n".toList "\t".toList } =
          weave bareBody { cookieConsent := " ok\n".toList } := by
  have hfront : ∀ c ∈ " \n".toList, isBlank c = true := List.all_eq_true.1 rfl
  have hback : ∀ c ∈ "\t".toList, isBlank c = true := List.all_eq_true.1 rfl
  have hfree : Text.IsMarkerFree " ok\n".toList := by decide
  exact ⟨hfront, hback, hfree,
    (weave_betweenMarkers_eq_iff bareBody {} hfront hback hfree).2 (Or.inl (by decide))⟩

/-- Markers around nothing put a region into a page that a blank banner leaves alone. -/
theorem not_weave_betweenMarkers_eq :
    ¬ ∀ (source : Text) (f : PageFragments) (front banner back : Text),
      (∀ c ∈ front, isBlank c = true) → (∀ c ∈ back, isBlank c = true) → banner.IsMarkerFree →
        weave source { f with cookieConsent := betweenMarkers front banner back } =
          weave source { f with cookieConsent := banner } := by
  intro h
  have hsame := h bareBody {} [] [] [] (by simp) (by simp) (by decide)
  exact absurd hsame (by decide +kernel)

end SiteWeave
