import SiteWeave.Proofs.Page.Reading
import SiteWeave.Proofs.Page.Rebuild

/-!
# Text that is kept over many runs

One run only adds text outside the regions. The next run reads the page anew, and text that stood
outside the regions may then be read as the interior of one, and be overwritten. This happens to the
text between a begin marker that had no end marker and a region of its kind that the run inserts
behind it, and it happens nowhere else.

## Main definitions

* `KeepsText`: what a run leaves outside the regions is outside the regions for the next run.
* `weaveEach`: runs one behind the other, each over the text that the last one wrote.
* `OfEarlierRuns`: a property of every run that another one follows.

## Main results

* `keepsText_iff_not_captures`: a run keeps text for the next one exactly when it captures nothing.
* `plainText_sublist_weaveEach`: text outside the regions is read as such by the next run exactly
  when nothing is captured, and is then kept over all runs.
-/

namespace SiteWeave

open Text

variable {source : Text} {f : PageFragments} {P Q : Text → PageFragments → Prop}

/-! ### One run and the next -/

/-- What the run leaves outside the regions is outside the regions for the next run. -/
def KeepsText (source : Text) (f : PageFragments) : Prop :=
  ((Page.parse source).weaveAll f).1.plainText.Sublist (Page.parse (weave source f).1).plainText

theorem keepsText_iff_not_captures (hfree : f.IsMarkerFree) :
    KeepsText source f ↔ ¬ Captures source f := by
  rw [← isInert_weaveAll_iff hfree]
  exact Page.plainText_sublist_parse_render_iff (hasFreeBodies_weaveAll source hfree)

/-- A run takes away nothing outside the regions. -/
theorem plainText_sublist_weaveAll (source : Text) (f : PageFragments) :
    (Page.parse source).plainText.Sublist ((Page.parse source).weaveAll f).1.plainText := by
  have hpage := (Page.isCanonical_parse source).toHasTextsApart
  exact (Page.isRun_weaveAll f hpage).isExtension.plainText_sublist

/-! ### Many runs -/

/-- The text after runs with the fragments, each over the text that the last one wrote. -/
def weaveEach (source : Text) (runs : List PageFragments) : Text :=
  runs.foldl (fun page f => (weave page f).1) source

/-- The property holds of every run that another one follows, with the text that it starts from. -/
def OfEarlierRuns (P : Text → PageFragments → Prop) : Text → List PageFragments → Prop
  | source, f :: g :: runs => P source f ∧ OfEarlierRuns P (weave source f).1 (g :: runs)
  | _, _ => True

theorem ofEarlierRuns_congr : (source : Text) → (runs : List PageFragments) →
    (∀ source, ∀ f ∈ runs, P source f ↔ Q source f) →
      (OfEarlierRuns P source runs ↔ OfEarlierRuns Q source runs)
  | _, [], _ => Iff.rfl
  | _, [_], _ => Iff.rfl
  | source, f :: g :: runs, h => by
    have hrest := ofEarlierRuns_congr (weave source f).1 (g :: runs)
      fun text next hmem => h text next (List.mem_cons_of_mem _ hmem)
    exact and_congr (h source f List.mem_cons_self) hrest

/-- Text that every run keeps for the next one is there in the end. -/
theorem plainText_sublist_of_keepsText : (source : Text) → (runs : List PageFragments) →
    OfEarlierRuns KeepsText source runs →
      (Page.parse source).plainText.Sublist (weaveEach source runs)
  | source, [], _ => by
    have hrender := Page.plainText_sublist_render (Page.parse source)
    rwa [Page.render_parse] at hrender
  | source, [f], _ =>
    (plainText_sublist_weaveAll source f).trans (Page.plainText_sublist_render _)
  | source, f :: g :: runs, ⟨hkeeps, hrest⟩ =>
    ((plainText_sublist_weaveAll source f).trans hkeeps).trans
      (plainText_sublist_of_keepsText (weave source f).1 (g :: runs) hrest)

/-- Where no text holds a begin marker of an insertable region, no run captures anything. -/
theorem ofEarlierRuns_not_captures : (source : Text) → (runs : List PageFragments) →
    (∀ f ∈ runs, f.IsMarkerFree) → (Page.parse source).HasNoStrayMarker →
      OfEarlierRuns (fun text f => ¬ Captures text f) source runs
  | _, [], _, _ => trivial
  | _, [_], _, _ => trivial
  | source, f :: g :: runs, hfree, hstray => by
    have hf : f.IsMarkerFree := hfree f List.mem_cons_self
    refine ⟨not_captures hf hstray, ?_⟩
    exact ofEarlierRuns_not_captures (weave source f).1 (g :: runs)
      (fun next hmem => hfree next (List.mem_cons_of_mem _ hmem))
      (hasNoStrayMarker_parse_weave hf hstray)

/-- **Text outside the regions is kept unless it is captured.** Over runs with fragments without
markers, every run leaves the text outside the regions for the next run to read as such, exactly
when no run but the last inserts a region behind a begin marker of its kind. Then the text that was
outside the regions of the first page is there in the end, in order. No run does so over a page
whose texts hold no begin marker of an insertable region. -/
theorem plainText_sublist_weaveEach (source : Text) (runs : List PageFragments)
    (hfree : ∀ f ∈ runs, f.IsMarkerFree) :
    (OfEarlierRuns KeepsText source runs ↔
        OfEarlierRuns (fun text f => ¬ Captures text f) source runs) ∧
      (OfEarlierRuns (fun text f => ¬ Captures text f) source runs →
        (Page.parse source).plainText.Sublist (weaveEach source runs)) ∧
      ((Page.parse source).HasNoStrayMarker →
        OfEarlierRuns (fun text f => ¬ Captures text f) source runs) := by
  have hiff : OfEarlierRuns KeepsText source runs ↔
      OfEarlierRuns (fun text f => ¬ Captures text f) source runs :=
    ofEarlierRuns_congr source runs fun _ f hmem => keepsText_iff_not_captures (hfree f hmem)
  exact ⟨hiff, fun hquiet => plainText_sublist_of_keepsText source runs (hiff.2 hquiet),
    ofEarlierRuns_not_captures source runs hfree⟩

/-- A banner for the cookie regions, and footer links that bring their guard. -/
def sampleBanner : PageFragments where
  footerLinks := "<a id=\"cookie-settings-btn\">".toList
  cookieConsent := "X".toList

theorem isMarkerFree_sampleBanner : sampleBanner.IsMarkerFree :=
  ⟨by decide, by decide, by decide, by decide⟩

/-- A begin marker behind the end of the body captures nothing. -/
theorem plainText_sublist_weaveEach_behindBody :
    (Page.parse "hello</body><!-- COOKIE_CONSENT -->".toList).plainText.Sublist
      (weaveEach "hello</body><!-- COOKIE_CONSENT -->".toList [sampleBanner, sampleBanner]) := by
  have hfree : ∀ f ∈ [sampleBanner, sampleBanner], f.IsMarkerFree := by
    simp [isMarkerFree_sampleBanner]
  exact (plainText_sublist_weaveEach _ [sampleBanner, sampleBanner] hfree).2.1
    ⟨(parse_weave_eq_join_iff isMarkerFree_sampleBanner).1 (by decide +kernel), trivial⟩

/-- A begin marker in front of the end of the body captures the text behind it, and the second run
overwrites the text. -/
theorem not_plainText_sublist_weaveEach :
    ¬ ∀ (source : Text) (runs : List PageFragments), (∀ f ∈ runs, f.IsMarkerFree) →
      (Page.parse source).plainText.Sublist (weaveEach source runs) := by
  intro h
  have hlost : ¬ (Page.parse "<!-- COOKIE_CONSENT -->hello</body>".toList).plainText.Sublist
      (weaveEach "<!-- COOKIE_CONSENT -->hello</body>".toList [sampleBanner, sampleBanner]) := by
    decide +kernel
  exact hlost (h _ [sampleBanner, sampleBanner] (by simp [isMarkerFree_sampleBanner]))

end SiteWeave
