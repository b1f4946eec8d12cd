import SiteWeave.Proofs.BlogIndex.Woven
import SiteWeave.Proofs.Build.PageStep

/-!
# Rebuilding the index page

The index page is written by two rewriters, one after the other: the fragments are woven in, and the
index is spliced into what that gives. Both look for their own markup in the same text. If the woven
page has room for the index, a second build finds the page as it should be and does not write it.

## Main results

* `Build.newText_indexPath`: the new text of the index page.
* `Build.rebuild_indexPath`: a second build leaves the index page alone.
-/

namespace SiteWeave

open Text BuildM

namespace Build

variable {build : Build} {index : BlogIndex} {block : BlogIndex.Block} {grid : BlogIndex.Grid}

/-- The index page has the index spliced into the woven page. -/
theorem newText_indexPath (hindex : build.blogIndex = some index) (source : Text) :
    build.newText indexPath (String.ofList source) =
      String.ofList (index.splice (weave source (build.pageFragments indexPath)).1).1 := by
  simp only [newText, weavePage, if_true, hindex, String.toList_ofList]

/-- **A second build leaves the index page alone.** Let no text of the posts hold an opening
bracket, and the generated markup no guard of a run. If the woven page has all its fragments and
room for the index, then building it again gives the same text; and a build whose first run over the
page succeeds finds it unchanged in a second run. -/
theorem rebuild_indexPath {source : Text} {f : PageFragments} {posts : List Post}
    (hposts : ∀ post ∈ posts, post.IsPlain) (hindex : BlogIndex.generate posts = .ok index)
    (hguards : index.IsUnguarded) (hhost : BlogIndex.IsHost f (weave source f).1 block grid) :
    (index.splice (weave (index.splice (weave source f).1).1 f).1).1 =
        (index.splice (weave source f).1).1 ∧
      ∀ (build : Build) (session after : Session) (status : PageStatus),
        build.blogIndex = some index → build.pageFragments indexPath = f →
        session.tree.readText (build.place indexPath) = .ok (String.ofList source) →
        runFrom (build.processPage indexPath) session = (.ok status, after) →
          ∃ last, runFrom (build.processPage indexPath) after = (.ok .unchanged, last) ∧
            last.tree = after.tree := by
  have hsame := hhost.splice_weave_splice (BlogIndex.isPlain_of_generate hposts hindex) hguards
  refine ⟨hsame, fun build session after status hbuild hfragments hread hrun => ?_⟩
  refine exists_unchanged_of_newText hread ?_ hrun
  rw [newText_indexPath hbuild, newText_indexPath hbuild, hfragments, hsame]

/-! ### A sample site -/

open BlogIndex

theorem toList_intercalate_of_forall₂ {lines : List String} {texts : List Text}
    (h : List.Forall₂ (fun line text => line.toList = text) lines texts) :
    (String.intercalate "\n" lines).toList = List.intercalate ['\n'] texts := by
  have hmap : lines.map String.toList = texts := by
    induction h with
    | nil => rfl
    | cons hline _ ih => rw [List.map_cons, hline, ih]
  rw [String.toList_intercalate, hmap]
  rfl

theorem not_isInfix_of_toList_eq {markup : String} {text : Text} (heq : markup.toList = text)
    (hnot : ∀ guard ∈ runGuards, ¬ guard <:+: text) :
    ∀ guard ∈ runGuards, ¬ guard <:+: markup.toList := by
  rwa [heq]

theorem isUnguarded_sampleIndex : sampleIndex.IsUnguarded := by
  have hpalette : samplePost.palette = Palette.ofColour "gold" := rfl
  constructor
  on_goal 1 => unfold sampleIndex Post.featuredBlock
  on_goal 2 => unfold sampleIndex Post.card
  all_goals
    unfold Post.articleTag Post.badge Post.dateTag Post.titleLink
    rw [hpalette, Palette.ofColour]
    apply not_isInfix_of_toList_eq
    · -- The text is put together from those of the literals, so that none has to be decoded.
      repeat' with_reducible first
        | apply toList_intercalate_of_forall₂
        | apply List.Forall₂.cons
        | apply String.toList_append.trans (congrArg₂ (· ++ ·) _ _)
      any_goals exact String.toList_ofList
      all_goals exact List.Forall₂.nil
    · decide +kernel

/-- An index page with an empty navigation. -/
def unwovenPage : Text :=
  "<!-- SITE_NAV --><!-- /SITE_NAV -->".toList ++ builtPage

/-- The navigation of the site in its region. -/
def wovenNav : Text :=
  "<!-- SITE_NAV -->\n<nav>\n<!-- /SITE_NAV -->".toList

/-- The fragments of the site. -/
def indexFragments : PageFragments where
  nav := "<nav>".toList
  footerLinks := []
  cookieConsent := []
  scripts := []

/-- The pieces of the woven page around its featured block. -/
def wovenBlock : Block :=
  { builtBlock with front := wovenNav }

/-- The pieces of the woven page around the interior of its grid. -/
def wovenGrid : Grid :=
  { builtGrid with front := wovenNav ++ builtGrid.front }

theorem isHost_unwovenPage :
    IsHost indexFragments (weave unwovenPage indexFragments).1 wovenBlock wovenGrid := by
  have hwoven : (weave unwovenPage indexFragments).1 = wovenNav ++ builtPage := by decide +kernel
  have hparse : Page.parse (wovenNav ++ builtPage) =
      [.region .nav "\n<nav>\n".toList, .text builtPage] := by decide +kernel
  rw [hwoven]
  have hbuilt := areApart_builtPage
  constructor
  · decide +kernel
  · rw [hparse]
    intro kind body hmem
    simp only [List.mem_cons, List.not_mem_nil, or_false, reduceCtorEq,
      Segment.region.injEq] at hmem
    obtain ⟨rfl, rfl⟩ := hmem
    decide +kernel
  · exact ⟨⟨by decide +kernel, hbuilt.block_isFirst.isBlank, hbuilt.block_isFirst.length_le⟩,
      congrArg (wovenNav ++ ·) hbuilt.block_text, hbuilt.grid_isFirst.withFront (by decide +kernel),
      (List.append_assoc _ _ _).trans (congrArg (wovenNav ++ ·) hbuilt.grid_text),
      by decide +kernel⟩
  · refine ⟨⟨[.region .nav "\n<nav>\n".toList], [], builtBlock.behind, []⟩, ?_, by decide +kernel⟩
    rw [hparse, ← hbuilt.block_text]
    rfl
  · refine ⟨⟨[.region .nav "\n<nav>\n".toList], builtGrid.front, [], []⟩, ?_, by decide +kernel⟩
    rw [hparse, ← hbuilt.grid_text, Grid.text_eq]
    rfl
  · exact ⟨fun kind => by cases kind <;> decide +kernel, by decide +kernel⟩
  · exact ⟨fun kind => by cases kind <;> decide +kernel, by decide +kernel⟩

/-- A build of the site. -/
def indexBuild : Build where
  root := []
  settings := {}
  excluded := []
  data := ⟨⟨"N", "T", "D", "u", "A", []⟩, [samplePost]⟩
  fragments := ⟨[(Fragments.navName, "<nav>")]⟩
  blogIndex := some sampleIndex

/-- A session with the index page in its directory. -/
def indexSession : Session where
  tree :=
    { entries := [([Bytes.ofString "blog"], .directory),
        ([Bytes.ofString "blog", Bytes.ofString "index.html"],
          .file (String.ofList unwovenPage).toUTF8)] }

/-- The site is built twice. -/
theorem rebuild_indexPath_unwovenPage :
    (∀ post ∈ [samplePost], post.IsPlain) ∧ generate [samplePost] = .ok sampleIndex ∧
      ∃ status after last,
        runFrom (indexBuild.processPage indexPath) indexSession = (.ok status, after) ∧
          runFrom (indexBuild.processPage indexPath) after = (.ok .unchanged, last) ∧
            last.tree = after.tree := by
  have hposts : ∀ post ∈ [samplePost], post.IsPlain := by simpa using isPlain_samplePost
  have hresolve : indexSession.tree.resolve (indexBuild.place indexPath) =
      .ok [Bytes.ofString "blog", Bytes.ofString "index.html"] := by decide +kernel
  have hat : indexSession.tree.at? [Bytes.ofString "blog", Bytes.ofString "index.html"] =
      some (.file (String.ofList unwovenPage).toUTF8) := by
    simp [indexSession, FileTree.at?, FileTree.find?]
  have hread : indexSession.tree.readText (indexBuild.place indexPath) =
      .ok (String.ofList unwovenPage) :=
    FileTree.readText_eq_ok_iff.2 (FileTree.readFile_eq_ok_iff.2 ⟨_, hresolve, rfl, hat⟩)
  obtain ⟨status, after, hrun⟩ := exists_ok_of_writable hread fun content =>
    ⟨_, (FileTree.writeFile_eq_ok_iff hresolve hat).2 ⟨rfl, rfl⟩⟩
  have hfragments : indexBuild.pageFragments indexPath = indexFragments := by decide +kernel
  obtain ⟨-, hrebuild⟩ :=
    rebuild_indexPath hposts rfl isUnguarded_sampleIndex isHost_unwovenPage
  obtain ⟨last, hlast, htree⟩ :=
    hrebuild indexBuild indexSession after status rfl hfragments hread hrun
  exact ⟨hposts, rfl, status, after, last, hrun, hlast, htree⟩

end Build

end SiteWeave
