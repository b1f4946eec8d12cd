import Mathlib.Data.List.Perm.Basic
import SiteWeave.Proofs.Build.PagesRun

/-!
# The order of pages

No two pages of a site are one file, and each of them ends as it ends alone. So the pages can be
dealt with in any order: what is said of each page, the file tree that is left and the summary are
the same.

## Main results

* `Build.PagesRun.eq_of_perm`: the file tree that is left does not depend on the order.
* `Build.PagesEnd.eq_of_perm`: neither does what is said of the pages.
* `Build.mapM_processPage_perm`: pages are independent of each other.
-/

namespace SiteWeave

open BuildM FileTree

instance : RightCommutative BuildSummary.add where
  right_comm summary status other := by cases status <;> cases other <;> rfl

namespace Build

variable {build : Build} {paths order : List String} {tree last : FileTree}
  {statuses : List PageStatus} {result : Except BuildError (List PageStatus)}

/-- The order of the pages does not matter for the file tree. -/
theorem PagesRun.eq_of_perm {statuses' : List PageStatus} {last' : FileTree}
    (h : PagesRun build tree paths statuses last) (h' : PagesRun build tree order statuses' last')
    (hapart : paths.Pairwise (build.AreApart tree)) (hperm : order.Perm paths) : last = last' := by
  have hapart' := hapart.perm hperm.symm AreApart.symm
  refine h.isRewrite.eq_of_at?_eq h'.isRewrite fun found => ?_
  by_cases hfound : ∃ path ∈ paths, tree.resolve (build.place path) = .ok found
  · obtain ⟨path, hmem, hplace⟩ := hfound
    have hsame := (h.sameAt_pageTree hapart hmem).symm.trans
      (h'.sameAt_pageTree hapart' (hperm.mem_iff.2 hmem))
    exact hsame.entry_eq found (h.isRewrite.resolve_eq _ _ ▸ hplace)
  · rw [h.at?_eq fun path hmem hplace => hfound ⟨path, hmem, hplace⟩,
      h'.at?_eq fun path hmem hplace => hfound ⟨path, hperm.subset hmem, hplace⟩]

/-- If the pages of a site can be dealt with in one order, then any order ends the same way. -/
theorem PagesEnd.eq_of_perm (h : PagesRun build tree paths statuses last)
    (hapart : paths.Pairwise (build.AreApart tree)) (hperm : order.Perm paths) {next : FileTree}
    (hend : PagesEnd build tree order result next) {status : String → PageStatus}
    (hstatus : ∀ path ∈ paths, build.pageResult tree path = .ok (status path)) :
    result = .ok (order.map status) ∧ next = last := by
  have hapart' := hapart.perm hperm.symm AreApart.symm
  cases hend with
  | finished statuses' next hrun =>
    obtain ⟨status', rfl, hstatus'⟩ := hrun.exists_eq_map hapart'
    refine ⟨congrArg _ (List.map_congr_left fun path hmem => ?_),
      (h.eq_of_perm hrun hapart hperm).symm⟩
    exact Except.ok.inj ((hstatus' path hmem).symm.trans (hstatus path (hperm.subset hmem)))
  | stopped front path back statuses' mid error next hrun hpage =>
    have hfails := (hrun.failsAt hapart' hpage).path_error
    simp [hstatus path (hperm.subset (by simp))] at hfails

/-- **Pages are independent of each other.** If the pages of a site can be dealt with in one order,
then in any order the same is said of each page, every file is left with the same bytes, and the
summary is that of the build. -/
theorem mapM_processPage_perm {session after : Session} {pages first : List String}
    {statuses : List PageStatus} (hpages : resultOn build.pages session.tree = .ok pages)
    (hfirst : first.Perm pages)
    (hrun : runFrom (first.mapM build.processPage) session = (.ok statuses, after)) :
    ∃ (status : String → PageStatus) (summary : BuildSummary), statuses = first.map status ∧
      (∃ last, runFrom build.run session = (.ok summary, last) ∧ last.tree = after.tree) ∧
      ∀ order : List String, order.Perm pages →
        (order.map status).foldl BuildSummary.add {} = summary ∧
        (∃ last, runFrom (order.mapM build.processPage) session = (.ok (order.map status), last) ∧
          last.tree = after.tree) ∧
        ∃ last, runFrom (build.processPages {} order) session = (.ok summary, last) ∧
          last.tree = after.tree := by
  have hapart := (pairwise_pages hpages).perm hfirst.symm AreApart.symm
  have hend := pagesEnd_mapM build first session
  rw [hrun] at hend
  have hfinished := hend.run_of_ok
  obtain ⟨status, rfl, hstatus⟩ := hfinished.exists_eq_map hapart
  have hfold {order : List String} (hperm : order.Perm pages) :
      (order.map status).foldl BuildSummary.add {} =
        (pages.map status).foldl BuildSummary.add {} :=
    (hperm.map status).foldl_eq _
  have hany {order : List String} (hperm : order.Perm pages)
      {result : Except BuildError (List PageStatus)} {next : FileTree}
      (hend : PagesEnd build session.tree order result next) :
      result = .ok (order.map status) ∧ next = after.tree :=
    hend.eq_of_perm hfinished hapart (hperm.trans hfirst.symm) hstatus
  refine ⟨status, (pages.map status).foldl BuildSummary.add {}, rfl, ?_, fun order hperm =>
    ⟨hfold hperm, ?_, ?_⟩⟩
  · obtain ⟨result, hresult, hend⟩ := pagesEnd_run hpages
    obtain ⟨rfl, htree⟩ := hany (.refl pages) hend
    exact ⟨_, Prod.ext hresult rfl, htree⟩
  · obtain ⟨hresult, htree⟩ := hany hperm (pagesEnd_mapM build order session)
    exact ⟨_, Prod.ext hresult rfl, htree⟩
  · obtain ⟨result, hresult, hend⟩ := pagesEnd_processPages build {} order session
    obtain ⟨rfl, htree⟩ := hany hperm hend
    rw [← hfold hperm]
    exact ⟨_, Prod.ext hresult rfl, htree⟩

/-! ### A sample site -/

/-- A site with two pages to weave and one that is no text. -/
def sampleSite : FileTree where
  entries :=
    [([Bytes.ofString "_src"], .directory),
      ([Bytes.ofString "_src", Bytes.ofString "_data"], .directory),
      ([Bytes.ofString "_src", Bytes.ofString "_data", Bytes.ofString "posts.json"],
        .file "[]".toUTF8),
      ([Bytes.ofString "_src", Bytes.ofString "_data", Bytes.ofString "site.json"],
        .file (String.join ["\x7b\x22name\x22:\x22\x22,\x22title\x22:\x22\x22,",
          "\x22description\x22:\x22\x22,\x22url\x22:\x22\x22,\x22author\x22:\x22\x22\x7d"]).toUTF8),
      ([Bytes.ofString "_src", Bytes.ofString "_includes"], .directory),
      ([Bytes.ofString "_src", Bytes.ofString "_includes", Bytes.ofString "nav.html"],
        .file "<nav>".toUTF8),
      ([Bytes.ofString "a.html"], .file "<!-- SITE_NAV --><!-- /SITE_NAV -->".toUTF8),
      ([Bytes.ofString "b.html"], .file "<!-- SITE_NAV -->\n<!-- /SITE_NAV -->".toUTF8),
      ([Bytes.ofString "c.html"], .file ⟨#[0xFF]⟩)]
  distinct := by decide +kernel

/-- The directory that the site stands in. -/
def sampleRoot : RawPath := Bytes.ofString "."

/-- The pages of the site. -/
def samplePages : List String := ["a.html", "b.html", "c.html"]

/-- The files of the pages. -/
def sampleFiles : List FoundFile :=
  samplePages.map fun path =>
    ⟨sampleRoot.join (Bytes.ofString path), [Bytes.ofString path]⟩

theorem walk_sampleSite : sampleSite.walk enters sampleRoot = sampleFiles.map .ok := by
  have hnames : sampleSite.sortedNames [] sampleRoot = .ok
      [Bytes.ofString "_src", Bytes.ofString "a.html", Bytes.ofString "b.html",
        Bytes.ofString "c.html"] :=
    sortedNames_of_pairwise (by decide +kernel) (by decide +kernel) (by decide +kernel)
  have hresolve : sampleSite.resolve sampleRoot .entry = .ok [] := by decide +kernel
  rw [walk, hresolve]
  change findBelow sampleSite enters (sampleSite.entries.length + 1) [] sampleRoot [] = _
  rw [findBelow_succ, hnames]
  decide +kernel

/-- The site opens, and all its pages can be dealt with. -/
theorem exists_load_sampleSite : ∃ build, resultOn (load sampleRoot) sampleSite = .ok build ∧
    resultOn build.pages sampleSite = .ok samplePages ∧
    ∃ after, runFrom (samplePages.mapM build.processPage) { tree := sampleSite } =
      (.ok [.updated, .updated, .unreadable], after) := by
  have hload : (resultOn (load sampleRoot) sampleSite).toOption.any fun build =>
      build.root = sampleRoot ∧
        sampleFiles.filterMap (fun file => (build.pagePath? file).1) = samplePages ∧
        (resultOn (samplePages.mapM build.processPage) sampleSite).toOption =
          some [.updated, .updated, .unreadable] := by
    decide +kernel
  have hvalue {α : Type} {result : Except BuildError α} {value : α}
      (h : result.toOption = some value) : result = .ok value := by
    cases result <;> simp_all [Except.toOption]
  obtain ⟨build, hbuild, hall⟩ := (Option.any_eq_true _ _).1 hload
  obtain ⟨hroot, hfiles, hrun⟩ := of_decide_eq_true hall
  exact ⟨build, hvalue hbuild, pages_eq_ok_iff.2 ⟨sampleFiles, hroot ▸ walk_sampleSite, hfiles.symm⟩,
    _, Prod.ext (hvalue hrun) rfl⟩

/-- The pages of the site in the opposite order. -/
theorem mapM_processPage_perm_sampleSite : ∃ (build : Build) (after last : Session),
    resultOn build.pages sampleSite = .ok samplePages ∧
    runFrom (samplePages.mapM build.processPage) { tree := sampleSite } =
      (.ok [.updated, .updated, .unreadable], after) ∧
    runFrom (samplePages.reverse.mapM build.processPage) { tree := sampleSite } =
      (.ok [.unreadable, .updated, .updated], last) ∧
    last.tree = after.tree := by
  obtain ⟨build, -, hpages, after, hrun⟩ := exists_load_sampleSite
  obtain ⟨status, summary, hstatus, -, horder⟩ :=
    @mapM_processPage_perm build { tree := sampleSite } after samplePages samplePages _ hpages
      (.refl samplePages) hrun
  obtain ⟨-, ⟨last, hlast, htree⟩, -⟩ := horder samplePages.reverse (List.reverse_perm samplePages)
  refine ⟨build, after, last, hpages, hrun, ?_, htree⟩
  rw [hlast, List.map_reverse, ← hstatus]
  rfl

end Build

end SiteWeave
