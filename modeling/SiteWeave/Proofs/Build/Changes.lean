import SiteWeave.Proofs.Build.Opening
import SiteWeave.Proofs.Build.Order

/-!
# What a build changes

A build changes pages only: nothing is made or removed, and every file that is no page keeps its
bytes, however the build ends. The sources are among these files, as are all files below directories
that are kept out and all files that a pattern excludes. If the build succeeds, its summary counts
the pages that have other bytes than before, and those that are no texts.

## Main definitions

* `Build.LeavesAlone`: what a build leaves alone.
* `Build.Counts`: what a summary has to say of the pages.

## Main results

* `BuildSummary.updated_foldl_add`, `BuildSummary.skipped_foldl_add`, `BuildSummary.total_foldl_add`:
  what a summary counts.
* `Build.PagesEnd.leavesAlone`: a run over pages leaves everything else alone.
* `Build.PagesRun.counts`: the summary of a run over pages.
* `Build.changes_of_run`: a build changes its pages only, and counts them.
-/

namespace SiteWeave

open BuildM FileTree

/-- Whether a page is skipped. -/
def PageStatus.isSkipped : PageStatus → Bool
  | updated | unchanged => false
  | notFound | unreadable => true

namespace BuildSummary

variable (summary : BuildSummary) (statuses : List PageStatus)

/-- The number of pages that were counted. -/
def total : Nat :=
  summary.updated + summary.unchanged + summary.skipped

theorem updated_foldl_add : (statuses.foldl add summary).updated =
    summary.updated + statuses.countP (· = .updated) := by
  induction statuses generalizing summary with
  | nil => simp
  | cons status statuses ih =>
    rw [List.foldl_cons, ih, List.countP_cons]
    cases status with
    | updated => simp only [add, decide_true, if_true]; omega
    | unchanged | notFound | unreadable => simp [add]

theorem skipped_foldl_add : (statuses.foldl add summary).skipped =
    summary.skipped + statuses.countP PageStatus.isSkipped := by
  induction statuses generalizing summary with
  | nil => simp
  | cons status statuses ih =>
    rw [List.foldl_cons, ih, List.countP_cons]
    cases status with
    | updated | unchanged => simp [add, PageStatus.isSkipped]
    | notFound | unreadable => simp only [add, PageStatus.isSkipped, if_true]; omega

theorem total_foldl_add : (statuses.foldl add summary).total = summary.total + statuses.length := by
  induction statuses generalizing summary with
  | nil => simp
  | cons status statuses ih =>
    rw [List.foldl_cons, ih, List.length_cons]
    cases status <;> simp only [add, total] <;> omega

end BuildSummary

namespace Build

variable {build : Build} {root : RawPath} {start session after : Session} {pages : List String}
  {path : String} {tree last : FileTree} {result : Except BuildError (List PageStatus)}
  {statuses : List PageStatus}

/-- What a build leaves alone that deals with some pages. -/
structure LeavesAlone (build : Build) (pages : List String) (before after : FileTree) : Prop
    extends IsRewrite before after where
  /-- Every file that is none of the pages. -/
  others : ∀ place, (∀ path ∈ pages, before.resolve (build.place path) ≠ .ok place) →
    after.at? place = before.at? place
  /-- Everything below a directory that is kept out, like that of the sources. -/
  keptOut : ∀ top, before.resolve build.root = .ok top → ∀ (front : Path) (name : Name) (back : Path),
    IsPrivate name → back ≠ [] →
      after.at? (top ++ (front ++ name :: back)) = before.at? (top ++ (front ++ name :: back))
  /-- Every file whose path below the root is excluded. -/
  excluded : ∀ top, before.resolve build.root = .ok top → ∀ path : RawPath,
    Glob.anyMatch build.excluded path →
      after.at? (top ++ RawPath.components path) = before.at? (top ++ RawPath.components path)
  /-- Every page that is no text. -/
  noText : ∀ path ∈ pages, ∀ content, before.entryAt? (build.place path) = some (.file content) →
    String.fromUTF8? content = none →
      after.entryAt? (build.place path) = some (.file content)

/-- What a summary has to say of the pages that a build dealt with. -/
structure Counts (build : Build) (pages : List String) (before after : FileTree)
    (summary : BuildSummary) : Prop where
  updated_eq : summary.updated = pages.countP fun path =>
    after.entryAt? (build.place path) ≠ before.entryAt? (build.place path)
  skipped_eq : summary.skipped = pages.countP fun path =>
    before.readText (build.place path) ∈ [.error .notFound, .error .notText]
  /-- A page that is no text is among those that are skipped. -/
  noText : ∀ path ∈ pages, ∀ content, before.entryAt? (build.place path) = some (.file content) →
    String.fromUTF8? content = none →
      before.readText (build.place path) ∈ [.error .notFound, .error .notText]
  total_eq : summary.total = pages.length

theorem readText_ne_ok {path : RawPath} {content : ByteArray}
    (hentry : tree.entryAt? path = some (.file content)) (hnot : String.fromUTF8? content = none)
    (source : String) : tree.readText path ≠ .ok source := by
  intro hread
  rw [readText_eq_ok_iff] at hread
  rw [entryAt?_of_readFile hread] at hentry
  rw [← Entry.file.inj (Option.some.inj hentry), Bytes.fromUTF8?_eq_some_iff.2 rfl] at hnot
  simp at hnot

/-- **A run over the pages of a site leaves everything else alone.** -/
theorem PagesEnd.leavesAlone (h : PagesEnd build tree pages result last)
    (hpages : resultOn build.pages tree = .ok pages) : build.LeavesAlone pages tree last := by
  have hapart := pairwise_pages hpages
  refine ⟨h.isRewrite, fun place => h.at?_eq, fun top htop front name back hname hback => ?_,
    fun top htop path hexcluded => ?_, fun path hmem content hentry hnot => ?_⟩
  · exact h.at?_eq fun path hmem =>
      resolve_place_ne_private hpages hmem htop hname front hback
  · exact h.at?_eq fun page hmem =>
      resolve_place_ne_excluded hpages hmem htop hexcluded
  · rcases h.sameAt_or hapart hmem with hsame | hsame
    · rw [← hsame.entryAt?_eq, hentry]
    · have hstep : PageStep build path tree (build.pageResult tree path) (build.pageTree tree path) :=
        pageStep_iff.2 ⟨rfl, rfl⟩
      rw [← hsame.entryAt?_eq, hstep.eq_of_not_text (readText_ne_ok hentry hnot), hentry]

/-- **The summary of a run over the pages of a site** counts them. -/
theorem PagesRun.counts (h : PagesRun build tree pages statuses last)
    (hpages : resultOn build.pages tree = .ok pages) :
    build.Counts pages tree last (statuses.foldl BuildSummary.add {}) := by
  have hapart := pairwise_pages hpages
  obtain ⟨status, rfl, hstatus⟩ := h.exists_eq_map hapart
  have hstep (path : String) (hmem : path ∈ pages) :
      PageStep build path tree (.ok (status path)) (build.pageTree tree path) :=
    pageStep_iff.2 ⟨hstatus path hmem, rfl⟩
  refine ⟨?_, ?_, fun path hmem content hentry hnot => ?_, ?_⟩
  · rw [BuildSummary.updated_foldl_add, Nat.zero_add, List.countP_map]
    refine List.countP_congr fun path hmem => ?_
    rw [← (h.sameAt_pageTree hapart hmem).entryAt?_eq]
    simpa using (hstep path hmem).entryAt?_ne_iff.symm
  · rw [BuildSummary.skipped_foldl_add, Nat.zero_add, List.countP_map]
    refine List.countP_congr fun path hmem => ?_
    rw [decide_eq_true_eq, (hstep path hmem).readText_mem_iff, Function.comp_apply]
    cases status path <;> simp [PageStatus.isSkipped]
  · obtain hskipped | ⟨source, hread⟩ := (hstep path hmem).readText_mem_or
    · exact hskipped
    · exact absurd hread (readText_ne_ok hentry hnot source)
  · simpa [BuildSummary.total] using BuildSummary.total_foldl_add {} (pages.map status)

/-- **A build changes its pages only, and counts them.** If the pages cannot be found, nothing is
changed. Otherwise, however the build ends, it makes and removes nothing and leaves every file alone
that is none of its pages; and if it succeeds, its summary says which pages have other bytes than
before and which are no texts. -/
theorem changes_of_run {result : Except BuildError BuildSummary}
    (hload : runFrom (load root) start = (.ok build, session))
    (hrun : runFrom build.run session = (result, after)) :
    (∀ error, resultOn build.pages start.tree = .error error →
      result = .error error ∧ after.tree = start.tree) ∧
    ∀ pages, resultOn build.pages start.tree = .ok pages →
      build.LeavesAlone pages start.tree after.tree ∧
        ∀ summary, result = .ok summary → build.Counts pages start.tree after.tree summary := by
  have htree := (reads_load root).tree_eq start
  rw [hload] at htree
  rw [← show session.tree = start.tree from htree]
  refine ⟨fun error herror => ?_, fun pages hpages => ?_⟩
  · have hnone := run_of_pages_error herror
    rw [hrun] at hnone
    exact hnone
  · obtain ⟨ended, hresult, hend⟩ := pagesEnd_run hpages
    rw [hrun] at hend
    rw [hrun] at hresult
    refine ⟨hend.leavesAlone hpages, ?_⟩
    rintro summary rfl
    obtain _ | statuses := ended
    · simp [Except.map] at hresult
    · obtain rfl : summary = statuses.foldl BuildSummary.add {} := Except.ok.inj hresult
      exact hend.run_of_ok.counts hpages

/-- The sample site is built: two of its pages are updated, and one is skipped. -/
theorem changes_of_run_sampleSite : ∃ (build : Build) (session after : Session)
    (summary : BuildSummary),
    runFrom (load sampleRoot) { tree := sampleSite } = (.ok build, session) ∧
    runFrom build.run session = (.ok summary, after) ∧
    build.LeavesAlone samplePages sampleSite after.tree ∧
    build.Counts samplePages sampleSite after.tree summary ∧
    summary = { updated := 2, unchanged := 0, skipped := 1 } := by
  obtain ⟨build, hload, hpages, after, hrun⟩ := exists_load_sampleSite
  rcases hopen : runFrom (load sampleRoot) { tree := sampleSite } with ⟨loaded, session⟩
  obtain rfl : loaded = .ok build := (congrArg Prod.fst hopen).symm.trans hload
  have htree : session.tree = sampleSite := by
    have hread := (reads_load sampleRoot).tree_eq { tree := sampleSite }
    rwa [hopen] at hread
  obtain ⟨result, hresult, hend⟩ := pagesEnd_run (htree ▸ hpages)
  have hmap := pagesEnd_mapM build samplePages { tree := sampleSite }
  rw [hrun] at hmap
  rw [htree] at hend
  have hfinished := hmap.run_of_ok
  have hapart := pairwise_pages hpages
  obtain ⟨status, hstatuses, hstatus⟩ := hfinished.exists_eq_map hapart
  obtain ⟨rfl, -⟩ := hend.eq_of_perm hfinished hapart (.refl samplePages) hstatus
  rw [← hstatuses] at hresult
  obtain ⟨-, hchanges⟩ := changes_of_run hopen (Prod.ext hresult rfl)
  obtain ⟨halone, hcounts⟩ := hchanges samplePages hpages
  exact ⟨build, session, _, _, rfl, Prod.ext hresult rfl, halone, hcounts _ rfl, rfl⟩

end Build

end SiteWeave
