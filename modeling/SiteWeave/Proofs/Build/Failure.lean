import SiteWeave.Proofs.Build.Opening
import SiteWeave.Proofs.Build.Order

/-!
# Builds that fail

A build that does not open fails with the error of the first stage that fails and leaves the file
tree as it was. A build that opens fails at the first page that fails; the pages in front of it hold
what they would hold if it did not fail, and the others what they held before.

## Main definitions

* `Build.StopsAt`: what a build leaves that stops at a page.

## Main results

* `Build.buildSite_of_firstError`: a build that does not open.
* `Build.pagesEnd_buildSite`: a build that opens deals with its pages.
* `Build.PagesEnd.stopsAt`: a build that stops at a page.
* `Build.buildSite_failure`: what a build that fails gives and leaves.
-/

namespace SiteWeave

open BuildM FileTree

namespace Build

variable {build : Build} {root : RawPath} {start : Session} {pages front back : List String}
  {path other : String} {error : BuildError} {tree last : FileTree}
  {result : Except BuildError (List PageStatus)}

/-! ### The whole build -/

/-- A build whose sources cannot be loaded does nothing. -/
theorem buildSite_of_load_error (hload : resultOn (load root) start.tree = .error error) :
    (runFrom (buildSite root) start).1 = .error error ∧
      (runFrom (buildSite root) start).2.tree = start.tree := by
  obtain ⟨opened, hopened, hsay⟩ := (reads_say "Building site...\n\n").exists_runFrom_bind rfl
  obtain ⟨after, htree, hrun⟩ := (reads_load root).toResultOn.exists_runFrom_bind_error
    (hopened ▸ hload)
  rw [buildSite, hsay, hrun]
  exact ⟨rfl, htree.trans hopened⟩

/-- A build whose sources are loaded is run. -/
theorem exists_run_buildSite (hload : resultOn (load root) start.tree = .ok build) :
    ∃ session : Session, session.tree = start.tree ∧
      (runFrom (buildSite root) start).1 = (runFrom build.run session).1 ∧
      (runFrom (buildSite root) start).2.tree = (runFrom build.run session).2.tree := by
  obtain ⟨opened, hopened, hsay⟩ := (reads_say "Building site...\n\n").exists_runFrom_bind rfl
  obtain ⟨session, htree, hrun⟩ := (reads_load root).toResultOn.exists_runFrom_bind
    (hopened ▸ hload)
  refine ⟨session, htree.trans hopened, ?_⟩
  rw [buildSite, hsay, hrun]
  simp only [runFrom_bind, runFrom_say]
  rcases runFrom build.run session with ⟨_ | summary, after⟩ <;> exact ⟨rfl, rfl⟩

/-- **A build that does not open** gives the error of the first stage that fails, and does
nothing. -/
theorem buildSite_of_firstError (hfirst : firstError? start.tree root = some error) :
    (runFrom (buildSite root) start).1 = .error error ∧
      (runFrom (buildSite root) start).2.tree = start.tree := by
  rw [firstError?_eq] at hfirst
  cases hload : resultOn (load root) start.tree with
  | error cause =>
    obtain rfl : cause = error := by simpa [hload, error?, Except.bind] using hfirst
    exact buildSite_of_load_error hload
  | ok build =>
    obtain ⟨session, htree, hresult, hafter⟩ := exists_run_buildSite hload
    cases hfound : resultOn build.pages start.tree with
    | error cause =>
      obtain rfl : cause = error := by simpa [hload, hfound, error?, Except.bind] using hfirst
      obtain ⟨herror, hsame⟩ := run_of_pages_error (htree ▸ hfound)
      exact ⟨hresult.trans herror, hafter.trans (hsame.trans htree)⟩
    | ok pages => simp [hload, hfound, error?, Except.bind] at hfirst

/-- **A build that opens** deals with its pages. -/
theorem pagesEnd_buildSite (hload : resultOn (load root) start.tree = .ok build)
    (hpages : resultOn build.pages start.tree = .ok pages) :
    ∃ result, (runFrom (buildSite root) start).1 = result.map (List.foldl BuildSummary.add {}) ∧
      PagesEnd build start.tree pages result (runFrom (buildSite root) start).2.tree := by
  obtain ⟨session, htree, hresult, hafter⟩ := exists_run_buildSite hload
  obtain ⟨result, hrun, hend⟩ := pagesEnd_run (htree ▸ hpages)
  exact ⟨result, hresult.trans hrun, by rwa [hafter, ← htree]⟩

/-! ### A build that stops at a page -/

/-- What a build leaves that stops at a page. -/
structure StopsAt (build : Build) (start : FileTree) (front : List String) (path : String)
    (back : List String) (after : FileTree) : Prop where
  /-- The pages behind it hold what they held before. -/
  behind : ∀ other ∈ back,
    after.entryAt? (build.place other) = start.entryAt? (build.place other)
  /-- So does the page itself, if a failed write changes nothing. -/
  failed : (∀ place, start.resolve (build.place path) = .ok place →
      find? place start.torn = none) →
    after.entryAt? (build.place path) = start.entryAt? (build.place path)
  /-- The pages in front of it hold what they hold after they were dealt with alone. -/
  alone : ∀ other ∈ front, after.entryAt? (build.place other) =
    (build.pageTree start other).entryAt? (build.place other)
  /-- They hold what a build leaves in them that can read and write the page. -/
  mended : ∀ place, start.resolve (build.place path) = .ok place → ∀ other ∈ front,
    after.entryAt? (build.place other) =
      (runFrom (buildSite build.root) { tree := start.mend place }).2.tree.entryAt?
        (build.place other)

/-- Mending a tree at one page makes no difference for another. -/
theorem AreApart.sameAt_mend {place : Path} (h : build.AreApart tree path other)
    (hplace : tree.resolve (build.place path) = .ok place) :
    SameAt tree (tree.mend place) (build.place other) :=
  FileTree.sameAt_mend tree (h place hplace)

/-- **A build that stops at a page** leaves the file tree as it is said. -/
theorem PagesEnd.stopsAt (h : PagesEnd build tree (front ++ path :: back) result last)
    (hload : resultOn (load build.root) tree = .ok build)
    (hpages : resultOn build.pages tree = .ok (front ++ path :: back))
    (hfails : build.FailsAt tree front path error) : build.StopsAt tree front path back last := by
  have hapart := pairwise_pages hpages
  obtain ⟨-, statuses, mid, hrun, hpage⟩ := h.exists_of_failsAt hapart hfails
  obtain ⟨hfront, hfailed, hback⟩ := hrun.sameAt_of_stop hapart hpage
  refine ⟨fun other hmem => (hback other hmem).entryAt?_eq.symm, fun htorn => ?_,
    fun other hmem => (hfront other hmem).entryAt?_eq.symm, fun place hplace other hmem => ?_⟩
  · have halone : PageStep build path tree (.error error) (build.pageTree tree path) :=
      pageStep_iff.2 ⟨hfails.path_error, rfl⟩
    rw [halone.eq_of_ne_updated (by simp) htorn] at hfailed
    exact hfailed.entryAt?_eq.symm
  · -- The mended tree is opened alike, and its pages in front are dealt with alike.
    have hmended := isMended_mend tree place
    obtain ⟨result', -, hend⟩ := @pagesEnd_buildSite build build.root { tree := tree.mend place } _
      (resultOn_load_of_isMended hmended hload) (resultOn_pages_of_isMended hmended hpages)
    have hsame (other : String) (hmem : other ∈ front) :
        SameAt tree (tree.mend place) (build.place other) :=
      ((List.pairwise_append.1 hapart).2.2 other hmem path
        List.mem_cons_self).symm.sameAt_mend hplace
    have hmended := hend.sameAt_pageTree (hapart.imp fun h => h.congr hmended.sameShape)
      (fun other hmem => pageResult_congr (hsame other hmem) ▸ hfails.front_ok other hmem) hmem
    exact ((hfront other hmem).symm.trans
      ((pageTree_congr (hsame other hmem)).trans hmended)).entryAt?_eq

/-- **What a build that fails gives and leaves.** If a stage of its opening fails, it gives the error
of the first one that fails, and no file is changed. If it opens, it fails just if a page fails, with
the error of the first page that does, which is about a file; then that page and those behind it
hold what they held before, and those in front of it what they would hold if it did not fail. -/
theorem buildSite_failure (root : RawPath) (start : Session) :
    (∀ error, firstError? start.tree root = some error →
      (runFrom (buildSite root) start).1 = .error error ∧
        (runFrom (buildSite root) start).2.tree = start.tree) ∧
    (firstError? start.tree root = none → ∃ build pages,
      resultOn (load root) start.tree = .ok build ∧
      resultOn build.pages start.tree = .ok pages ∧
      (∀ error, (runFrom (buildSite root) start).1 = .error error →
        ∃ front path back, pages = front ++ path :: back ∧
          build.FailsAt start.tree front path error) ∧
      ∀ front path back error, pages = front ++ path :: back →
        build.FailsAt start.tree front path error →
          (runFrom (buildSite root) start).1 = .error error ∧ (∃ cause, error = .file cause) ∧
            build.StopsAt start.tree front path back (runFrom (buildSite root) start).2.tree) := by
  refine ⟨fun error => buildSite_of_firstError, fun hfirst => ?_⟩
  rw [firstError?_eq] at hfirst
  cases hload : resultOn (load root) start.tree with
  | error error => simp [hload, error?, Except.bind] at hfirst
  | ok build =>
  cases hpages : resultOn build.pages start.tree with
  | error error => simp [hload, hpages, error?, Except.bind] at hfirst
  | ok pages =>
    have hapart := pairwise_pages hpages
    obtain ⟨result, hresult, hend⟩ := pagesEnd_buildSite hload hpages
    refine ⟨build, pages, rfl, hpages, fun error herror => ?_, ?_⟩
    · obtain rfl : result = .error error := by
        rw [hresult] at herror
        cases result <;> simp_all [Except.map]
      exact hend.exists_failsAt hapart
    · rintro front path back error rfl hfails
      obtain ⟨rfl, -⟩ := hend.exists_of_failsAt hapart hfails
      have hstops := hend.stopsAt (load_root hload ▸ hload) hpages hfails
      exact ⟨hresult, (pageStep_iff.2 ⟨hfails.path_error, rfl⟩).exists_eq_file, hstops⟩

/-- The sample site on a medium that has no space for one of its pages. -/
def fullSite : FileTree :=
  { sampleSite with unwritable := [([Bytes.ofString "b.html"], .noSpace)] }

/-- The build of the site stops at this page. -/
theorem buildSite_failure_fullSite : ∃ (build : Build) (after : Session),
    resultOn (load sampleRoot) fullSite = .ok build ∧
    runFrom (buildSite sampleRoot) { tree := fullSite } = (.error (.file .noSpace), after) ∧
    build.StopsAt fullSite ["a.html"] "b.html" ["c.html"] after.tree := by
  have hmended : IsMended sampleSite fullSite := ⟨rfl, rfl, fun _ h => h⟩
  obtain ⟨build, hload, hpages, -⟩ := exists_load_sampleSite
  replace hload := resultOn_load_of_isMended hmended hload
  replace hpages := resultOn_pages_of_isMended hmended hpages
  have hresults : (resultOn (load sampleRoot) fullSite).toOption.any fun build =>
      decide ((build.pageResult fullSite "a.html").toOption = some .updated) &&
        match build.pageResult fullSite "b.html" with
        | .error (.file .noSpace) => true
        | _ => false := by
    decide +kernel
  rw [hload] at hresults
  simp only [Except.toOption, Option.any_some, Bool.and_eq_true] at hresults
  obtain ⟨hfront, hpage⟩ := hresults
  replace hfront := of_decide_eq_true hfront
  have hfails : build.FailsAt fullSite ["a.html"] "b.html" (.file .noSpace) := by
    constructor
    · rw [List.forall_mem_singleton]
      cases hresult : build.pageResult fullSite "a.html" with
      | error error => simp [hresult] at hfront
      | ok status => exact ⟨status, rfl⟩
    · split at hpage
      · next hresult => exact hresult
      · simp at hpage
  have hfirst : firstError? fullSite sampleRoot = none := by
    rw [firstError?_eq, hload, Except.bind, hpages, error?]
  obtain ⟨-, hopens⟩ := buildSite_failure sampleRoot { tree := fullSite }
  obtain ⟨opened, pages, hopened, hfound, -, hstops⟩ := hopens hfirst
  obtain rfl : build = opened := Except.ok.inj (hload.symm.trans hopened)
  obtain rfl : samplePages = pages := Except.ok.inj (hpages.symm.trans hfound)
  obtain ⟨hresult, -, hleft⟩ := hstops ["a.html"] "b.html" ["c.html"] _ rfl hfails
  generalize runFrom (buildSite sampleRoot) { tree := fullSite } = run at hresult hleft ⊢
  exact ⟨build, run.2, hload, Prod.ext hresult rfl, hleft⟩

end Build

end SiteWeave
