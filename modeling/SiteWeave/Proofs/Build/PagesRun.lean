import SiteWeave.Build.Run
import SiteWeave.Proofs.Build.Pages

/-!
# Runs over pages

A run deals with one page after the other and stops at the first one that fails. A page depends on
itself only and leaves all other files alone, so where no two pages are one file, each of them ends
as it ends alone: whether it fails, what is said of it and what it holds afterwards does not depend
on the others.

## Main definitions

* `Build.PagesRun`: a run over pages none of which fails.
* `Build.PagesEnd`: how a run over pages ends.
* `Build.FailsAt`: the first page that fails.

## Main results

* `Build.pagesEnd_mapM`, `Build.pagesEnd_processPages`, `Build.pagesEnd_run`: the runs end in one of
  these ways.
* `Build.PagesEnd.isRewrite`, `Build.PagesEnd.at?_eq`: what a run leaves alone.
* `Build.PagesRun.map_pageResult`, `Build.PagesRun.sameAt_pageTree`: each page ends as it ends alone.
* `Build.PagesEnd.exists_of_failsAt`, `Build.PagesEnd.sameAt_pageTree`: where a run stops, and what
  holds of the pages in front.
-/

namespace SiteWeave

open BuildM

open FileTree

namespace Build

variable {build : Build} {path : String} {paths : List String} {tree other last : FileTree}
  {statuses : List PageStatus} {result : Except BuildError (List PageStatus)}

/-- A run over pages none of which fails: what is said of each page, and the file tree that is
left. -/
inductive PagesRun (build : Build) : FileTree → List String → List PageStatus → FileTree → Prop
  | done (tree : FileTree) : PagesRun build tree [] [] tree
  | page {tree mid last : FileTree} {path : String} {paths : List String} {status : PageStatus}
    {statuses : List PageStatus} (hpage : PageStep build path tree (.ok status) mid)
    (hrest : PagesRun build mid paths statuses last) :
    PagesRun build tree (path :: paths) (status :: statuses) last

/-- How a run over pages ends. -/
inductive PagesEnd (build : Build) (tree : FileTree) :
    List String → Except BuildError (List PageStatus) → FileTree → Prop
  | finished {paths : List String} (statuses : List PageStatus) (last : FileTree)
    (hrun : PagesRun build tree paths statuses last) : PagesEnd build tree paths (.ok statuses) last
  /-- A page fails; those behind it are not dealt with. -/
  | stopped (front : List String) (path : String) (back : List String)
    (statuses : List PageStatus) (mid : FileTree) (error : BuildError) (last : FileTree)
    (hrun : PagesRun build tree front statuses mid)
    (hpage : PageStep build path mid (.error error) last) :
    PagesEnd build tree (front ++ path :: back) (.error error) last

/-! ### The runs of a build -/

/-- A run that succeeds is one over all pages. -/
theorem PagesEnd.run_of_ok (h : PagesEnd build tree paths (.ok statuses) last) :
    PagesRun build tree paths statuses last := by
  cases h with
  | finished statuses last hrun => exact hrun

theorem PagesEnd.page {mid : FileTree} {status : PageStatus}
    (hpage : PageStep build path tree (.ok status) mid) (h : PagesEnd build mid paths result last) :
    PagesEnd build tree (path :: paths) (result.map (status :: ·)) last := by
  cases h with
  | finished statuses last hrun => exact .finished _ _ (.page hpage hrun)
  | stopped front failed back statuses mid' error last hrun hfailed =>
    exact .stopped (path :: front) failed back _ mid' error last (.page hpage hrun) hfailed

/-- **Pages that are dealt with in a row** end in one of these ways. -/
theorem pagesEnd_mapM (build : Build) (paths : List String) (session : Session) :
    PagesEnd build session.tree paths (runFrom (paths.mapM build.processPage) session).1
      (runFrom (paths.mapM build.processPage) session).2.tree := by
  induction paths generalizing session with
  | nil => exact .finished [] session.tree (.done session.tree)
  | cons path paths ih =>
    have hpage := pageStep_processPage build path session
    simp only [List.mapM_cons, runFrom_bind]
    rcases heq : runFrom (build.processPage path) session with ⟨_ | status, after⟩ <;>
      rw [heq] at hpage
    · exact .stopped [] path paths [] session.tree _ _ (.done _) hpage
    · have hend := PagesEnd.page hpage (ih after)
      dsimp only
      rcases hrest : runFrom (paths.mapM build.processPage) after with ⟨_ | statuses, last⟩ <;>
        rw [hrest] at hend <;> exact hend

/-- **The pages of a build** end in one of these ways, and are counted. -/
theorem pagesEnd_processPages (build : Build) (summary : BuildSummary) (paths : List String)
    (session : Session) : ∃ result,
      (runFrom (build.processPages summary paths) session).1 =
        result.map (List.foldl BuildSummary.add summary) ∧
      PagesEnd build session.tree paths result
        (runFrom (build.processPages summary paths) session).2.tree := by
  induction paths generalizing session summary with
  | nil => exact ⟨.ok [], rfl, .finished [] session.tree (.done session.tree)⟩
  | cons path paths ih =>
    have hpage := pageStep_processPage build path session
    simp only [processPages, runFrom_bind]
    rcases heq : runFrom (build.processPage path) session with ⟨error | status, after⟩ <;>
      rw [heq] at hpage
    · exact ⟨.error error, rfl, .stopped [] path paths [] session.tree _ _ (.done _) hpage⟩
    · obtain ⟨result, hresult, hend⟩ := ih (summary.add status)
        (runFrom (say ("  " ++ status.describe ++ ": " ++ path ++ "\n")) after).2
      refine ⟨result.map (status :: ·), ?_, hend.page hpage⟩
      refine hresult.trans ?_
      cases result <;> rfl

/-- **A build whose pages are found** deals with them. -/
theorem pagesEnd_run {session : Session} (hpages : resultOn build.pages session.tree = .ok paths) :
    ∃ result, (runFrom build.run session).1 = result.map (List.foldl BuildSummary.add {}) ∧
      PagesEnd build session.tree paths result (runFrom build.run session).2.tree := by
  obtain ⟨after, htree, hrun⟩ := (reads_pages build).toResultOn.exists_runFrom_bind hpages
  rw [run, hrun, ← htree]
  simp only [runFrom_bind, runFrom_say]
  split
  · simp only [runFrom_bind, runFrom_say]
    exact pagesEnd_processPages build {} paths _
  · exact pagesEnd_processPages build {} paths _

/-- A build whose pages are not found does nothing. -/
theorem run_of_pages_error {session : Session} {error : BuildError}
    (hpages : resultOn build.pages session.tree = .error error) :
    (runFrom build.run session).1 = .error error ∧
      (runFrom build.run session).2.tree = session.tree := by
  obtain ⟨after, htree, hrun⟩ := (reads_pages build).toResultOn.exists_runFrom_bind_error hpages
  rw [run, hrun]
  exact ⟨rfl, htree⟩

/-! ### What a run leaves alone -/

namespace PagesRun

/-- A run makes and removes nothing. -/
theorem isRewrite (h : PagesRun build tree paths statuses last) : IsRewrite tree last := by
  induction h with
  | done tree => exact .refl tree
  | page hpage hrest ih => exact hpage.isRewrite.trans ih

/-- A run leaves all other files alone. -/
theorem at?_eq {found : Path} (h : PagesRun build tree paths statuses last)
    (hother : ∀ path ∈ paths, tree.resolve (build.place path) ≠ .ok found) :
    last.at? found = tree.at? found := by
  induction h with
  | done tree => rfl
  | page hpage hrest ih =>
    rw [List.forall_mem_cons] at hother
    refine (ih fun path hmem => ?_).trans (hpage.at?_eq hother.1)
    rw [← hpage.isRewrite.resolve_eq]
    exact hother.2 path hmem

/-- A run leaves a page alone that is none of its own. -/
theorem sameAt (h : PagesRun build tree paths statuses last)
    (hapart : ∀ other ∈ paths, build.AreApart tree path other) :
    SameAt tree last (build.place path) :=
  h.isRewrite.sameAt fun place hplace =>
    h.at?_eq fun other hmem => hapart other hmem place hplace

end PagesRun

namespace PagesEnd

/-- A run makes and removes nothing. -/
theorem isRewrite (h : PagesEnd build tree paths result last) : IsRewrite tree last := by
  cases h with
  | finished statuses last hrun => exact hrun.isRewrite
  | stopped front failed back statuses mid error last hrun hpage =>
    exact hrun.isRewrite.trans hpage.isRewrite

/-- A run leaves all other files alone. -/
theorem at?_eq {found : Path} (h : PagesEnd build tree paths result last)
    (hother : ∀ path ∈ paths, tree.resolve (build.place path) ≠ .ok found) :
    last.at? found = tree.at? found := by
  cases h with
  | finished statuses last hrun => exact hrun.at?_eq hother
  | stopped front failed back statuses mid error last hrun hpage =>
    rw [List.forall_mem_append, List.forall_mem_cons] at hother
    refine (hpage.at?_eq ?_).trans (hrun.at?_eq hother.1)
    rw [← hrun.isRewrite.resolve_eq]
    exact hother.2.1

end PagesEnd

/-- Dealing with a page leaves the other pages alone. -/
theorem PageStep.sameAt {page : String} {result : Except BuildError PageStatus}
    (h : PageStep build path tree result last) (hapart : build.AreApart tree page path) :
    SameAt tree last (build.place page) :=
  h.isRewrite.sameAt fun place hplace => h.at?_eq (hapart place hplace)

/-! ### Each page ends as it ends alone -/

theorem pageResult_congr (h : SameAt tree other (build.place path)) :
    build.pageResult tree path = build.pageResult other path := by
  obtain ⟨after, hafter, -⟩ := (pageStep_iff.2 ⟨rfl, rfl⟩).congr h
  exact (pageStep_iff.1 hafter).1.symm

theorem pageTree_congr (h : SameAt tree other (build.place path)) :
    SameAt (build.pageTree tree path) (build.pageTree other path) (build.place path) := by
  obtain ⟨after, hafter, hsame⟩ := (pageStep_iff.2 ⟨rfl, rfl⟩).congr h
  rwa [(pageStep_iff.1 hafter).2]

theorem AreApart.congr {page : String} (h : build.AreApart tree path page)
    (hshape : SameShape tree other) : build.AreApart other path page := by
  intro place
  rw [← hshape.resolve_eq, ← hshape.resolve_eq]
  exact h place

namespace PagesRun

/-- **What is said of each page** is what is said of it alone. -/
theorem map_pageResult (h : PagesRun build tree paths statuses last)
    (hapart : paths.Pairwise (build.AreApart tree)) :
    statuses.map .ok = paths.map (build.pageResult tree) := by
  induction h with
  | done tree => rfl
  | @page tree mid last path paths status statuses hpage hrest ih =>
    rw [List.pairwise_cons] at hapart
    have hshape := hpage.isRewrite.toSameShape
    rw [List.map_cons, List.map_cons, (pageStep_iff.1 hpage).1,
      ih (hapart.2.imp fun h => h.congr hshape)]
    congr 1
    exact List.map_congr_left fun other hmem =>
      (pageResult_congr (hpage.sameAt (hapart.1 other hmem).symm)).symm

/-- **What each page holds afterwards** is what it holds after it was dealt with alone. -/
theorem sameAt_pageTree (h : PagesRun build tree paths statuses last)
    (hapart : paths.Pairwise (build.AreApart tree)) (hmem : path ∈ paths) :
    SameAt (build.pageTree tree path) last (build.place path) := by
  induction h with
  | done tree => simp at hmem
  | @page tree mid last head paths status statuses hpage hrest ih =>
    rw [List.pairwise_cons] at hapart
    have hshape := hpage.isRewrite.toSameShape
    obtain rfl | hmem := List.mem_cons.1 hmem
    · rw [(pageStep_iff.1 hpage).2]
      exact hrest.sameAt fun other hother => (hapart.1 other hother).congr hshape
    · exact (pageTree_congr (hpage.sameAt (hapart.1 path hmem).symm)).trans
        (ih (hapart.2.imp fun h => h.congr hshape) hmem)

theorem exists_eq_ok (h : PagesRun build tree paths statuses last)
    (hapart : paths.Pairwise (build.AreApart tree)) (hmem : path ∈ paths) :
    ∃ status, build.pageResult tree path = .ok status := by
  obtain ⟨status, -, hstatus⟩ := List.mem_map.1
    (h.map_pageResult hapart ▸ List.mem_map_of_mem (f := build.pageResult tree) hmem)
  exact ⟨status, hstatus.symm⟩

/-- What is said of the pages, page by page. -/
theorem exists_eq_map (h : PagesRun build tree paths statuses last)
    (hapart : paths.Pairwise (build.AreApart tree)) : ∃ status : String → PageStatus,
    statuses = paths.map status ∧
      ∀ path ∈ paths, build.pageResult tree path = .ok (status path) := by
  let status (path : String) : PageStatus :=
    (build.pageResult tree path).toOption.getD .unchanged
  have hstatus (path : String) (hmem : path ∈ paths) :
      build.pageResult tree path = .ok (status path) := by
    obtain ⟨value, hvalue⟩ := h.exists_eq_ok hapart hmem
    simp [status, hvalue, Except.toOption]
  refine ⟨status, ?_, hstatus⟩
  refine List.map_injective_iff.2 (fun _ _ => Except.ok.inj (ε := BuildError)) ?_
  rw [h.map_pageResult hapart, List.map_map]
  exact List.map_congr_left hstatus

end PagesRun

/-! ### The first page that fails -/

/-- A page fails, and those in front of it do not. -/
structure FailsAt (build : Build) (tree : FileTree) (front : List String) (path : String)
    (error : BuildError) : Prop where
  front_ok : ∀ other ∈ front, ∃ status, build.pageResult tree other = .ok status
  path_error : build.pageResult tree path = .error error

/-- There is one first page that fails. -/
theorem FailsAt.unique {front front' back back' : List String} {path' : String}
    {error error' : BuildError} (h : build.FailsAt tree front path error)
    (h' : build.FailsAt tree front' path' error')
    (heq : front ++ path :: back = front' ++ path' :: back') :
    front = front' ∧ path = path' ∧ back = back' ∧ error = error' := by
  have hne {other page : String} {cause : BuildError} {status : PageStatus}
      (hfails : build.pageResult tree page = .error cause)
      (hok : build.pageResult tree other = .ok status) : page ≠ other := by
    rintro rfl
    simp [hfails] at hok
  induction front generalizing front' with
  | nil =>
    cases front' with
    | nil =>
      obtain ⟨rfl, rfl⟩ := List.cons.inj heq
      exact ⟨rfl, rfl, rfl, Except.error.inj (h.path_error.symm.trans h'.path_error)⟩
    | cons first rest =>
      obtain ⟨status, hstatus⟩ := h'.front_ok first List.mem_cons_self
      exact absurd (List.cons.inj heq).1 (hne h.path_error hstatus)
  | cons first rest ih =>
    cases front' with
    | nil =>
      obtain ⟨status, hstatus⟩ := h.front_ok first List.mem_cons_self
      exact absurd (List.cons.inj heq).1.symm (hne h'.path_error hstatus)
    | cons first' rest' =>
      obtain ⟨rfl, hrest⟩ := List.cons.inj heq
      obtain ⟨rfl, hothers⟩ := ih
        ⟨fun other hmem => h.front_ok other (List.mem_cons_of_mem _ hmem), h.path_error⟩
        ⟨fun other hmem => h'.front_ok other (List.mem_cons_of_mem _ hmem), h'.path_error⟩ hrest
      exact ⟨rfl, hothers⟩

/-- The page that a run stops at is the first one that fails alone. -/
theorem PagesRun.failsAt {front back : List String} {mid : FileTree} {error : BuildError}
    (h : PagesRun build tree front statuses mid)
    (hapart : (front ++ path :: back).Pairwise (build.AreApart tree))
    (hpage : PageStep build path mid (.error error) last) :
    build.FailsAt tree front path error := by
  rw [List.pairwise_append] at hapart
  refine ⟨fun other hmem => h.exists_eq_ok hapart.1 hmem, ?_⟩
  rw [pageResult_congr (h.sameAt fun other hmem => ?_), (pageStep_iff.1 hpage).1]
  exact (hapart.2.2 other hmem path List.mem_cons_self).symm

/-- **A run stops at the first page that fails alone.** -/
theorem PagesEnd.exists_of_failsAt {front back : List String} {error : BuildError}
    (h : PagesEnd build tree (front ++ path :: back) result last)
    (hapart : (front ++ path :: back).Pairwise (build.AreApart tree))
    (hfails : build.FailsAt tree front path error) :
    result = .error error ∧ ∃ statuses mid, PagesRun build tree front statuses mid ∧
      PageStep build path mid (.error error) last := by
  generalize hpaths : front ++ path :: back = paths at h hapart
  cases h with
  | finished statuses last hrun =>
    have hmem : path ∈ paths := by simp [← hpaths]
    obtain ⟨status, hstatus⟩ := hrun.exists_eq_ok hapart hmem
    simp [hfails.path_error] at hstatus
  | stopped front' path' back' statuses mid error' last hrun hpage =>
    obtain ⟨rfl, rfl, -, rfl⟩ := hfails.unique (hrun.failsAt hapart hpage) hpaths
    exact ⟨rfl, statuses, mid, hrun, hpage⟩

/-- A run that stops does so at the first page that fails alone. -/
theorem PagesEnd.exists_failsAt {error : BuildError}
    (h : PagesEnd build tree paths (.error error) last)
    (hapart : paths.Pairwise (build.AreApart tree)) :
    ∃ front path back, paths = front ++ path :: back ∧ build.FailsAt tree front path error := by
  cases h with
  | stopped front path back statuses mid error last hrun hpage =>
    exact ⟨front, path, back, rfl, hrun.failsAt hapart hpage⟩

/-- What a run leaves that stops at a page: the pages up to this one end as they end alone, and those
behind it are left alone. -/
theorem PagesRun.sameAt_of_stop {front back : List String} {mid : FileTree} {error : BuildError}
    (h : PagesRun build tree front statuses mid)
    (hapart : (front ++ path :: back).Pairwise (build.AreApart tree))
    (hpage : PageStep build path mid (.error error) last) :
    (∀ other ∈ front, SameAt (build.pageTree tree other) last (build.place other)) ∧
      SameAt (build.pageTree tree path) last (build.place path) ∧
      ∀ other ∈ back, SameAt tree last (build.place other) := by
  have hshape := h.isRewrite.toSameShape
  obtain ⟨hpages, hbehind, hfront⟩ := List.pairwise_append.1 hapart
  have hmid (other : String) (hmem : other ∈ path :: back) : SameAt tree mid (build.place other) :=
    h.sameAt fun before hbefore => (hfront before hbefore other hmem).symm
  refine ⟨fun other hmem => ?_, ?_, fun other hmem => ?_⟩
  · exact (h.sameAt_pageTree hpages hmem).trans
      (hpage.sameAt ((hfront other hmem path List.mem_cons_self).congr hshape))
  · rw [← (pageStep_iff.1 hpage).2]
    exact pageTree_congr (hmid path List.mem_cons_self)
  · have hpath := (List.pairwise_cons.1 hbehind).1 other hmem
    exact (hmid other (List.mem_cons_of_mem _ hmem)).trans
      (hpage.sameAt (hpath.congr hshape).symm)

/-- **Pages in front of the first one that fails** end as they end alone. -/
theorem PagesEnd.sameAt_pageTree {front back : List String}
    (h : PagesEnd build tree (front ++ back) result last)
    (hapart : (front ++ back).Pairwise (build.AreApart tree))
    (hok : ∀ other ∈ front, ∃ status, build.pageResult tree other = .ok status)
    (hmem : path ∈ front) : SameAt (build.pageTree tree path) last (build.place path) := by
  generalize hpaths : front ++ back = paths at h hapart
  cases h with
  | finished statuses last hrun =>
    exact hrun.sameAt_pageTree hapart (hpaths ▸ List.mem_append_left back hmem)
  | stopped front' failed back' statuses mid error last hrun hpage =>
    refine (hrun.sameAt_of_stop hapart hpage).1 path ?_
    rcases List.append_eq_append_iff.1 hpaths with ⟨more, rfl, -⟩ | ⟨more, rfl, hback⟩
    · exact List.mem_append_left more hmem
    · cases more with
      | nil => simpa using hmem
      | cons first more =>
        obtain ⟨rfl, -⟩ := List.cons.inj hback
        obtain ⟨status, hstatus⟩ := hok failed (by simp)
        simp [(hrun.failsAt hapart hpage).path_error] at hstatus

/-- **However a run ends,** a page holds what it held before, or what it holds after it was dealt with
alone. -/
theorem PagesEnd.sameAt_or (h : PagesEnd build tree paths result last)
    (hapart : paths.Pairwise (build.AreApart tree)) (hmem : path ∈ paths) :
    SameAt tree last (build.place path) ∨
      SameAt (build.pageTree tree path) last (build.place path) := by
  cases h with
  | finished statuses last hrun => exact .inr (hrun.sameAt_pageTree hapart hmem)
  | stopped front failed back statuses mid error last hrun hpage =>
    obtain ⟨hfront, hfailed, hback⟩ := hrun.sameAt_of_stop hapart hpage
    rw [List.mem_append, List.mem_cons] at hmem
    obtain hmem | rfl | hmem := hmem
    · exact .inr (hfront path hmem)
    · exact .inr hfailed
    · exact .inl (hback path hmem)

end Build

end SiteWeave
