import SiteWeave.Build.Basic
import SiteWeave.Proofs.Build.Reading
import SiteWeave.Proofs.FileTree.SameAt

/-!
# What a build does to a page

What it means to deal with a page is said once, with one case for each way in which the page is found
and read. What a page depends on, what is left alone and what a second run does follow by cases from
that.

## Main definitions

* `Build.newText`: the text that a build wants a page to have.
* `Build.PageStep`: the ways in which a page is dealt with, with the file tree that each leaves.
* `Build.pageResult`, `Build.pageTree`: what becomes of a page in a tree, and of the tree.

## Main results

* `Build.pageStep_processPage`: a page is dealt with in one of these ways.
* `Build.PageStep.readText_eq`: a page that was dealt with reads as the build wants it.
* `Build.PageStep.isRewrite`, `Build.PageStep.at?_eq`: what is left alone.
* `Build.PageStep.congr`: a page depends on itself only.
* `Build.exists_unchanged_of_newText`: when a second run changes nothing.
-/

namespace SiteWeave

open BuildM

namespace Build

variable {build : Build} {path : String} {tree next last : FileTree} {source : String}
  {result : Except BuildError PageStatus} {status : PageStatus}

/-! ### Pages -/

/-- The text that a build wants a page to have. -/
def newText (build : Build) (path source : String) : String :=
  String.ofList (build.weavePage path source.toList).1

theorem newText_eq_iff : build.newText path source = source ↔
    (build.weavePage path source.toList).1 = source.toList := by
  rw [newText, ← String.toList_inj, String.toList_ofList]

/-- How the page at a path is dealt with: the result, and the file tree that is left. -/
inductive PageStep (build : Build) (path : String) (tree : FileTree) :
    Except BuildError PageStatus → FileTree → Prop
  | missing (hread : tree.readText (build.place path) = .error .notFound) :
    PageStep build path tree (.ok .notFound) tree
  | unreadable (hread : tree.readText (build.place path) = .error .notText) :
    PageStep build path tree (.ok .unreadable) tree
  | unread (error : FileError) (hread : tree.readText (build.place path) = .error error)
    (hfound : error ≠ .notFound) (htext : error ≠ .notText) :
    PageStep build path tree (.error (.file error)) tree
  | unchanged (source : String) (hread : tree.readText (build.place path) = .ok source)
    (hsame : build.newText path source = source) : PageStep build path tree (.ok .unchanged) tree
  | updated (source : String) (next : FileTree)
    (hread : tree.readText (build.place path) = .ok source)
    (hdiff : build.newText path source ≠ source)
    (hwrite : tree.writeFile (build.place path) (build.newText path source).toUTF8 = .ok next) :
    PageStep build path tree (.ok .updated) next
  | unwritten (source : String) (error : FileError)
    (hread : tree.readText (build.place path) = .ok source)
    (hdiff : build.newText path source ≠ source)
    (hwrite : tree.writeFile (build.place path) (build.newText path source).toUTF8 = .error error) :
    PageStep build path tree (.error (.file error)) (tree.tearFile (build.place path))

/-- **A page is dealt with in one of these ways.** -/
theorem pageStep_processPage (build : Build) (path : String) (session : Session) :
    PageStep build path session.tree (runFrom (build.processPage path) session).1
      (runFrom (build.processPage path) session).2.tree := by
  simp only [processPage, runFrom_bind, runFrom_note, runFrom_tree]
  split
  · next hread => exact .missing hread
  · next hread => exact .unreadable hread
  · next error hfound htext hread =>
    exact .unread error hread (fun h => hfound h) (fun h => htext h)
  next source hread =>
  simp only [runFrom_bind, runFrom_note]
  split
  · next hsame => exact .unchanged source hread (newText_eq_iff.2 hsame)
  next hdiff =>
  rw [← newText_eq_iff] at hdiff
  split
  · next next hwrite => exact .updated source next hread hdiff hwrite
  · next error hwrite => exact .unwritten source error hread hdiff hwrite

/-- **A page that was dealt with reads as the build wants it.** -/
theorem PageStep.readText_eq (h : PageStep build path tree (.ok status) next)
    (hread : tree.readText (build.place path) = .ok source) :
    next.readText (build.place path) = .ok (build.newText path source) := by
  cases h with
  | missing hnone => simp [hnone] at hread
  | unreadable hnone => simp [hnone] at hread
  | unchanged old hold hsame =>
    obtain rfl : old = source := Except.ok.inj (hold.symm.trans hread)
    rw [hsame, hread]
  | updated old next hold hdiff hwrite =>
    obtain rfl : old = source := Except.ok.inj (hold.symm.trans hread)
    exact FileTree.readText_of_writeFile hread hwrite

/-- A page that reads as the build wants it is left alone. -/
theorem PageStep.eq_unchanged (h : PageStep build path tree result next)
    (hread : tree.readText (build.place path) = .ok source)
    (hsame : build.newText path source = source) : result = .ok .unchanged ∧ next = tree := by
  cases h with
  | missing hnone => simp [hnone] at hread
  | unreadable hnone => simp [hnone] at hread
  | unread error hnone => simp [hnone] at hread
  | unchanged => exact ⟨rfl, rfl⟩
  | updated old next hold hdiff =>
    obtain rfl : old = source := Except.ok.inj (hold.symm.trans hread)
    exact absurd hsame hdiff
  | unwritten old error hold hdiff =>
    obtain rfl : old = source := Except.ok.inj (hold.symm.trans hread)
    exact absurd hsame hdiff

/-! ### What a page depends on, and what it leaves alone -/

/-- A page is dealt with in one way only. -/
theorem PageStep.unique {result' : Except BuildError PageStatus} {next' : FileTree}
    (h : PageStep build path tree result next) (h' : PageStep build path tree result' next') :
    result = result' ∧ next = next' := by
  cases h <;> cases h' <;> simp_all

/-- Dealing with a page makes and removes nothing. -/
theorem PageStep.isRewrite (h : PageStep build path tree result next) :
    FileTree.IsRewrite tree next := by
  cases h with
  | missing | unreadable | unread | unchanged => exact .refl tree
  | updated source next hread hdiff hwrite =>
    exact FileTree.isRewrite_of_writeFile (FileTree.readText_eq_ok_iff.1 hread) hwrite
  | unwritten source error hread =>
    exact FileTree.isRewrite_tearFile (FileTree.readText_eq_ok_iff.1 hread)

/-- Dealing with a page leaves all other files alone. -/
theorem PageStep.at?_eq {found : Path} (h : PageStep build path tree result next)
    (hother : tree.resolve (build.place path) ≠ .ok found) : next.at? found = tree.at? found := by
  cases h with
  | missing | unreadable | unread | unchanged => rfl
  | updated source next hread hdiff hwrite =>
    exact FileTree.at?_of_writeFile (FileTree.readText_eq_ok_iff.1 hread) hwrite hother
  | unwritten source error hread =>
    exact FileTree.at?_tearFile (FileTree.readText_eq_ok_iff.1 hread) hother

/-- **A page depends on itself only.** In trees that agree at the page it is dealt with alike, and
they agree there also afterwards. -/
theorem PageStep.congr {other : FileTree} (h : PageStep build path tree result next)
    (hsame : FileTree.SameAt tree other (build.place path)) :
    ∃ after, PageStep build path other result after ∧
      FileTree.SameAt next after (build.place path) := by
  have htext := hsame.readText_eq
  cases h with
  | missing hread => exact ⟨other, .missing (htext ▸ hread), hsame⟩
  | unreadable hread => exact ⟨other, .unreadable (htext ▸ hread), hsame⟩
  | unread error hread hfound hother =>
    exact ⟨other, .unread error (htext ▸ hread) hfound hother, hsame⟩
  | unchanged source hread heq => exact ⟨other, .unchanged source (htext ▸ hread) heq, hsame⟩
  | updated source next hread hdiff hwrite =>
    obtain ⟨after, hafter, hagree⟩ :=
      hsame.writeFile (FileTree.readText_eq_ok_iff.1 hread) hwrite
    exact ⟨after, .updated source after (htext ▸ hread) hdiff hafter, hagree⟩
  | unwritten source error hread hdiff hwrite =>
    rw [FileTree.readText_eq_ok_iff] at hread
    refine ⟨_, .unwritten source error ?_ hdiff (hsame.writeFile_error hread hwrite),
      hsame.tearFile hread⟩
    rw [← htext, FileTree.readText_eq_ok_iff, hread]

/-- A page that is not updated keeps its bytes, unless a failed write changes them. -/
theorem PageStep.eq_of_ne_updated (h : PageStep build path tree result next)
    (hresult : result ≠ .ok .updated) (htorn : ∀ place,
      tree.resolve (build.place path) = .ok place → FileTree.find? place tree.torn = none) :
    next = tree := by
  cases h with
  | missing | unreadable | unread | unchanged => rfl
  | updated => exact absurd rfl hresult
  | unwritten source error hread =>
    obtain ⟨place, hresolve, -, hat⟩ :=
      FileTree.readFile_eq_ok_iff.1 (FileTree.readText_eq_ok_iff.1 hread)
    simp only [FileTree.tearFile_eq hresolve hat, htorn place hresolve]

/-- A page that cannot be read as a text keeps its bytes. -/
theorem PageStep.eq_of_not_text (h : PageStep build path tree result next)
    (hnot : ∀ source, tree.readText (build.place path) ≠ .ok source) : next = tree := by
  cases h with
  | missing | unreadable | unread | unchanged => rfl
  | updated source next hread => exact absurd hread (hnot source)
  | unwritten source error hread => exact absurd hread (hnot source)

/-- A page is called updated if its bytes are others than before. -/
theorem PageStep.entryAt?_ne_iff (h : PageStep build path tree (.ok status) next) :
    next.entryAt? (build.place path) ≠ tree.entryAt? (build.place path) ↔ status = .updated := by
  cases h with
  | missing | unreadable | unchanged => simp
  | updated source next hread hdiff hwrite =>
    have hnew := FileTree.readText_of_writeFile hread hwrite
    rw [FileTree.readText_eq_ok_iff] at hread hnew
    rw [FileTree.entryAt?_of_readFile hread, FileTree.entryAt?_of_readFile hnew]
    refine iff_of_true (fun heq => hdiff ?_) rfl
    exact String.toByteArray_inj.1 (Entry.file.inj (Option.some.inj heq))

/-- A page is skipped if it is not there or no text. -/
theorem PageStep.readText_mem_iff (h : PageStep build path tree (.ok status) next) :
    tree.readText (build.place path) ∈ [.error .notFound, .error .notText] ↔
      status = .notFound ∨ status = .unreadable := by
  cases h <;> simp_all

/-- A page that is dealt with is a text, or skipped. -/
theorem PageStep.readText_mem_or (h : PageStep build path tree (.ok status) next) :
    tree.readText (build.place path) ∈ [.error .notFound, .error .notText] ∨
      ∃ source, tree.readText (build.place path) = .ok source := by
  cases h <;> simp_all

/-- A page that is not dealt with cannot be read or written. -/
theorem PageStep.exists_eq_file {error : BuildError}
    (h : PageStep build path tree (.error error) next) : ∃ cause, error = .file cause := by
  cases h <;> exact ⟨_, rfl⟩

/-- What becomes of a page in a tree. -/
def pageResult (build : Build) (tree : FileTree) (path : String) : Except BuildError PageStatus :=
  (runFrom (build.processPage path) { tree := tree }).1

/-- The tree after a page was dealt with. -/
def pageTree (build : Build) (tree : FileTree) (path : String) : FileTree :=
  (runFrom (build.processPage path) { tree := tree }).2.tree

theorem pageStep_iff : PageStep build path tree result next ↔
    build.pageResult tree path = result ∧ build.pageTree tree path = next := by
  have hstep : PageStep build path tree (build.pageResult tree path) (build.pageTree tree path) :=
    pageStep_processPage build path { tree := tree }
  constructor
  · exact hstep.unique
  · rintro ⟨rfl, rfl⟩
    exact hstep

/-! ### A second run -/

/-- A page that can be read and written is dealt with. -/
theorem exists_ok_of_writable {session : Session}
    (hread : session.tree.readText (build.place path) = .ok source)
    (hwrite : ∀ content, ∃ next, session.tree.writeFile (build.place path) content = .ok next) :
    ∃ status after, runFrom (build.processPage path) session = (.ok status, after) := by
  have hstep := pageStep_processPage build path session
  generalize hresult : (runFrom (build.processPage path) session).1 = result at hstep
  generalize (runFrom (build.processPage path) session).2.tree = next at hstep
  cases hstep with
  | missing | unreadable | unchanged | updated => exact ⟨_, _, Prod.ext hresult rfl⟩
  | unread error hnone => simp [hnone] at hread
  | unwritten old error hold hdiff hfails =>
    obtain ⟨next, hnext⟩ := hwrite (build.newText path old).toUTF8
    exact absurd (hfails.symm.trans hnext) (by simp)

/-- **A page is left alone once its text is what the build makes of it.** If the new text of a page
is its own new text, a second run over what the first one left changes nothing. -/
theorem exists_unchanged_of_newText {session after : Session}
    (hread : session.tree.readText (build.place path) = .ok source)
    (hsame : build.newText path (build.newText path source) = build.newText path source)
    (hrun : runFrom (build.processPage path) session = (.ok status, after)) :
    ∃ last, runFrom (build.processPage path) after = (.ok .unchanged, last) ∧
      last.tree = after.tree := by
  have hfirst := pageStep_processPage build path session
  rw [hrun] at hfirst
  obtain ⟨hresult, htree⟩ :=
    (pageStep_processPage build path after).eq_unchanged (hfirst.readText_eq hread) hsame
  exact ⟨_, Prod.ext hresult rfl, htree⟩

end Build

end SiteWeave
