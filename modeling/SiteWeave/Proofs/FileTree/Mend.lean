import SiteWeave.Proofs.FileTree.SameAt
import SiteWeave.Proofs.FileTree.Walk

/-!
# Mending the medium

What can be read from a tree can also be read if the medium has fewer faults: whatever succeeds
gives the same, and only what fails may succeed.

## Main definitions

* `FileTree.IsMended`: the second tree has the entries of the first one and can be read wherever
  that can be read.
* `FileTree.mend`: the tree without faults at a place.

## Main results

* `FileTree.IsMended.readText`, `FileTree.IsMended.listDirectory`, `FileTree.IsMended.walk_eq`: what
  succeeds on a tree gives the same on the mended one.
* `FileTree.sameAt_mend`: mending at one place changes nothing at the others.
-/

namespace SiteWeave

namespace FileTree

variable {tree mended : FileTree} {path : RawPath} {place directory : Path} {names : List Name}
  {enters : Name → Bool} {shown start : RawPath}

/-- The second tree has the entries of the first one and can be read wherever that can be read. -/
structure IsMended (tree mended : FileTree) : Prop where
  current_eq : tree.current = mended.current
  entries_eq : tree.entries = mended.entries
  readable : ∀ place, find? place tree.unreadable = none → find? place mended.unreadable = none

/-- The tree without faults at a place. -/
def mend (tree : FileTree) (place : Path) : FileTree :=
  { tree with
    unreadable := tree.unreadable.filter fun (path, _) => path ≠ place
    unwritable := tree.unwritable.filter fun (path, _) => path ≠ place }

theorem find?_filter {α : Type} (place found : Path) (list : List (Path × α)) :
    find? found (list.filter fun (path, _) => path ≠ place) =
      if found = place then none else find? found list := by
  induction list with
  | nil => simp [find?]
  | cons head rest ih =>
    obtain ⟨path, value⟩ := head
    by_cases hpath : path = place
    · rw [List.filter_cons_of_neg (by simpa using hpath), ih, hpath]
      split
      · rfl
      · next hfound => rw [find?, if_neg hfound]
    · rw [List.filter_cons_of_pos (by simpa using hpath), find?, find?, ih]
      split
      · next hfound => rw [if_neg fun heq => hpath (hfound.symm.trans heq)]
      · rfl

theorem isMended_mend (tree : FileTree) (place : Path) : IsMended tree (tree.mend place) := by
  refine ⟨rfl, rfl, fun found hnone => ?_⟩
  rw [mend, find?_filter, hnone, ite_self]

namespace IsMended

theorem at?_eq (h : IsMended tree mended) (place : Path) : tree.at? place = mended.at? place := by
  cases place with
  | nil => rfl
  | cons name names => exact congrArg (find? (name :: names)) h.entries_eq

theorem sameShape (h : IsMended tree mended) : SameShape tree mended :=
  ⟨h.current_eq, fun place => .inl (h.at?_eq place)⟩

theorem readText {text : String} (h : IsMended tree mended)
    (hread : tree.readText path = .ok text) : mended.readText path = .ok text := by
  rw [readText_eq_ok_iff, readFile_eq_ok_iff] at hread ⊢
  obtain ⟨place, hresolve, hreadable, hat⟩ := hread
  exact ⟨place, h.sameShape.resolve_eq path _ ▸ hresolve, h.readable place hreadable,
    h.at?_eq place ▸ hat⟩

theorem hasEntry_eq (h : IsMended tree mended) : tree.hasEntry = mended.hasEntry := by
  funext path
  rw [hasEntry, hasEntry, h.sameShape.resolve_eq]

theorem isFile_eq (h : IsMended tree mended) : tree.isFile = mended.isFile := by
  funext path
  simp only [isFile, h.sameShape.resolve_eq, h.at?_eq]

theorem listNames (h : IsMended tree mended) (hlist : tree.listNames place = .ok names) :
    mended.listNames place = .ok names := by
  rw [FileTree.listNames] at hlist ⊢
  cases hreadable : find? place tree.unreadable with
  | some error => simp [hreadable] at hlist
  | none =>
    simpa only [hreadable, h.readable place hreadable, ← h.sameShape.isDirectory_eq,
      FileTree.names, ← h.entries_eq] using hlist

/-- **A directory that can be listed** lists the same. -/
theorem listDirectory (h : IsMended tree mended) (hlist : tree.listDirectory path = .ok names) :
    mended.listDirectory path = .ok names := by
  rw [FileTree.listDirectory, ← h.sameShape.resolve_eq]
  rw [FileTree.listDirectory] at hlist
  cases hresolve : tree.resolve path with
  | error error => simp [hresolve, bind, Except.bind] at hlist
  | ok place =>
    rw [hresolve] at hlist
    exact h.listNames hlist

theorem sortedNames (h : IsMended tree mended)
    (hsorted : tree.sortedNames directory shown = .ok names) :
    mended.sortedNames directory shown = .ok names := by
  rw [FileTree.sortedNames] at hsorted ⊢
  cases hcheck : RawPath.check shown with
  | error error => simp [hcheck, bind, Except.bind] at hsorted
  | ok =>
    cases hlist : tree.listNames directory with
    | error error => simp [hcheck, hlist, bind, Except.bind] at hsorted
    | ok found =>
      rw [hcheck, hlist] at hsorted
      rw [h.listNames hlist]
      exact hsorted

theorem findBelow_eq (h : IsMended tree mended) {fuel : Nat} {relative : List Name}
    (hok : ∀ item ∈ findBelow tree enters fuel directory shown relative, ∃ file, item = .ok file) :
    findBelow mended enters fuel directory shown relative =
      findBelow tree enters fuel directory shown relative := by
  induction fuel generalizing directory shown relative with
  | zero => rfl
  | succ fuel ih =>
    rw [findBelow_succ] at hok
    rw [findBelow_succ, findBelow_succ]
    cases hsorted : tree.sortedNames directory shown with
    | error error =>
      obtain ⟨file, hfile⟩ := hok (.error ⟨shown, error⟩) (by simp [hsorted])
      simp at hfile
    | ok names =>
      simp only [hsorted, List.mem_flatMap] at hok
      rw [h.sortedNames hsorted]
      refine List.flatMap_congr fun name hmem => ?_
      have hbelow := fun item hitem => hok item ⟨name, hmem, hitem⟩
      rw [findAt, findAt, ← h.at?_eq]
      rw [findAt] at hbelow
      split
      · rfl
      · next hat =>
        split
        · next henters =>
          simp only [hat, henters, if_true] at hbelow
          exact ih hbelow
        · rfl
      · rfl

/-- **A walk that finds no error** finds the same. -/
theorem walk_eq (h : IsMended tree mended)
    (hok : ∀ item ∈ tree.walk enters start, ∃ file, item = .ok file) :
    mended.walk enters start = tree.walk enters start := by
  rw [walk] at hok
  rw [walk, walk, ← h.sameShape.resolve_eq, ← h.sameShape.resolve_eq, ← h.entries_eq]
  cases hplace : tree.resolve start .entry with
  | error error => rfl
  | ok place =>
    simp only [hplace, ← h.at?_eq, ← h.sameShape.isDirectory_eq] at hok ⊢
    rcases hat : tree.at? place with _ | content | _ | target
    · rw [hat] at hok
      exact h.findBelow_eq hok
    · rfl
    · rw [hat] at hok
      exact h.findBelow_eq hok
    · rw [hat] at hok
      cases htop : tree.resolve start with
      | error error => rfl
      | ok top =>
        simp only [htop] at hok ⊢
        split
        · next hdirectory =>
          rw [if_pos hdirectory] at hok
          exact h.findBelow_eq hok
        · rfl

end IsMended

/-- Mending at one place changes nothing at the others. -/
theorem sameAt_mend (tree : FileTree) (hother : tree.resolve path ≠ .ok place) :
    SameAt tree (tree.mend place) path := by
  have hne (found : Path) (hfound : tree.resolve path = .ok found) : found ≠ place := by
    rintro rfl
    exact hother hfound
  refine ⟨(isMended_mend tree place).sameShape, fun found _ => (isMended_mend tree place).at?_eq found,
    fun found hfound => ?_, fun found hfound => ?_, fun found _ => rfl⟩
  · rw [mend, find?_filter, if_neg (hne found hfound)]
  · rw [mend, find?_filter, if_neg (hne found hfound)]

end FileTree

end SiteWeave
