import SiteWeave.Proofs.FileTree.SameAt
import SiteWeave.Proofs.FileTree.Walk

/-!
# The order of entries

A directory lists its names in the order of the entries of the tree, which means nothing else: a
path leads to one entry wherever that stands among the others. So trees that differ in the order of
their entries differ in the order in which directories are listed, and in no access to a file.

## Main definitions

* `FileTree.IsReordered`: two trees that differ in the order of their entries.

## Main results

* `FileTree.IsReordered.sameAt`, `FileTree.IsReordered.isFile_eq`: accesses to files are the same.
* `FileTree.IsReordered.listDirectory`: directories list the same names in another order.
-/

namespace SiteWeave

namespace FileTree

variable {tree other : FileTree} {path : RawPath} {place : Path} {names : List Name}

/-- The second tree is the first one with its entries in another order. -/
structure IsReordered (tree other : FileTree) : Prop where
  entries_perm : tree.entries.Perm other.entries
  current_eq : tree.current = other.current
  unreadable_eq : tree.unreadable = other.unreadable
  unwritable_eq : tree.unwritable = other.unwritable
  torn_eq : tree.torn = other.torn

theorem find?_perm {α : Type} {list more : List (Path × α)} (h : list.Perm more)
    (hnodup : (list.map Prod.fst).Nodup) (place : Path) : find? place list = find? place more := by
  induction h with
  | nil => rfl
  | cons head _ ih =>
    rw [List.map_cons, List.nodup_cons] at hnodup
    rw [find?, find?, ih hnodup.2]
  | swap first second rest =>
    have hne : second.1 ≠ first.1 := by
      rw [List.map_cons, List.map_cons, List.nodup_cons] at hnodup
      exact List.ne_of_not_mem_cons hnodup.1
    rw [find?, find?, find?, find?]
    by_cases hfirst : place = first.1
    · rw [if_neg (hfirst.trans_ne hne.symm), if_pos hfirst, if_pos hfirst]
    · rw [if_neg hfirst, if_neg hfirst]
  | trans hfront _ ihfront ihback =>
    exact (ihfront hnodup).trans (ihback ((hfront.map _).nodup_iff.1 hnodup))

namespace IsReordered

theorem refl (tree : FileTree) : IsReordered tree tree :=
  ⟨.refl _, rfl, rfl, rfl, rfl⟩

theorem at?_eq (h : IsReordered tree other) (place : Path) : tree.at? place = other.at? place := by
  cases place with
  | nil => rfl
  | cons name names => exact find?_perm h.entries_perm tree.distinct (name :: names)

/-- Trees with their entries in another order agree at each path. -/
theorem sameAt (h : IsReordered tree other) (path : RawPath) : SameAt tree other path where
  current_eq := h.current_eq
  at?_eq place := .inl (h.at?_eq place)
  entry_eq place _ := h.at?_eq place
  unreadable_eq place _ := by rw [h.unreadable_eq]
  unwritable_eq place _ := by rw [h.unwritable_eq]
  torn_eq place _ := by rw [h.torn_eq]

theorem isFile_eq (h : IsReordered tree other) (path : RawPath) :
    tree.isFile path = other.isFile path := by
  simp only [isFile, (h.sameAt path).resolve_eq, h.at?_eq]

theorem names_perm (h : IsReordered tree other) (place : Path) :
    (tree.names place).Perm (other.names place) :=
  h.entries_perm.filterMap _

/-- **Directories list the same names** in another order. -/
theorem listDirectory (h : IsReordered tree other) (hlist : tree.listDirectory path = .ok names) :
    ∃ listed, other.listDirectory path = .ok listed ∧ names.Perm listed := by
  rw [FileTree.listDirectory] at hlist
  rw [FileTree.listDirectory, ← (h.sameAt path).resolve_eq]
  cases hresolve : tree.resolve path with
  | error error => simp [hresolve, bind, Except.bind] at hlist
  | ok place =>
    rw [hresolve] at hlist
    obtain ⟨hreadable, hdirectory, rfl⟩ := listNames_eq_ok_iff.1 hlist
    rw [h.unreadable_eq] at hreadable
    rw [(h.sameAt path).isDirectory_eq] at hdirectory
    exact ⟨_, listNames_eq_ok_iff.2 ⟨hreadable, hdirectory, rfl⟩, h.names_perm place⟩

end IsReordered

end FileTree

end SiteWeave
