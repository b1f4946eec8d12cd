import SiteWeave.Proofs.FileTree.Write

/-!
# Trees that agree at a path

An access to a file depends on the way to the file, on its content and on what the medium does at
its place, and on nothing else in the tree. So trees that agree at a path cannot be told apart by
accesses to it, and they agree there also after the same access to both.

## Main definitions

* `FileTree.entryAt?`: the entry that a path leads to.
* `FileTree.SameAt`: two trees agree at a path.

## Main results

* `FileTree.IsRewrite.sameAt`: a rewriting that leaves a file alone.
* `FileTree.SameAt.readText_eq`, `FileTree.SameAt.writeFile`, `FileTree.SameAt.writeFile_error`,
  `FileTree.SameAt.tearFile`: the accesses to trees that agree.
-/

namespace SiteWeave

namespace FileTree

variable {tree other next after : FileTree} {path : RawPath} {place : Path}
  {old content : ByteArray} {error : FileError}

/-- The entry that a path leads to, if it leads to one. -/
def entryAt? (tree : FileTree) (path : RawPath) : Option Entry :=
  match tree.resolve path with
  | .ok place => tree.at? place
  | .error _ => none

theorem entryAt?_of_resolve (h : tree.resolve path = .ok place) :
    tree.entryAt? path = tree.at? place := by
  rw [entryAt?, h]

theorem entryAt?_of_readFile (h : tree.readFile path = .ok content) :
    tree.entryAt? path = some (.file content) := by
  obtain ⟨place, hresolve, -, hat⟩ := readFile_eq_ok_iff.1 h
  rw [entryAt?_of_resolve hresolve, hat]

theorem SameShape.symm (h : SameShape tree other) : SameShape other tree := by
  refine ⟨h.current_eq.symm, fun place => ?_⟩
  rcases h.at?_eq place with heq | ⟨old, new, hold, hnew⟩
  · exact .inl heq.symm
  · exact .inr ⟨new, old, hnew, hold⟩

/-- Two trees of one shape have the same content and the same faults at a path. -/
structure SameAt (tree other : FileTree) (path : RawPath) : Prop extends SameShape tree other where
  entry_eq : ∀ place, tree.resolve path = .ok place → tree.at? place = other.at? place
  unreadable_eq : ∀ place, tree.resolve path = .ok place →
    find? place tree.unreadable = find? place other.unreadable
  unwritable_eq : ∀ place, tree.resolve path = .ok place →
    find? place tree.unwritable = find? place other.unwritable
  torn_eq : ∀ place, tree.resolve path = .ok place →
    find? place tree.torn = find? place other.torn

/-- A rewriting that leaves a file alone. -/
theorem IsRewrite.sameAt (h : IsRewrite tree next)
    (hkeep : ∀ place, tree.resolve path = .ok place → next.at? place = tree.at? place) :
    SameAt tree next path where
  toSameShape := h.toSameShape
  entry_eq place hresolve := (hkeep place hresolve).symm
  unreadable_eq place _ := by rw [h.unreadable_eq]
  unwritable_eq place _ := by rw [h.unwritable_eq]
  torn_eq place _ := by rw [h.torn_eq]

namespace SameAt

theorem symm (h : SameAt tree other path) : SameAt other tree path where
  toSameShape := h.toSameShape.symm
  entry_eq place hresolve := (h.entry_eq place (h.resolve_eq path _ ▸ hresolve)).symm
  unreadable_eq place hresolve := (h.unreadable_eq place (h.resolve_eq path _ ▸ hresolve)).symm
  unwritable_eq place hresolve := (h.unwritable_eq place (h.resolve_eq path _ ▸ hresolve)).symm
  torn_eq place hresolve := (h.torn_eq place (h.resolve_eq path _ ▸ hresolve)).symm

theorem trans (h : SameAt tree other path) (hnext : SameAt other next path) :
    SameAt tree next path := by
  have hresolve := h.resolve_eq path .target
  refine ⟨h.toSameShape.trans hnext.toSameShape, fun place hplace => ?_, fun place hplace => ?_,
    fun place hplace => ?_, fun place hplace => ?_⟩
  · exact (h.entry_eq place hplace).trans (hnext.entry_eq place (hresolve ▸ hplace))
  · exact (h.unreadable_eq place hplace).trans (hnext.unreadable_eq place (hresolve ▸ hplace))
  · exact (h.unwritable_eq place hplace).trans (hnext.unwritable_eq place (hresolve ▸ hplace))
  · exact (h.torn_eq place hplace).trans (hnext.torn_eq place (hresolve ▸ hplace))

theorem entryAt?_eq (h : SameAt tree other path) : tree.entryAt? path = other.entryAt? path := by
  rw [entryAt?, entryAt?, ← h.resolve_eq]
  split
  · next place hresolve => exact h.entry_eq place hresolve
  · rfl

theorem readFile_eq (h : SameAt tree other path) : tree.readFile path = other.readFile path := by
  rw [readFile, readFile, ← h.resolve_eq]
  cases hresolve : tree.resolve path with
  | error error => rfl
  | ok place =>
    simp only [bind, Except.bind]
    rw [h.unreadable_eq place hresolve, h.entry_eq place hresolve]

/-- **A file reads the same in trees that agree there.** -/
theorem readText_eq (h : SameAt tree other path) : tree.readText path = other.readText path := by
  rw [readText, readText, h.readFile_eq]

/-- Rewritings that give a file the same content. -/
theorem rewrite (h : SameAt tree other path) (hnext : IsRewrite tree next)
    (hafter : IsRewrite other after)
    (hkeep : ∀ place, tree.resolve path = .ok place → next.at? place = after.at? place) :
    SameAt next after path := by
  have hresolve := hnext.resolve_eq path .target
  refine ⟨hnext.toSameShape.symm.trans (h.toSameShape.trans hafter.toSameShape),
    fun place hplace => hkeep place (hresolve ▸ hplace), fun place hplace => ?_,
    fun place hplace => ?_, fun place hplace => ?_⟩
  · rw [← hnext.unreadable_eq, ← hafter.unreadable_eq]
    exact h.unreadable_eq place (hresolve ▸ hplace)
  · rw [← hnext.unwritable_eq, ← hafter.unwritable_eq]
    exact h.unwritable_eq place (hresolve ▸ hplace)
  · rw [← hnext.torn_eq, ← hafter.torn_eq]
    exact h.torn_eq place (hresolve ▸ hplace)

/-- A new content of a file in trees that agree there. -/
theorem set (h : SameAt tree other path) (hresolve : tree.resolve path = .ok place)
    (hat : tree.at? place = some (.file old)) (content : ByteArray) :
    SameAt (tree.set place (.file content)) (other.set place (.file content)) path := by
  have hother : other.at? place = some (.file old) := h.entry_eq place hresolve ▸ hat
  refine h.rewrite (isRewrite_set hat content) (isRewrite_set hother content)
    fun found hfound => ?_
  obtain rfl : place = found := Except.ok.inj (hresolve.symm.trans hfound)
  rw [at?_set_file hat, at?_set_file hother, if_pos rfl, if_pos rfl]

/-- **A write to a file succeeds in trees that agree there alike,** and they agree after it. -/
theorem writeFile (h : SameAt tree other path) (hread : tree.readFile path = .ok old)
    (hwrite : tree.writeFile path content = .ok next) :
    ∃ after, other.writeFile path content = .ok after ∧ SameAt next after path := by
  obtain ⟨place, hresolve, -, hat⟩ := readFile_eq_ok_iff.1 hread
  obtain ⟨hwritable, rfl⟩ := (writeFile_eq_ok_iff hresolve hat).1 hwrite
  refine ⟨_, (writeFile_eq_ok_iff (h.resolve_eq path _ ▸ hresolve)
    (h.entry_eq place hresolve ▸ hat)).2 ⟨?_, rfl⟩, h.set hresolve hat content⟩
  rw [← h.unwritable_eq place hresolve, hwritable]

/-- A write to a file fails in trees that agree there alike. -/
theorem writeFile_error (h : SameAt tree other path) (hread : tree.readFile path = .ok old)
    (hwrite : tree.writeFile path content = .error error) :
    other.writeFile path content = .error error := by
  obtain ⟨place, hresolve, -, hat⟩ := readFile_eq_ok_iff.1 hread
  have hother : other.resolve path .place = .ok place :=
    resolve_place (h.resolve_eq path _ ▸ hresolve)
  rw [FileTree.writeFile, resolve_place hresolve] at hwrite
  rw [FileTree.writeFile, hother]
  simp only [bind, Except.bind, ← h.unwritable_eq place hresolve, ← h.entry_eq place hresolve,
    hat] at hwrite ⊢
  cases hfault : find? place tree.unwritable with
  | none => simp [hfault] at hwrite
  | some fault => simpa [hfault] using hwrite

/-- A failed write leaves trees that agree at its path so that they still do. -/
theorem tearFile (h : SameAt tree other path) (hread : tree.readFile path = .ok old) :
    SameAt (tree.tearFile path) (other.tearFile path) path := by
  obtain ⟨place, hresolve, -, hat⟩ := readFile_eq_ok_iff.1 hread
  have hother : other.at? place = some (.file old) := h.entry_eq place hresolve ▸ hat
  rw [tearFile_eq hresolve hat, tearFile_eq (h.resolve_eq path _ ▸ hresolve) hother,
    ← h.torn_eq place hresolve]
  split
  · exact h.set hresolve hat _
  · exact h

end SameAt

end FileTree

end SiteWeave
