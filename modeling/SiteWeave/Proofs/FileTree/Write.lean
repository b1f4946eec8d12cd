import SiteWeave.Proofs.FileTree.Resolve
import SiteWeave.Proofs.Text.Utf8

/-!
# Reading what was written

A file keeps its place in the tree when its content changes: paths are walked through directories
and links, and a content is neither. So a path leads to the same file after a write, a read gives
what was written, and no other file is touched. This holds of a write that fails, too.

## Main definitions

* `FileTree.SameShape`: two trees that differ in the contents of files only.
* `FileTree.IsRewrite`: the second tree has other contents in the files of the first one.

## Main results

* `FileTree.IsRewrite.eq_of_at?_eq`: a rewriting is known by its entries.
* `FileTree.SameShape.resolve_eq`: a path leads to the same place in both trees.
* `FileTree.readText_of_writeFile`: a file that was written has the written text.
* `FileTree.isRewrite_of_writeFile`, `FileTree.isRewrite_tearFile`: a write to a file that is there
  makes and removes nothing.
* `FileTree.at?_of_writeFile`, `FileTree.at?_tearFile`: it leaves all other files alone.
-/

namespace SiteWeave

namespace FileTree

variable {tree other next : FileTree} {path : RawPath} {place found : Path}
  {old content : ByteArray} {entry : Entry}

/-! ### Trees of one shape -/

/-- The two trees have the same directories and links, and their files in the same places. -/
structure SameShape (tree other : FileTree) : Prop where
  current_eq : tree.current = other.current
  at?_eq : ∀ place, tree.at? place = other.at? place ∨
    ∃ old new, tree.at? place = some (.file old) ∧ other.at? place = some (.file new)

/-- The second tree is the first one with other contents of files. -/
structure IsRewrite (tree other : FileTree) : Prop extends SameShape tree other where
  /-- The directories list the same names in the same order. -/
  paths_eq : tree.entries.map Prod.fst = other.entries.map Prod.fst
  unreadable_eq : tree.unreadable = other.unreadable
  unwritable_eq : tree.unwritable = other.unwritable
  torn_eq : tree.torn = other.torn

theorem find?_eq_none_iff {α : Type} {list : List (Path × α)} :
    find? place list = none ↔ place ∉ list.map Prod.fst := by
  induction list with
  | nil => simp [find?]
  | cons head rest ih =>
    obtain ⟨p, value⟩ := head
    by_cases h : place = p <;> simp [find?, h, ih]

theorem mem_paths_of_at? (h : tree.at? place = some entry) (hentry : entry ≠ .directory) :
    place ∈ tree.entries.map Prod.fst := by
  cases place with
  | nil => exact absurd (Option.some.inj h).symm hentry
  | cons name names =>
    refine Decidable.byContradiction fun hmem => ?_
    exact absurd ((find?_eq_none_iff.2 hmem).symm.trans h) (by simp)

/-- Files and links stand at paths. -/
theorem isPath_of_at? (h : tree.at? place = some entry) (hentry : entry ≠ .directory) :
    IsPath place :=
  tree.named _ (mem_paths_of_at? h hentry)

theorem at?_set_file (h : tree.at? place = some (.file old)) (content : ByteArray) :
    (tree.set place (.file content)).at? found =
      if found = place then some (.file content) else tree.at? found :=
  at?_set tree _ (isPath_of_at? h (by simp)) found

theorem IsRewrite.refl (tree : FileTree) : IsRewrite tree tree :=
  ⟨⟨rfl, fun _ => .inl rfl⟩, rfl, rfl, rfl, rfl⟩

theorem SameShape.trans (h : SameShape tree other) (hnext : SameShape other next) :
    SameShape tree next := by
  refine ⟨h.current_eq.trans hnext.current_eq, fun place => ?_⟩
  rcases h.at?_eq place with heq | ⟨old, mid, hold, hmid⟩
  · rw [heq]
    exact hnext.at?_eq place
  · rcases hnext.at?_eq place with heq | ⟨mid', new, -, hnew⟩
    · exact .inr ⟨old, mid, hold, heq ▸ hmid⟩
    · exact .inr ⟨old, new, hold, hnew⟩

theorem IsRewrite.trans (h : IsRewrite tree other) (hnext : IsRewrite other next) :
    IsRewrite tree next :=
  ⟨h.toSameShape.trans hnext.toSameShape, h.paths_eq.trans hnext.paths_eq,
    h.unreadable_eq.trans hnext.unreadable_eq, h.unwritable_eq.trans hnext.unwritable_eq,
    h.torn_eq.trans hnext.torn_eq⟩

/-- A new content of a file changes nothing else. -/
theorem isRewrite_set (h : tree.at? place = some (.file old)) (content : ByteArray) :
    IsRewrite tree (tree.set place (.file content)) := by
  have hmem := mem_paths_of_at? h (by simp)
  have hpath := tree.named _ hmem
  refine ⟨⟨?_, fun found => ?_⟩, ?_, ?_, ?_, ?_⟩
  · rw [set, dif_pos hpath]
  · rw [at?_set_file h]
    split
    · next hplace => exact .inr ⟨old, content, hplace ▸ h, rfl⟩
    · exact .inl rfl
  · rw [set, dif_pos hpath]
    exact ((map_fst_update place _ tree.entries).trans (if_pos hmem)).symm
  all_goals rw [set, dif_pos hpath]

theorem eq_of_find?_eq {α : Type} {list list' : List (Path × α)}
    (hpaths : list.map Prod.fst = list'.map Prod.fst) (hnodup : (list.map Prod.fst).Nodup)
    (h : ∀ path, find? path list = find? path list') : list = list' := by
  induction list generalizing list' with
  | nil => exact (List.map_eq_nil_iff.1 hpaths.symm).symm
  | cons head rest ih =>
    obtain ⟨path, value⟩ := head
    obtain _ | ⟨⟨path', value'⟩, rest'⟩ := list'
    · simp at hpaths
    simp only [List.map_cons, List.cons.injEq] at hpaths
    obtain ⟨rfl, hrest⟩ := hpaths
    rw [List.map_cons, List.nodup_cons] at hnodup
    have hvalue := h path
    simp only [find?, if_true, Option.some.injEq] at hvalue
    rw [hvalue, ih hrest hnodup.2 fun found => ?_]
    by_cases hfound : found = path
    · rw [hfound, find?_eq_none_iff.2 hnodup.1, find?_eq_none_iff.2 (hrest ▸ hnodup.1)]
    · simpa [find?, hfound] using h found

/-- Two rewritings of a tree are equal if they have the same entries. -/
theorem IsRewrite.eq_of_at?_eq (h : IsRewrite tree other) (hnext : IsRewrite tree next)
    (hat : ∀ place, other.at? place = next.at? place) : other = next := by
  have hentries : other.entries = next.entries := by
    refine eq_of_find?_eq (h.paths_eq.symm.trans hnext.paths_eq) other.distinct fun place => ?_
    cases place with
    | nil =>
      have hroot (tree : FileTree) : find? [] tree.entries = none :=
        find?_eq_none_iff.2 fun hmem => (tree.named [] hmem).1 rfl
      rw [hroot, hroot]
    | cons name names => exact hat (name :: names)
  have hcurrent := h.current_eq.symm.trans hnext.current_eq
  have hunreadable := h.unreadable_eq.symm.trans hnext.unreadable_eq
  have hunwritable := h.unwritable_eq.symm.trans hnext.unwritable_eq
  have htorn := h.torn_eq.symm.trans hnext.torn_eq
  obtain ⟨_, _, _, _, _, _, _⟩ := other
  obtain ⟨_, _, _, _, _, _, _⟩ := next
  simp only at hentries hcurrent hunreadable hunwritable htorn
  subst hentries hcurrent hunreadable hunwritable htorn
  rfl

namespace SameShape

theorem isDirectory_eq (h : SameShape tree other) (place : Path) :
    tree.isDirectory place = other.isDirectory place := by
  rcases h.at?_eq place with heq | ⟨old, new, hold, hnew⟩
  · rw [isDirectory, isDirectory, heq]
  · simp [isDirectory, hold, hnew]

/-- A walk goes the same way in both trees as long as it meets no link. -/
theorem walkFrom_eq (h : SameShape tree other) (last : PathEnd)
    (follow : Path → List Name → Except FileError Path) (names : List Name) (place : Path) :
    walkFrom tree last follow place names = walkFrom other last follow place names := by
  induction names generalizing place with
  | nil => rfl
  | cons name names ih =>
    rw [walkFrom, walkFrom, h.isDirectory_eq, ih, ih]
    rcases h.at?_eq (place ++ [name]) with heq | ⟨old, new, hold, hnew⟩
    · simp only [heq, ih]
    · simp only [hold, hnew, ih]

theorem walkLinks_eq (h : SameShape tree other) (last : PathEnd) (links : Nat) :
    walkLinks tree last links = walkLinks other last links := by
  induction links with
  | zero => exact funext fun place => funext fun names => h.walkFrom_eq last _ names place
  | succ links ih =>
    funext place names
    rw [walkLinks, walkLinks, ih]
    exact h.walkFrom_eq last _ names place

/-- **A path leads to the same place in both trees.** -/
theorem resolve_eq (h : SameShape tree other) (path : RawPath) (last : PathEnd) :
    tree.resolve path last = other.resolve path last := by
  rw [resolve, resolve, h.walkLinks_eq, h.current_eq]

end SameShape

/-! ### Accesses to one file -/

/-- What it takes to read a file. -/
theorem readFile_eq_ok_iff : tree.readFile path = .ok content ↔ ∃ place,
    tree.resolve path = .ok place ∧ find? place tree.unreadable = none ∧
      tree.at? place = some (.file content) := by
  rw [readFile]
  cases tree.resolve path with
  | error error => simp [bind, Except.bind]
  | ok place =>
    simp only [bind, Except.bind, Except.ok.injEq, exists_eq_left']
    split <;> simp_all

/-- What it takes to write a file that is there, and what becomes of the tree. -/
theorem writeFile_eq_ok_iff (hresolve : tree.resolve path = .ok place)
    (hat : tree.at? place = some (.file old)) : tree.writeFile path content = .ok next ↔
      find? place tree.unwritable = none ∧ tree.set place (.file content) = next := by
  rw [writeFile, resolve_place hresolve]
  simp only [bind, Except.bind, hat]
  cases find? place tree.unwritable <;> simp

/-- What a failed write does to a file that is there. -/
theorem tearFile_eq (hresolve : tree.resolve path = .ok place)
    (hat : tree.at? place = some (.file old)) : tree.tearFile path =
      match find? place tree.torn with
      | some content => tree.set place (.file content)
      | none => tree := by
  rw [tearFile, resolve_place hresolve]
  simp only [hat]
  cases find? place tree.torn <;> rfl

/-- A file that can be read has the written content after a write. -/
theorem readFile_of_writeFile (hread : tree.readFile path = .ok old)
    (hwrite : tree.writeFile path content = .ok next) : next.readFile path = .ok content := by
  obtain ⟨place, hresolve, hreadable, hat⟩ := readFile_eq_ok_iff.1 hread
  obtain ⟨-, rfl⟩ := (writeFile_eq_ok_iff hresolve hat).1 hwrite
  have hrewrite := isRewrite_set hat content
  refine readFile_eq_ok_iff.2 ⟨place, ?_, hrewrite.unreadable_eq ▸ hreadable, ?_⟩
  · rw [← hrewrite.resolve_eq, hresolve]
  · rw [at?_set_file hat, if_pos rfl]

/-- A write to a file that is there makes and removes nothing. -/
theorem isRewrite_of_writeFile (hread : tree.readFile path = .ok old)
    (hwrite : tree.writeFile path content = .ok next) : IsRewrite tree next := by
  obtain ⟨place, hresolve, -, hat⟩ := readFile_eq_ok_iff.1 hread
  obtain ⟨-, rfl⟩ := (writeFile_eq_ok_iff hresolve hat).1 hwrite
  exact isRewrite_set hat content

/-- A write to a file that is there leaves everything else alone. -/
theorem at?_of_writeFile (hread : tree.readFile path = .ok old)
    (hwrite : tree.writeFile path content = .ok next) (hother : tree.resolve path ≠ .ok found) :
    next.at? found = tree.at? found := by
  obtain ⟨place, hresolve, -, hat⟩ := readFile_eq_ok_iff.1 hread
  obtain ⟨-, rfl⟩ := (writeFile_eq_ok_iff hresolve hat).1 hwrite
  rw [at?_set_file hat, if_neg]
  rintro rfl
  exact hother hresolve

/-- A failed write to a file that is there makes and removes nothing. -/
theorem isRewrite_tearFile (hread : tree.readFile path = .ok old) :
    IsRewrite tree (tree.tearFile path) := by
  obtain ⟨place, hresolve, -, hat⟩ := readFile_eq_ok_iff.1 hread
  rw [tearFile_eq hresolve hat]
  split
  · exact isRewrite_set hat _
  · exact .refl tree

/-- A failed write to a file that is there leaves everything else alone. -/
theorem at?_tearFile (hread : tree.readFile path = .ok old)
    (hother : tree.resolve path ≠ .ok found) : (tree.tearFile path).at? found = tree.at? found := by
  obtain ⟨place, hresolve, -, hat⟩ := readFile_eq_ok_iff.1 hread
  rw [tearFile_eq hresolve hat]
  split
  · rw [at?_set_file hat, if_neg]
    rintro rfl
    exact hother hresolve
  · rfl

/-! ### Texts -/

theorem readText_eq_ok_iff {text : String} :
    tree.readText path = .ok text ↔ tree.readFile path = .ok text.toUTF8 := by
  rw [readText]
  cases tree.readFile path with
  | error error => simp [bind, Except.bind]
  | ok content =>
    rw [Except.ok.injEq, ← Bytes.fromUTF8?_eq_some_iff]
    simp only [bind, Except.bind]
    split <;> simp_all

/-- **A file that was written has the written text.** -/
theorem readText_of_writeFile {text new : String} (hread : tree.readText path = .ok text)
    (hwrite : tree.writeFile path new.toUTF8 = .ok next) : next.readText path = .ok new :=
  readText_eq_ok_iff.2 (readFile_of_writeFile (readText_eq_ok_iff.1 hread) hwrite)

end FileTree

end SiteWeave
