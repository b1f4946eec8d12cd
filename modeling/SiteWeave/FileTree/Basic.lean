import SiteWeave.Text.Utf8

/-!
# File trees

A file tree holds directories, regular files and symbolic links, and the directory that relative
paths start from. It knows of files and directories that cannot be read, of files that cannot be
written and of what a failed write leaves in them, so that failures of the medium can be talked
about.

## Main definitions

* `Name`, `Path`: the name of an entry and the names that lead to it.
* `IsName`, `IsPath`: names that an entry can have, and paths that an entry can stand at.
* `Entry`, `FileTree`: the entries of a tree.
* `FileError`: why an access fails, with its message.
* `FileTree.at?`, `FileTree.set`: the entry at a path.

## Main results

* `FileTree.at?_set`: setting an entry changes it and no other.
* `FileTree.nodup_update`: a path keeps its one entry.
* `FileTree.isPath_of_mem_update`: entries stand at paths.
-/

namespace SiteWeave

/-- The name of an entry in its directory. -/
abbrev Name := Bytes

/-- The names that lead from the root of a tree to an entry. -/
abbrev Path := List Name

/-- Whether an entry can have a name: it is not empty, none of the two names with dots that lead
back to a directory, and holds no slash. -/
def IsName (name : Name) : Prop :=
  name ≠ [] ∧ name ≠ [0x2E] ∧ name ≠ [0x2E, 0x2E] ∧ 0x2F ∉ name

instance (name : Name) : Decidable (IsName name) :=
  inferInstanceAs (Decidable (_ ∧ _))

/-- Whether an entry can stand at a path; the root is no entry. -/
def IsPath (path : Path) : Prop :=
  path ≠ [] ∧ ∀ name ∈ path, IsName name

instance (path : Path) : Decidable (IsPath path) :=
  inferInstanceAs (Decidable (_ ∧ _))

/-- Why an access to a file fails. -/
inductive FileError where
  | notFound
  | permissionDenied
  | notDirectory
  | isDirectory
  | noSpace
  | nameTooLong
  | tooManyLinks
  /-- A path with a zero byte. -/
  | zeroByte
  /-- A text was expected, but the bytes are not UTF-8. -/
  | notText
deriving DecidableEq, Repr

/-- The message of an error. -/
def FileError.message : FileError → String
  | notFound => "No such file or directory (os error 2)"
  | permissionDenied => "Permission denied (os error 13)"
  | notDirectory => "Not a directory (os error 20)"
  | isDirectory => "Is a directory (os error 21)"
  | noSpace => "No space left on device (os error 28)"
  | nameTooLong => "File name too long (os error 36)"
  | tooManyLinks => "Too many levels of symbolic links (os error 40)"
  | zeroByte => "file name contained an unexpected NUL byte"
  | notText => "stream did not contain valid UTF-8"

/-- What stands at a path. -/
inductive Entry where
  | file (content : ByteArray)
  | directory
  /-- A symbolic link to a path. -/
  | link (target : Bytes)

instance : DecidableEq Entry
  | .file a, .file b => decidable_of_iff (a.data = b.data) (by simp [ByteArray.ext_iff])
  | .directory, .directory => isTrue rfl
  | .link a, .link b => decidable_of_iff (a = b) (by simp)
  | .file _, .directory => isFalse nofun
  | .file _, .link _ => isFalse nofun
  | .directory, .file _ => isFalse nofun
  | .directory, .link _ => isFalse nofun
  | .link _, .file _ => isFalse nofun
  | .link _, .directory => isFalse nofun

/-- The entries of a tree, in the order in which directories list them. -/
structure FileTree where
  /-- The directory that relative paths start from. -/
  current : Path := []
  entries : List (Path × Entry) := []
  /-- A path has one entry. -/
  distinct : (entries.map Prod.fst).Nodup := by decide
  /-- The entries have names. -/
  named : ∀ path ∈ entries.map Prod.fst, IsPath path := by decide +kernel
  /-- The files and directories that cannot be read. -/
  unreadable : List (Path × FileError) := []
  /-- The files whose content cannot be written. -/
  unwritable : List (Path × FileError) := []
  /-- What a failed write leaves in a file; the other files keep their content. -/
  torn : List (Path × ByteArray) := []

namespace FileTree

/-- The value of a path in a list. -/
def find? {α : Type} (path : Path) : List (Path × α) → Option α
  | [] => none
  | (p, value) :: rest => if path = p then some value else find? path rest

/-- The list with the value of a path set; a new path comes last. -/
def update {α : Type} (path : Path) (value : α) : List (Path × α) → List (Path × α)
  | [] => [(path, value)]
  | (p, old) :: rest =>
    if path = p then (p, value) :: rest else (p, old) :: update path value rest

theorem map_fst_update {α : Type} (path : Path) (value : α) (list : List (Path × α)) :
    (update path value list).map Prod.fst =
      if path ∈ list.map Prod.fst then list.map Prod.fst else list.map Prod.fst ++ [path] := by
  induction list with
  | nil => simp [update]
  | cons head rest ih =>
    obtain ⟨p, old⟩ := head
    by_cases h : path = p
    · simp [update, h]
    · by_cases hm : path ∈ rest.map Prod.fst <;> simp_all [update]

theorem nodup_update {α : Type} (path : Path) (value : α) {list : List (Path × α)}
    (h : (list.map Prod.fst).Nodup) : ((update path value list).map Prod.fst).Nodup := by
  rw [map_fst_update]
  split
  · exact h
  · next hm =>
    rw [List.nodup_append]
    refine ⟨h, by simp, fun a ha b hb => ?_⟩
    rw [List.mem_singleton.1 hb]
    exact fun he => hm (he ▸ ha)

theorem isPath_of_mem_update {α : Type} {path : Path} (value : α) {list : List (Path × α)}
    (hpath : IsPath path) (h : ∀ other ∈ list.map Prod.fst, IsPath other) :
    ∀ other ∈ (update path value list).map Prod.fst, IsPath other := by
  rw [map_fst_update]
  split
  · exact h
  · intro other hmem
    rcases List.mem_append.1 hmem with hold | hnew
    · exact h other hold
    · rw [List.mem_singleton.1 hnew]
      exact hpath

/-- The entry at a path; the root is a directory. -/
def at? (tree : FileTree) : Path → Option Entry
  | [] => some .directory
  | path => find? path tree.entries

/-- The tree with an entry set; nothing can be set where no entry can stand. -/
def set (tree : FileTree) (path : Path) (entry : Entry) : FileTree :=
  if h : IsPath path then
    { tree with
      entries := update path entry tree.entries
      distinct := nodup_update path entry tree.distinct
      named := isPath_of_mem_update entry h tree.named }
  else tree

/-- Whether there is a directory at a path. -/
def isDirectory (tree : FileTree) (path : Path) : Bool :=
  tree.at? path = some .directory

/-- The names in a directory, in the order of the entries. -/
def names (tree : FileTree) (directory : Path) : List Name :=
  tree.entries.filterMap fun (path, _) =>
    match path.getLast? with
    | some name => if path.dropLast = directory then some name else none
    | none => none

theorem find?_update {α : Type} (path other : Path) (value : α) (list : List (Path × α)) :
    find? other (update path value list) =
      if other = path then some value else find? other list := by
  induction list with
  | nil => simp [update, find?]
  | cons head rest ih =>
    obtain ⟨p, old⟩ := head
    simp only [update]
    split
    · next h =>
      subst h
      by_cases ho : other = path <;> simp [find?, ho]
    · next h =>
      by_cases ho : other = p
      · have hne : other ≠ path := fun he => h (he.symm.trans ho)
        simp [find?, ho, Ne.symm h]
      · simp [find?, ho, ih]

/-- Setting an entry changes it and no other. -/
theorem at?_set (tree : FileTree) {path : Path} (entry : Entry) (h : IsPath path) (other : Path) :
    (tree.set path entry).at? other = if other = path then some entry else tree.at? other := by
  rw [set, dif_pos h]
  cases other with
  | nil => rw [if_neg h.1.symm]; rfl
  | cons name names => exact find?_update path (name :: names) entry tree.entries

end FileTree

end SiteWeave
