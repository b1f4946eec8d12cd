import SiteWeave.FileTree.Access

/-!
# Changing a file tree from outside

Between two builds files are written, linked and removed. An entry is put in its place together with
the directories on the way; links on the way are followed.

## Main definitions

* `FileTree.put`: the tree with an entry at a written path.
* `FileTree.remove`: the tree without what a written path leads to.
* `FileTree.changedSince`: the regular files that are new or have another content.
-/

namespace SiteWeave

namespace RawPath

/-- A path from the names that lead to it. -/
def ofPath (path : Path) : RawPath :=
  List.intercalate [slash] path

/-- The first of two paths comes before the other in the order of their bytes. -/
def before : RawPath → RawPath → Bool
  | [], _ => true
  | _ :: _, [] => false
  | a :: path, b :: other => a < b || (a == b && before path other)

end RawPath

namespace FileTree

/-- Step from a directory to a name in it, which becomes a directory if nothing stands there. -/
def descend (tree : FileTree) (place : Path) (name : Name) : Option (FileTree × Path) :=
  if name = [] ∨ name = [0x2E] then some (tree, place)
  else if name = [0x2E, 0x2E] then some (tree, place.dropLast)
  else
    let next := place ++ [name]
    match tree.at? next with
    | none => some (tree.set next .directory, next)
    | some .directory => some (tree, next)
    | some (.file _) => none
    | some (.link target) =>
      match walkLinks tree .target maxLinks (RawPath.start target place)
          (RawPath.components target) with
      | .ok place => some (tree, place)
      | .error _ => none

/-- Step from a directory through all names. -/
def descendAll (tree : FileTree) (place : Path) : List Name → Option (FileTree × Path)
  | [] => some (tree, place)
  | name :: names =>
    match descend tree place name with
    | some (tree, place) => descendAll tree place names
    | none => none

/-- The place where a file is written that goes to `place`: a link there is followed. -/
def writePlace (tree : FileTree) (place : Path) : Path :=
  match tree.at? place with
  | some (.link target) =>
    let directory := RawPath.start target place.dropLast
    match walkLinks tree .target maxLinks directory (RawPath.components target) with
    | .ok place => place
    | .error _ => directory ++ RawPath.components target
  | _ => place

/-- The tree with an entry at a path, and directories on the way. What cannot be put there leaves
the tree as it was. -/
def put (tree : FileTree) (path : RawPath) (entry : Entry) : FileTree :=
  let names := RawPath.components path
  match entry with
  | .directory => (descendAll tree (RawPath.start path tree.current) names).elim tree Prod.fst
  | _ =>
    match names.getLast?, descendAll tree (RawPath.start path tree.current) names.dropLast with
    | some name, some (tree, place) =>
      let place := place ++ [name]
      match entry, tree.at? place with
      | .file _, some .directory => tree
      | .file _, _ => tree.set (tree.writePlace place) entry
      | _, none => tree.set place entry
      | _, some _ => tree
    | _, _ => tree

/-- The tree without an entry and all below it. -/
def erase (tree : FileTree) (place : Path) : FileTree :=
  { tree with
    entries := tree.entries.filter fun (path, _) => !place.isPrefixOf path
    distinct := List.Nodup.sublist (List.filter_sublist.map Prod.fst) tree.distinct
    named := fun path hpath => tree.named path ((List.filter_sublist.map Prod.fst).subset hpath) }

/-- The tree without the entry that a path leads to and all below it; a link itself is removed. -/
def remove (tree : FileTree) (path : RawPath) : FileTree :=
  match tree.resolve path .entry with
  | .ok place => tree.erase place
  | .error _ => tree

/-- The regular files that are new or have another content than in `old`, in the order of the bytes
of their paths. -/
def changedSince (tree old : FileTree) : List (RawPath × ByteArray) :=
  let files := tree.entries.filterMap fun (path, entry) =>
    match entry with
    | .file content =>
      if old.at? path = some entry then none else some (RawPath.ofPath path, content)
    | _ => none
  files.mergeSort fun a b => RawPath.before a.1 b.1

end FileTree

end SiteWeave
