import SiteWeave.CommandLine

/-!
# The program

What stands at the root of the site is read into a file tree, the build runs on the tree, and the
files that it changed are written back.

## Main definitions

* `Main.readTree`, `Main.writeTree`: the file tree of a site, and its way back.
* `main`: the program.
-/

namespace SiteWeave.Main

/-- A place in the file system; its links are resolved. -/
abbrev Place := IO.FS.DirEntry

/-- The place that a path leads to. -/
def Place.ofString (path : String) : IO Place := do
  return ⟨← IO.FS.realPath path, ""⟩

/-- The path of a place. -/
def Place.path (place : Place) : RawPath :=
  Bytes.ofString place.root.toString

/-- A file tree and the places that were read into it. -/
structure Survey where
  tree : FileTree
  visited : List RawPath := []

/-- The file tree that knows that what stands at a place cannot be read. -/
def markUnreadable (tree : FileTree) (place : Place) : FileTree :=
  match tree.resolve place.path with
  | .ok path => { tree with unreadable := (path, .permissionDenied) :: tree.unreadable }
  | .error _ => tree

/-- The file tree with the regular file at a place; a file that cannot be read is known as such. -/
def readFile (tree : FileTree) (place : Place) : IO FileTree := do
  try
    return tree.put place.path (.file (← IO.FS.readBinFile place.root))
  catch _ =>
    return markUnreadable (tree.put place.path (.file .empty)) place

mutual

/-- Read the entries of the directory at a place, and what links in it lead to; a directory that
cannot be listed is known as such. -/
partial def readDirectory (survey : Survey) (place : Place) : IO Survey := do
  let mut survey := { survey with tree := survey.tree.put place.path .directory }
  match ← place.root.readDir.toBaseIO with
  | .error _ => return { survey with tree := markUnreadable survey.tree place }
  | .ok entries =>
    for entry in entries do
      let path := Bytes.ofString entry.path.toString
      match (← entry.path.symlinkMetadata).type with
      | .symlink =>
        try
          let target ← Place.ofString entry.path.toString
          survey ← readPlace { survey with tree := survey.tree.put path (.link target.path) } target
        catch _ => pure ()
      | _ => survey ← readPlace survey ⟨entry.path, ""⟩
    return survey

/-- Read what stands at a place, once. -/
partial def readPlace (survey : Survey) (place : Place) : IO Survey := do
  if survey.visited.contains place.path then return survey
  let survey := { survey with visited := place.path :: survey.visited }
  match (← place.root.metadata).type with
  | .dir => readDirectory survey place
  | .file => return { survey with tree := ← readFile survey.tree place }
  | _ => return survey

end

/-- The file tree that holds what stands at a path. -/
def readTree (path : String) : IO FileTree := do
  let current := (← Place.ofString ".").path
  let names := (RawPath.components current).filter (· ≠ [])
  let tree := ({ current := names : FileTree }).put current .directory
  try
    let place ← Place.ofString path
    let tree := (← readPlace { tree } place).tree
    let raw := Bytes.ofString path
    return if tree.hasEntry raw then tree else tree.put raw (.link place.path)
  catch _ => return tree

/-- Write the files that differ between two file trees. Files are opened by paths that are texts, so
one with another path is reported, and the others are written all the same. -/
def writeTree (before after : FileTree) : IO Unit := do
  for (path, content) in after.changedSince before do
    let place : RawPath := RawPath.slash :: path
    match Bytes.toString? place with
    | some path => IO.FS.writeBinFile path content
    | none => IO.eprintln ("Cannot write " ++ place.display)

end SiteWeave.Main

open SiteWeave in
/-- Build the site that the command line names. -/
def main (words : List String) : IO UInt32 := do
  match Arguments.parse words with
  | .error error =>
    if error.exitCode = 0 then IO.println error.message else IO.eprintln error.message
    return UInt32.ofNat error.exitCode
  | .ok arguments =>
    let before ← Main.readTree arguments.root
    let (result, after) := arguments.run before
    Main.writeTree before after
    IO.print result.output
    IO.eprint result.report
    return UInt32.ofNat result.exitCode
