import SiteWeave.FileTree.Edit

/-!
# Walking a file tree

A walk visits a directory and all directories below it that are not kept out, each in the order of
its names, and finds the regular files. Links below the start are neither followed nor found. Where
a directory cannot be listed, the walk finds an error.

## Main definitions

* `FoundFile`: a regular file that a walk found.
* `WalkError`: an error that a walk found.
* `FileTree.walk`: what is found below a path.
-/

namespace SiteWeave

/-- A regular file that a walk found. -/
structure FoundFile where
  /-- The path of the file as it is shown, with the start of the walk in front. -/
  shown : RawPath
  /-- The names that lead from the start to the file. -/
  relative : List Name
deriving DecidableEq

/-- The name of a file. -/
def FoundFile.name (file : FoundFile) : Name :=
  match file.relative.getLast? with
  | some name => name
  | none => (RawPath.components file.shown).getLast?.getD []

/-- An error that a walk found: the path of what could not be listed, and why. -/
structure WalkError where
  path : RawPath
  error : FileError
deriving DecidableEq

/-- The message of an error. -/
def WalkError.message (error : WalkError) : String :=
  "IO error for operation on " ++ error.path.display ++ ": " ++ error.error.message

namespace FileTree

/-- The names in a directory that is shown under a path, in their order. -/
def sortedNames (tree : FileTree) (directory : Path) (shown : RawPath) :
    Except FileError (List Name) := do
  RawPath.check shown
  return (← tree.listNames directory).mergeSort RawPath.before

/-- What is found below a directory, depth first; `fuel` bounds the depth. -/
def findBelow (tree : FileTree) (enters : Name → Bool) :
    Nat → Path → RawPath → List Name → List (Except WalkError FoundFile)
  | 0, _, _, _ => []
  | fuel + 1, directory, shown, relative =>
    match tree.sortedNames directory shown with
    | .error error => [.error ⟨shown, error⟩]
    | .ok names => names.flatMap fun name =>
      let place := directory ++ [name]
      match tree.at? place with
      | some (.file _) => [.ok ⟨shown.join name, relative ++ [name]⟩]
      | some .directory =>
        if enters name then
          findBelow tree enters fuel place (shown.join name) (relative ++ [name])
        else []
      | _ => []

/-- What is found below a path; directories with a name that `enters` refuses are kept out. A start
that is a file is found itself; one that is a link is followed to a directory. -/
def walk (tree : FileTree) (enters : Name → Bool) (start : RawPath) :
    List (Except WalkError FoundFile) :=
  match tree.resolve start .entry with
  | .error error => [.error ⟨start, error⟩]
  | .ok place =>
    match tree.at? place with
    | some (.link _) =>
      match tree.resolve start with
      | .error error => [.error ⟨start, error⟩]
      | .ok place =>
        if tree.isDirectory place then
          findBelow tree enters (tree.entries.length + 1) place start []
        else []
    | some (.file _) => [.ok ⟨start, []⟩]
    | _ => findBelow tree enters (tree.entries.length + 1) place start []

end FileTree

end SiteWeave
