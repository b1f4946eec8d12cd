import SiteWeave.FileTree.Basic

/-!
# Access to files by path

A path as it is written is walked from the root or from the current directory: empty and single-dot
components stay, double-dot components go up, and symbolic links lead to their targets, up to a
number of links. Every component but the last must be a directory, and also the last if a slash
follows it. The last one can stand for a link itself, and for an entry that is yet to be made.

## Main definitions

* `RawPath`, `RawPath.join`, `RawPath.components`: paths as they are written.
* `FileTree.PathEnd`, `FileTree.resolve`: the place that a written path leads to.
* `FileTree.readFile`, `FileTree.readText`, `FileTree.writeFile`, `FileTree.listDirectory`,
  `FileTree.hasEntry`, `FileTree.isFile`: the accesses.
* `FileTree.tearFile`: what a failed write does.
-/

namespace SiteWeave

/-- A path as it is written. -/
abbrev RawPath := Bytes

namespace RawPath

/-- The byte of the slash. -/
def slash : UInt8 := 0x2F

/-- A path below another: an absolute path stands for itself, and a slash separates the two unless
there is one already. -/
def join (base path : RawPath) : RawPath :=
  if path.head? = some slash then path
  else if base.isEmpty || base.getLast? = some slash then base ++ path
  else base ++ slash :: path

/-- The parts of a path between its slashes. -/
def components : RawPath → List Name
  | [] => [[]]
  | b :: rest =>
    match components rest with
    | [] => [[b]]
    | first :: others => if b = slash then [] :: first :: others else (b :: first) :: others

/-- The directory that a path starts from, given the one that relative paths start from. -/
def start (path : RawPath) (directory : Path) : Path :=
  if path.head? = some slash then [] else directory

/-- The first part of a name that the file system checks: paths without a zero byte, not too long
and not empty. -/
def check (path : RawPath) : Except FileError Unit :=
  if path.contains 0 then .error .zeroByte
  else if path.isEmpty then .error .notFound
  else if 4096 ≤ path.length then .error .nameTooLong
  else .ok ()

end RawPath

namespace FileTree

/-- The number of links that are followed on the way to an entry. -/
def maxLinks : Nat := 40

/-- The longest name of an entry. -/
def maxNameLength : Nat := 255

/-- What the last component of a path stands for. -/
inductive PathEnd where
  /-- The entry with this name, also if it is a link. -/
  | entry
  /-- The entry with this name, or what it leads to if it is a link. -/
  | target
  /-- The same, or the place of a new entry if there is none. -/
  | place
deriving DecidableEq, Repr

/-- Walk components from a place; `follow` walks on through a link. -/
def walkFrom (tree : FileTree) (last : PathEnd)
    (follow : Path → List Name → Except FileError Path) :
    Path → List Name → Except FileError Path
  | place, [] => .ok place
  | place, name :: rest =>
    if !tree.isDirectory place then .error .notDirectory
    else if name = [] ∨ name = [0x2E] then walkFrom tree last follow place rest
    else if name = [0x2E, 0x2E] then walkFrom tree last follow place.dropLast rest
    else if maxNameLength < name.length then .error .nameTooLong
    else
      match tree.at? (place ++ [name]) with
      | none =>
        if rest.isEmpty && last = .place then .ok (place ++ [name]) else .error .notFound
      | some (.link target) =>
        if rest.isEmpty && last = .entry then .ok (place ++ [name])
        else follow (RawPath.start target place) (RawPath.components target ++ rest)
      | some _ => walkFrom tree last follow (place ++ [name]) rest

/-- Walk components from a place through at most the given number of links. -/
def walkLinks (tree : FileTree) (last : PathEnd) : Nat → Path → List Name → Except FileError Path
  | 0 => walkFrom tree last fun _ _ => .error .tooManyLinks
  | links + 1 => walkFrom tree last (walkLinks tree last links)

/-- The place that a path leads to. -/
def resolve (tree : FileTree) (path : RawPath) (last : PathEnd := .target) :
    Except FileError Path := do
  RawPath.check path
  walkLinks tree last maxLinks (RawPath.start path tree.current) (RawPath.components path)

/-- The content of the file at a path. -/
def readFile (tree : FileTree) (path : RawPath) : Except FileError ByteArray := do
  let place ← tree.resolve path
  match find? place tree.unreadable, tree.at? place with
  | some error, _ => .error error
  | none, some (.file content) => .ok content
  | none, some _ => .error .isDirectory
  | none, none => .error .notFound

/-- The text of the file at a path. -/
def readText (tree : FileTree) (path : RawPath) : Except FileError String := do
  match String.fromUTF8? (← tree.readFile path) with
  | some text => .ok text
  | none => .error .notText

/-- The tree with a new content of the file at a path; a file that is not there is created. -/
def writeFile (tree : FileTree) (path : RawPath) (content : ByteArray) :
    Except FileError FileTree := do
  let place ← tree.resolve path .place
  match find? place tree.unwritable, tree.at? place with
  | some error, _ => .error error
  | none, none | none, some (.file _) => .ok (tree.set place (.file content))
  | none, some _ => .error .isDirectory

/-- The tree that a failed write of the file at a path leaves. -/
def tearFile (tree : FileTree) (path : RawPath) : FileTree :=
  match tree.resolve path .place with
  | .error _ => tree
  | .ok place =>
    match find? place tree.torn, tree.at? place with
    | some content, some (.file _) => tree.set place (.file content)
    | _, _ => tree

/-- The names in the directory at a place. -/
def listNames (tree : FileTree) (place : Path) : Except FileError (List Name) :=
  match find? place tree.unreadable with
  | some error => .error error
  | none => if tree.isDirectory place then .ok (tree.names place) else .error .notDirectory

/-- The names in the directory at a path. -/
def listDirectory (tree : FileTree) (path : RawPath) : Except FileError (List Name) := do
  tree.listNames (← tree.resolve path)

/-- Whether a path leads to an entry. -/
def hasEntry (tree : FileTree) (path : RawPath) : Bool :=
  match tree.resolve path with
  | .ok _ => true
  | .error _ => false

/-- Whether a path leads to a regular file. -/
def isFile (tree : FileTree) (path : RawPath) : Bool :=
  match tree.resolve path with
  | .ok place =>
    match tree.at? place with
    | some (.file _) => true
    | _ => false
  | .error _ => false

end FileTree

end SiteWeave
