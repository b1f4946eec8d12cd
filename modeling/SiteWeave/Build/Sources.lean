import SiteWeave.Build.Session
import SiteWeave.Fragments
import SiteWeave.HtmlFile

/-!
# The sources of a build

The settings, the data and the fragments of a site stand in one directory below its root. The
settings are those of the first settings file that is there; without one they have their defaults.

## Main definitions

* `Sources.settingsFile?`, `Sources.loadSettings`: the settings.
* `Sources.loadData`: the data.
* `Sources.fragmentName?`, `Sources.fragmentsIn`, `Sources.loadFragments`: the fragments.
* `Sources.fragmentsLog`: what is logged about them.
-/

namespace SiteWeave.Sources

open BuildM

/-- The directory of the sources below the root of a site. -/
def directory : RawPath := Bytes.ofString "_src"

/-- The directory of the data in that of the sources. -/
def dataDirectory : RawPath := Bytes.ofString "_data"

/-- The directory of the fragments in that of the sources. -/
def fragmentDirectory : RawPath := Bytes.ofString "_includes"

/-- The names of settings files; an earlier one hides the later ones. -/
def settingsNames : List String :=
  ["sitepatch.json", "sitepatch.yml", "sitepatch.yaml"]

/-- The settings file in a directory, if there is one. -/
def settingsFile? (tree : FileTree) (sources : RawPath) : Option RawPath :=
  (settingsNames.map fun name => sources.join (Bytes.ofString name)).find? tree.hasEntry

/-- What is logged about the settings file. -/
def settingsLog (file : Option RawPath) : LogRecord :=
  ⟨.debug, .config, match file with
    | some path => "Loading configuration from " ++ path.display
    | none => "No configuration file found (tried: " ++ String.intercalate ", " settingsNames ++
        "), using defaults"⟩

/-- The settings in a directory. -/
def loadSettings (sources : RawPath) : BuildM Settings := do
  let tree ← tree
  let file := settingsFile? tree sources
  note [settingsLog file]
  match file with
  | none => return {}
  | some path =>
    let text ← check .file (tree.readText path)
    check .settings (Settings.parse text.toList)

/-- The data in a directory. -/
def loadData (directory : RawPath) : BuildM SiteData := do
  note [⟨.debug, .data, "Loading data from " ++ directory.display⟩]
  check .data (SiteData.load (← tree) directory)

/-- The name of the fragment in a file, if the file holds one. -/
def fragmentName? (tree : FileTree) (path : RawPath) (name : Name) : Option String :=
  if tree.isFile path then (htmlStem? name).bind Bytes.toString? else none

/-- The fragments in a directory that lists the given names; the first file that cannot be read is
reported. -/
def fragmentsIn (tree : FileTree) (directory : RawPath) (fragments : Fragments) :
    List Name → Except FileError Fragments
  | [] => .ok fragments
  | name :: names =>
    let path := directory.join name
    match fragmentName? tree path name with
    | none => fragmentsIn tree directory fragments names
    | some fragment =>
      match tree.readText path with
      | .error error => .error error
      | .ok text => fragmentsIn tree directory (fragments.insert fragment text) names

/-- What is logged about the fragments in a directory that lists the given names. A file is announced
before it is read, so the last one announced is the first that cannot be read, if there is one. -/
def fragmentsLog (tree : FileTree) (directory : RawPath) : List Name → List LogRecord
  | [] => []
  | name :: names =>
    let path := directory.join name
    match fragmentName? tree path name with
    | none => fragmentsLog tree directory names
    | some fragment =>
      ⟨.debug, .fragments, "Loading fragment '" ++ fragment ++ "' from " ++ path.display⟩ ::
        if (tree.readText path).isOk then fragmentsLog tree directory names else []

/-- The fragments in a directory. -/
def loadFragments (directory : RawPath) : BuildM Fragments := do
  let tree ← tree
  let names ← check .file (tree.listDirectory directory)
  note (fragmentsLog tree directory names)
  check .file (fragmentsIn tree directory {} names)

end SiteWeave.Sources
