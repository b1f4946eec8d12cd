import SiteWeave.Proofs.Build.Pages
import SiteWeave.Proofs.FileTree.Mend
import SiteWeave.Proofs.SiteData.Load

/-!
# Opening a build

A build reads all its sources and finds all its pages before it deals with the first one. These
actions leave the file tree alone, and what they give depends on nothing but the tree. They fail
with the first of five stages that fails: the settings, the patterns, the data, the fragments and
the walk, each of which can be tried on its own.

## Main definitions

* `Build.stageErrors`, `Build.firstError?`: the errors of the stages, and the first one.

## Main results

* `Build.reads_load`: a build is loaded by reading, in stages.
* `Build.firstError?_eq`: a build fails to open with the error of the first stage that fails.
* `Build.resultOn_load_of_isMended`, `Build.resultOn_pages_of_isMended`: a build that opens on a tree
  opens the same way on a mended one.
-/

namespace SiteWeave

open BuildM

variable {build : Build} {pages : List String} {root directory : RawPath} {tree mended : FileTree}

/-! ### The sources -/

namespace Sources

/-- The settings in a directory of a tree. -/
def settingsIn (tree : FileTree) (sources : RawPath) : Except BuildError Settings :=
  match settingsFile? tree sources with
  | none => .ok {}
  | some path => ((tree.readText path).mapError .file).bind fun text =>
    (Settings.parse text.toList).mapError .settings

theorem reads_loadSettings (sources : RawPath) :
    Reads (loadSettings sources) fun tree => settingsIn tree sources := by
  have hread (tree : FileTree) : Reads (match settingsFile? tree sources with
      | none => return {}
      | some path => do
        let text ← check .file (tree.readText path)
        check .settings (Settings.parse text.toList)) fun _ => settingsIn tree sources := by
    rw [settingsIn]
    split
    · exact reads_pure _
    · exact (reads_check _ _).bind fun _ => reads_check _ _
  exact reads_tree.bind fun tree => (reads_note _).bind fun _ => hread tree

theorem reads_loadData (directory : RawPath) :
    Reads (loadData directory) fun tree => (SiteData.load tree directory).mapError .data :=
  (reads_note _).bind fun _ => reads_tree.bind fun _ => reads_check _ _

theorem reads_loadFragments (directory : RawPath) :
    Reads (loadFragments directory) fun tree =>
      ((tree.listDirectory directory).mapError .file).bind fun names =>
        (fragmentsIn tree directory {} names).mapError .file :=
  reads_tree.bind fun _ => (reads_check _ _).bind fun _ => (reads_note _).bind fun _ =>
    reads_check _ _

end Sources

namespace Build

/-! ### The stages -/

/-- **A build is loaded in stages.** -/
theorem reads_load (root : RawPath) : Reads (load root) fun tree => do
    let settings ← resultOn (Sources.loadSettings (root.join Sources.directory)) tree
    let excluded ← settings.excluded.mapError .pattern
    let data ← resultOn
      (Sources.loadData ((root.join Sources.directory).join Sources.dataDirectory)) tree
    let fragments ← resultOn
      (Sources.loadFragments ((root.join Sources.directory).join Sources.fragmentDirectory)) tree
    return ⟨root, settings, excluded, data, fragments, (indexPosts data.posts).1⟩ :=
  (Sources.reads_loadSettings _).toResultOn.bind fun _ => (reads_check _ _).bind fun _ =>
    (Sources.reads_loadData _).toResultOn.bind fun _ =>
      (Sources.reads_loadFragments _).toResultOn.bind fun _ => (reads_say _).bind fun _ =>
        (reads_say _).bind fun _ => (reads_note _).bind fun _ => reads_pure _

/-- The error of a result, if it is one. -/
def error? {ε α : Type} : Except ε α → Option ε
  | .ok _ => none
  | .error error => some error

/-- The errors of the stages in which a build is opened, each of them tried on its own; only the
patterns have to be read from settings. -/
def stageErrors (tree : FileTree) (root : RawPath) : List (Option BuildError) :=
  let sources := root.join Sources.directory
  let settings := resultOn (Sources.loadSettings sources) tree
  [error? settings,
    settings.toOption.bind fun settings => error? (settings.excluded.mapError .pattern),
    error? (resultOn (Sources.loadData (sources.join Sources.dataDirectory)) tree),
    error? (resultOn (Sources.loadFragments (sources.join Sources.fragmentDirectory)) tree),
    error? (((tree.walk enters root).mapM id).mapError .walk)]

/-- The error of the first stage that fails. -/
def firstError? (tree : FileTree) (root : RawPath) : Option BuildError :=
  (stageErrors tree root).findSome? id

/-- **A build fails to open with the error of the first stage that fails.** -/
theorem firstError?_eq (tree : FileTree) (root : RawPath) : firstError? tree root =
    error? ((resultOn (load root) tree).bind fun build => resultOn build.pages tree) := by
  rw [(reads_load root).resultOn_eq, firstError?, stageErrors]
  generalize root.join Sources.directory = sources
  generalize resultOn (Sources.loadData (sources.join Sources.dataDirectory)) tree = data
  generalize resultOn (Sources.loadFragments (sources.join Sources.fragmentDirectory)) tree =
    fragments
  cases resultOn (Sources.loadSettings sources) tree with
  | error error => rfl
  | ok settings =>
    simp only [Except.toOption, Option.bind_some, bind, Except.bind]
    generalize settings.excluded.mapError BuildError.pattern = excluded
    obtain error | excluded := excluded
    · rfl
    obtain error | data := data
    · rfl
    obtain error | fragments := fragments
    · rfl
    simp only [pure, Except.pure, (reads_pages _).resultOn_eq, pagesIn_fst]
    cases (tree.walk enters root).mapM id <;> rfl

theorem load_root (h : resultOn (load root) tree = .ok build) : build.root = root := by
  rw [(reads_load root).resultOn_eq] at h
  obtain ⟨settings, -, h⟩ := bind_eq_ok_iff.1 h
  obtain ⟨excluded, -, h⟩ := bind_eq_ok_iff.1 h
  obtain ⟨data, -, h⟩ := bind_eq_ok_iff.1 h
  obtain ⟨fragments, -, h⟩ := bind_eq_ok_iff.1 h
  rw [← Except.ok.inj h]

end Build

/-! ### Mended trees -/

theorem SiteData.load_of_isMended (h : tree.IsMended mended) {data : SiteData}
    (hload : SiteData.load tree directory = .ok data) :
    SiteData.load mended directory = .ok data := by
  have hread {α : Type} {path : RawPath} {reader : Reader α} {value : α}
      (hdocument : DocumentRead tree path reader (.ok value)) :
      DocumentRead mended path reader (.ok value) := by
    cases hdocument with
    | accepted text value hread haccepted => exact .accepted text value (h.readText hread) haccepted
  rw [load_eq_iff_loaded] at hload ⊢
  cases hload with
  | data site posts sorted hsite hposts hcollected =>
    exact .data site posts sorted (hread hsite) (hread hposts) hcollected

namespace Sources

theorem settingsIn_of_isMended (h : tree.IsMended mended) {settings : Settings}
    (hok : settingsIn tree directory = .ok settings) :
    settingsIn mended directory = .ok settings := by
  rw [settingsIn, settingsFile?] at hok ⊢
  rw [← h.hasEntry_eq]
  split at hok
  · exact hok
  · obtain ⟨text, hread, hparse⟩ := bind_eq_ok_iff.1 hok
    rw [mapError_eq_ok_iff] at hread
    exact bind_eq_ok_iff.2 ⟨text, mapError_eq_ok_iff.2 (h.readText hread), hparse⟩

theorem fragmentsIn_of_isMended (h : tree.IsMended mended) {names : List Name}
    {fragments result : Fragments} (hok : fragmentsIn tree directory fragments names = .ok result) :
    fragmentsIn mended directory fragments names = .ok result := by
  induction names generalizing fragments with
  | nil => exact hok
  | cons name names ih =>
    rw [fragmentsIn, fragmentName?] at hok ⊢
    rw [← h.isFile_eq]
    split at hok
    · exact ih hok
    · split at hok
      · simp at hok
      · next text hread =>
        rw [h.readText hread]
        exact ih hok

end Sources

namespace Build

/-- **A build that opens on a tree opens the same way on a mended one.** -/
theorem resultOn_load_of_isMended (h : tree.IsMended mended)
    (hload : resultOn (load root) tree = .ok build) :
    resultOn (load root) mended = .ok build := by
  rw [(reads_load root).resultOn_eq] at hload ⊢
  obtain ⟨settings, hsettings, hload⟩ := bind_eq_ok_iff.1 hload
  obtain ⟨excluded, hexcluded, hload⟩ := bind_eq_ok_iff.1 hload
  obtain ⟨data, hdata, hload⟩ := bind_eq_ok_iff.1 hload
  obtain ⟨fragments, hfragments, hload⟩ := bind_eq_ok_iff.1 hload
  refine bind_eq_ok_iff.2 ⟨settings, ?_, bind_eq_ok_iff.2 ⟨excluded, hexcluded,
    bind_eq_ok_iff.2 ⟨data, ?_, bind_eq_ok_iff.2 ⟨fragments, ?_, hload⟩⟩⟩⟩
  · rw [(Sources.reads_loadSettings _).resultOn_eq] at hsettings ⊢
    exact Sources.settingsIn_of_isMended h hsettings
  · rw [(Sources.reads_loadData _).resultOn_eq, mapError_eq_ok_iff] at hdata ⊢
    exact SiteData.load_of_isMended h hdata
  · rw [(Sources.reads_loadFragments _).resultOn_eq] at hfragments ⊢
    obtain ⟨names, hnames, hfragments⟩ := bind_eq_ok_iff.1 hfragments
    rw [mapError_eq_ok_iff] at hnames hfragments
    exact bind_eq_ok_iff.2 ⟨names, mapError_eq_ok_iff.2 (h.listDirectory hnames),
      mapError_eq_ok_iff.2 (Sources.fragmentsIn_of_isMended h hfragments)⟩

/-- **Pages that are found in a tree** are found in a mended one. -/
theorem resultOn_pages_of_isMended (h : tree.IsMended mended)
    (hpages : resultOn build.pages tree = .ok pages) :
    resultOn build.pages mended = .ok pages := by
  obtain ⟨files, hwalk, hfiles⟩ := pages_eq_ok_iff.1 hpages
  refine pages_eq_ok_iff.2 ⟨files, (h.walk_eq fun item hmem => ?_).trans hwalk, hfiles⟩
  obtain ⟨file, -, rfl⟩ := List.mem_map.1 (hwalk ▸ hmem)
  exact ⟨file, rfl⟩

end Build

end SiteWeave
