import Mathlib.Data.Set.List
import SiteWeave.Proofs.Build.Order
import SiteWeave.Proofs.FileTree.Listing

/-!
# The list of pages

If the walk through a site meets no error, the list of its pages is complete: it has the path of
every regular HTML file below directories that are not private, if the path is a text and no pattern
excludes it, and nothing else. Each path stands in the list once, and the list is ordered by the
names in the paths, where the first name that differs decides by its bytes. So a page in a directory
`a` comes before the page `a-b.html`, although its path is the greater text.

## Main definitions

* `Build.IsPage`: the texts are the names that lead from the root of the site to a page.
* `Build.IsListing`: the paths are those of all pages, in order.

## Main results

* `htmlStem?_eq_some_iff`: the names of HTML files.
* `Build.enters_ofString_iff`: the names of directories that are not private.
* `Build.isListing_pages`: the list of pages is complete and ordered.
-/

namespace SiteWeave

open BuildM

/-- The extension of an HTML file stands behind a name that is not empty. -/
theorem htmlStem?_eq_some_iff {name stem : Bytes} :
    htmlStem? name = some stem ↔ stem ≠ [] ∧ name = stem ++ Bytes.ofString ".html" := by
  have hrest (rest : Bytes) : htmlExtension.reverse.isPrefixOf? name.reverse = some rest ↔
      name = rest.reverse ++ htmlExtension := by
    rw [List.isPrefixOf?_eq_some_iff_append_eq, ← List.reverse_inj, List.reverse_append,
      List.reverse_reverse, List.reverse_reverse, eq_comm]
  rw [htmlStem?, ← htmlExtension]
  constructor
  · intro h
    split at h
    · next b rest heq =>
      obtain rfl := Option.some.inj h
      exact ⟨by simp, (hrest _).1 heq⟩
    · cases h
  · rintro ⟨hstem, hname⟩
    have hsome := (hrest stem.reverse).2 (by rw [hname, List.reverse_reverse])
    obtain ⟨b, rest, hcons⟩ := List.exists_cons_of_ne_nil (List.reverse_ne_nil_iff.2 hstem)
    rw [hsome, hcons]
    exact congrArg some (List.reverse_eq_iff.2 hcons.symm)

theorem isHtml_iff {name : Bytes} :
    isHtml name = true ↔ ∃ stem, stem ≠ [] ∧ name = stem ++ Bytes.ofString ".html" := by
  rw [isHtml, Option.isSome_iff_exists]
  simp only [htmlStem?_eq_some_iff]

namespace Build

variable {build : Build} {path : String} {pages texts : List String} {tree : FileTree}
  {file : FoundFile} {files : List FoundFile} {top : Path}

/-- A directory is private if its name starts with an underscore or a dot. -/
theorem enters_ofString_iff {text : String} : enters (Bytes.ofString text) = true ↔
    text.toList.head? ≠ some '_' ∧ text.toList.head? ≠ some '.' := by
  rw [enters, Bytes.toString?_eq_some_iff.2 rfl, Option.map_some]
  cases text.toList with
  | nil => simp
  | cons c rest =>
    by_cases hlow : c = '_'
    · simp [hlow]
    by_cases hdot : c = '.'
    · simp [hdot]
    · simp [hlow, hdot]

/-- The texts are the names that lead from the root of a site, which is at `top`, to a page. There
are none of them if the root is a file itself. -/
structure IsPage (build : Build) (tree : FileTree) (top : Path) (texts : List String) : Prop where
  /-- A page is a regular file. -/
  exists_file : ∃ content, tree.at? (top ++ texts.map Bytes.ofString) = some (.file content)
  /-- It lies below directories, none of which is private. -/
  ancestor : ∀ front text back, texts = front ++ text :: back → back ≠ [] →
    tree.at? (top ++ (front ++ [text]).map Bytes.ofString) = some .directory ∧
      text.toList.head? ≠ some '_' ∧ text.toList.head? ≠ some '.'
  /-- It lies below the root. -/
  root : texts ≠ [] → tree.at? top = some .directory
  /-- A root that is a page is no link to a file. -/
  root_entry : texts = [] → tree.resolve build.root .entry = .ok top
  extension : ∃ stem, stem ≠ [] ∧
    (RawPath.components build.root ++ texts.map Bytes.ofString).getLast? =
      some (stem ++ Bytes.ofString ".html")
  not_excluded : ∀ glob ∈ build.excluded,
    glob.isMatch (Bytes.ofString (String.intercalate "/" texts)) = false

/-- The paths are those of all pages of a site. -/
structure IsListing (build : Build) (tree : FileTree) (top : Path) (pages : List String) :
    Prop where
  mem_iff : ∀ path, path ∈ pages ↔
    ∃ texts, build.IsPage tree top texts ∧ path = String.intercalate "/" texts
  nodup : pages.Nodup
  /-- The names in the paths decide over the order, and bytes over the order of names. -/
  increasing : pages.Pairwise fun path other =>
    RawPath.components (Bytes.ofString path) < RawPath.components (Bytes.ofString other)

/-- What a walk finds, said of texts. -/
theorem finds_map_iff : FileTree.Finds tree enters build.root top (texts.map Bytes.ofString) ↔
    (∃ content, tree.at? (top ++ texts.map Bytes.ofString) = some (.file content)) ∧
      (∀ front text back, texts = front ++ text :: back → back ≠ [] →
        tree.at? (top ++ (front ++ [text]).map Bytes.ofString) = some .directory ∧
          text.toList.head? ≠ some '_' ∧ text.toList.head? ≠ some '.') ∧
      (texts ≠ [] → tree.at? top = some .directory) ∧
      (texts = [] → tree.resolve build.root .entry = .ok top) := by
  by_cases hnil : texts = []
  · subst hnil
    simp only [FileTree.Finds, FileTree.reaches_iff]
    simp [and_comm]
  constructor
  · rintro (⟨hmap, -⟩ | ⟨hroot, hreaches⟩)
    · exact absurd (List.map_eq_nil_iff.1 hmap) hnil
    obtain ⟨-, hfile, hway⟩ := FileTree.reaches_iff.1 hreaches
    refine ⟨hfile, fun front text back htexts hback => ?_, fun _ => hroot, fun h => absurd h hnil⟩
    obtain ⟨hdirectory, henters⟩ := hway (front.map Bytes.ofString) (Bytes.ofString text)
      (back.map Bytes.ofString) (by simp [htexts]) (by simpa using hback)
    exact ⟨by simpa using hdirectory, enters_ofString_iff.1 henters⟩
  · rintro ⟨hfile, hway, hroot, -⟩
    refine .inr ⟨hroot hnil, FileTree.reaches_iff.2 ⟨by simpa using hnil, hfile, ?_⟩⟩
    intro front name back hnames hback
    obtain ⟨front, rest, rfl, rfl, hrest⟩ := List.map_eq_append_iff.1 hnames
    obtain ⟨text, back, rfl, rfl, rfl⟩ := List.map_eq_cons_iff.1 hrest
    obtain ⟨hdirectory, hvisible⟩ := hway front text back rfl (by simpa using hback)
    exact ⟨by simpa using hdirectory, enters_ofString_iff.2 hvisible⟩

/-- A page is an HTML file that a walk finds and no pattern excludes. -/
theorem isPage_iff : build.IsPage tree top texts ↔
    FileTree.Finds tree enters build.root top (texts.map Bytes.ofString) ∧
      (∃ stem, stem ≠ [] ∧ (RawPath.components build.root ++ texts.map Bytes.ofString).getLast? =
        some (stem ++ Bytes.ofString ".html")) ∧
      ¬ Glob.anyMatch build.excluded (Bytes.ofString (String.intercalate "/" texts)) := by
  rw [finds_map_iff]
  simp only [Glob.anyMatch, List.any_eq_true, not_exists, not_and, Bool.not_eq_true]
  exact ⟨fun ⟨hfile, hway, hroot, hentry, hextension, hexcluded⟩ =>
      ⟨⟨hfile, hway, hroot, hentry⟩, hextension, hexcluded⟩,
    fun ⟨⟨hfile, hway, hroot, hentry⟩, hextension, hexcluded⟩ =>
      ⟨hfile, hway, hroot, hentry, hextension, hexcluded⟩⟩

/-- The pages in what a walk finds are those that the site has. -/
theorem exists_pagePath?_eq_iff (hwalk : tree.walk enters build.root = files.map .ok)
    (hfinds : ∀ names, (∃ file, .ok file ∈ tree.walk enters build.root ∧ file.relative = names) ↔
      FileTree.Finds tree enters build.root top names) :
    (∃ file ∈ files, (build.pagePath? file).1 = some path) ↔
      ∃ texts, build.IsPage tree top texts ∧ path = String.intercalate "/" texts := by
  have hmem (file : FoundFile) : .ok file ∈ tree.walk enters build.root ↔ file ∈ files := by
    simp [hwalk]
  constructor
  · rintro ⟨file, hfile, hpath⟩
    obtain ⟨hhtml, hrelative, hexcluded⟩ := pagePath?_eq_some_iff.1 hpath
    obtain ⟨texts, hnames, rfl⟩ := relativePath?_eq_some_iff.1 hrelative
    obtain ⟨stem, hstem, hname⟩ := isHtml_iff.1 hhtml
    have hlast := FileTree.getLast?_of_mem_walk ((hmem file).2 hfile)
    rw [hnames, hname] at hlast
    exact ⟨texts, isPage_iff.2 ⟨(hfinds _).1 ⟨file, (hmem file).2 hfile, hnames⟩,
      ⟨stem, hstem, hlast⟩, hexcluded⟩, rfl⟩
  · rintro ⟨texts, hpage, rfl⟩
    obtain ⟨hfound, ⟨stem, hstem, hlast⟩, hexcluded⟩ := isPage_iff.1 hpage
    obtain ⟨file, hfile, hnames⟩ := (hfinds _).2 hfound
    have hname := FileTree.getLast?_of_mem_walk hfile
    rw [hnames, hlast, Option.some_inj] at hname
    exact ⟨file, (hmem file).1 hfile, pagePath?_eq_some_iff.2
      ⟨isHtml_iff.2 ⟨stem, hstem, hname.symm⟩, relativePath?_eq_some_iff.2 ⟨texts, hnames, rfl⟩,
        hexcluded⟩⟩

/-- The components of the path of a page are the names that lead to it. -/
theorem components_of_pagePath? (hfile : .ok file ∈ tree.walk enters build.root)
    (hrelative : file.relative ≠ []) (hpath : (build.pagePath? file).1 = some path) :
    RawPath.components (Bytes.ofString path) = file.relative := by
  rw [← ofPath_relative (pagePath?_eq_some_iff.1 hpath).2.1]
  exact RawPath.components_ofPath hrelative fun name hname =>
    (FileTree.isName_of_mem_walk hfile hname).2.2.2

/-- **The list of pages is complete and ordered.** For any build and any file tree: if the walk from
the root of the site meets no error, the pages are listed. The list has the path of every regular
HTML file below directories that are not private, if the names in the path are texts and no pattern
excludes the path, and no other path. No path is repeated, and the paths are strictly increasing in
the order of their names. -/
theorem isListing_pages (hwalk : ∀ error, .error error ∉ tree.walk enters build.root) :
    ∃ top pages, tree.resolve build.root = .ok top ∧
      resultOn build.pages tree = .ok pages ∧ build.IsListing tree top pages := by
  obtain ⟨top, htop, hfinds⟩ := FileTree.exists_mem_walk_iff hwalk
  obtain ⟨files, hfiles⟩ : tree.walk enters build.root ∈ Set.range (List.map .ok) := by
    rw [Set.range_list_map]
    rintro (error | file) hfound
    · exact absurd hfound (hwalk error)
    · exact ⟨file, rfl⟩
  have hincreasing : (files.filterMap fun file => (build.pagePath? file).1).Pairwise
      fun path other =>
        RawPath.components (Bytes.ofString path) < RawPath.components (Bytes.ofString other) := by
    have hahead := FileTree.pairwise_ahead_walk tree enters build.root
    rw [← hfiles, List.pairwise_map] at hahead
    refine List.pairwise_filterMap.2 (hahead.imp_of_mem ?_)
    intro file next hfile hnext hlt path hpath other hother
    obtain ⟨hrelative, hlt⟩ := hlt file next rfl rfl
    have hrelative' : next.relative ≠ [] := fun hnil => List.not_lt_nil _ (hnil ▸ hlt)
    rwa [components_of_pagePath? (hfiles ▸ List.mem_map_of_mem hfile) hrelative hpath,
      components_of_pagePath? (hfiles ▸ List.mem_map_of_mem hnext) hrelative' hother]
  refine ⟨top, _, htop, pages_eq_ok_iff.2 ⟨files, hfiles.symm, rfl⟩, ?_, ?_, hincreasing⟩
  · intro path
    rw [List.mem_filterMap]
    exact exists_pagePath?_eq_iff hfiles.symm hfinds
  · refine hincreasing.imp ?_
    rintro path _ hlt rfl
    exact List.lt_irrefl _ hlt

/-! ### A sample site -/

/-- A site with two pages, an excluded one, a private one, a link and a file without a text as its
name. -/
def mixedSite : FileTree where
  entries :=
    [([Bytes.ofString "_src"], .directory),
      ([Bytes.ofString "_src", Bytes.ofString "nav.html"], .file "".toUTF8),
      ([Bytes.ofString "a"], .directory),
      ([Bytes.ofString "a", Bytes.ofString "x.html"], .file "".toUTF8),
      ([Bytes.ofString "a", Bytes.ofString "z.html"], .file "".toUTF8),
      ([Bytes.ofString "a-b.html"], .file "".toUTF8),
      ([Bytes.ofString "l.html"], .link (Bytes.ofString "a-b.html")),
      ([0xFF :: Bytes.ofString ".html"], .file "".toUTF8)]
  distinct := by decide +kernel

/-- The build of that site. -/
def mixedBuild : Build where
  root := sampleRoot
  settings := {}
  excluded := (Glob.parse "a/x*").toOption.toList
  data := ⟨⟨"", "", "", "", "", []⟩, []⟩
  fragments := {}
  blogIndex := none

/-- The files that a walk through the site finds. -/
def mixedFiles : List FoundFile :=
  [["a", "x.html"], ["a", "z.html"], ["a-b.html"]].map (fun texts =>
    ⟨sampleRoot.join (Bytes.ofString (String.intercalate "/" texts)), texts.map Bytes.ofString⟩) ++
    [⟨sampleRoot.join (0xFF :: Bytes.ofString ".html"), [0xFF :: Bytes.ofString ".html"]⟩]

theorem walk_mixedSite : mixedSite.walk enters sampleRoot = mixedFiles.map .ok := by
  have htop : mixedSite.sortedNames [] sampleRoot = .ok
      [Bytes.ofString "_src", Bytes.ofString "a", Bytes.ofString "a-b.html",
        Bytes.ofString "l.html", 0xFF :: Bytes.ofString ".html"] :=
    FileTree.sortedNames_of_pairwise (by decide +kernel) (by decide +kernel) (by decide +kernel)
  have hbelow : mixedSite.sortedNames [Bytes.ofString "a"] (sampleRoot.join (Bytes.ofString "a")) =
      .ok [Bytes.ofString "x.html", Bytes.ofString "z.html"] :=
    FileTree.sortedNames_of_pairwise (by decide +kernel) (by decide +kernel) (by decide +kernel)
  have hresolve : mixedSite.resolve sampleRoot .entry = .ok [] := by decide +kernel
  rw [FileTree.walk, hresolve]
  change FileTree.findBelow mixedSite enters 9 [] sampleRoot [] = _
  rw [FileTree.findBelow_succ, htop]
  have hdirectory : FileTree.findAt mixedSite enters 8 [] sampleRoot [] (Bytes.ofString "a") =
      FileTree.findBelow mixedSite enters 8 [Bytes.ofString "a"]
        (sampleRoot.join (Bytes.ofString "a")) [Bytes.ofString "a"] := by
    rw [FileTree.findAt, show mixedSite.at? ([] ++ [Bytes.ofString "a"]) = some .directory from by
      decide +kernel]
    rfl
  simp only [List.flatMap_cons, List.flatMap_nil]
  rw [hdirectory, FileTree.findBelow_succ, hbelow]
  decide +kernel

theorem isListing_pages_mixedSite :
    (∀ error, .error error ∉ mixedSite.walk enters mixedBuild.root) ∧
      resultOn mixedBuild.pages mixedSite = .ok ["a/z.html", "a-b.html"] ∧
      ∃ top, mixedBuild.IsListing mixedSite top ["a/z.html", "a-b.html"] := by
  have hwalk : ∀ error, .error error ∉ mixedSite.walk enters mixedBuild.root := by
    intro error
    rw [mixedBuild, walk_mixedSite]
    simp
  have hpages : resultOn mixedBuild.pages mixedSite = .ok ["a/z.html", "a-b.html"] :=
    pages_eq_ok_iff.2 ⟨mixedFiles, walk_mixedSite, by decide +kernel⟩
  obtain ⟨top, pages, -, hlisted, hlisting⟩ := isListing_pages hwalk
  obtain rfl := Except.ok.inj (hpages.symm.trans hlisted)
  exact ⟨hwalk, hpages, top, hlisting⟩

end Build

end SiteWeave
