import SiteWeave.Proofs.Build.PageStep
import SiteWeave.Proofs.FileTree.Walk

/-!
# The pages of a site

The pages are the HTML files that a walk from the root finds and that no pattern excludes. Their
paths are texts, with the names of the files on the way between slashes. Such a path leads to the
file that was found and to no other, so two pages are never one file; and it never leads through a
directory that the walk keeps out.

## Main definitions

* `Build.AreApart`: two paths do not lead to one place.
* `Build.IsPrivate`: the names of directories that are kept out.

## Main results

* `Build.pagesIn_fst`: the pages in what a walk finds.
* `Build.exists_reaches_of_mem_pages`: the path of a page leads to the file that was found.
* `Build.pairwise_pages`: no two pages are one file.
* `Build.resolve_place_ne_private`, `Build.resolve_place_ne_excluded`: what is no page.
-/

namespace SiteWeave

open BuildM

namespace Build

variable {build : Build} {path : String} {pages : List String} {tree : FileTree}
  {file : FoundFile} {files : List FoundFile} {place top : Path}
  {found : List (Except WalkError FoundFile)}

/-! ### From files to paths -/

theorem mapM_toString?_eq_some_iff {names : List Name} {texts : List String} :
    names.mapM Bytes.toString? = some texts ↔ names = texts.map Bytes.ofString := by
  induction names generalizing texts with
  | nil => cases texts <;> simp
  | cons name names ih =>
    rw [List.mapM_cons]
    cases texts with
    | nil => cases Bytes.toString? name <;> cases names.mapM Bytes.toString? <;> simp
    | cons text texts =>
      rw [List.map_cons, List.cons.injEq, ← ih, ← Bytes.toString?_eq_some_iff]
      cases Bytes.toString? name <;> cases names.mapM Bytes.toString? <;> simp

theorem relativePath?_eq_some_iff : relativePath? file = some path ↔ ∃ texts : List String,
    file.relative = texts.map Bytes.ofString ∧ path = String.intercalate "/" texts := by
  rw [relativePath?, Option.map_eq_some_iff]
  simp only [mapM_toString?_eq_some_iff, eq_comm (a := path)]

theorem ofPath_relative (h : relativePath? file = some path) :
    RawPath.ofPath file.relative = Bytes.ofString path := by
  obtain ⟨texts, hnames, rfl⟩ := relativePath?_eq_some_iff.1 h
  rw [hnames, RawPath.ofPath_map_ofString]

/-- A file is a page if it is an HTML file, its path is a text and no pattern excludes it. -/
theorem pagePath?_eq_some_iff : (build.pagePath? file).1 = some path ↔ isHtml file.name ∧
    relativePath? file = some path ∧ ¬ Glob.anyMatch build.excluded (Bytes.ofString path) := by
  rw [pagePath?]
  cases isHtml file.name with
  | false => simp
  | true =>
    cases relativePath? file with
    | none => simp
    | some other =>
      simp only [Bool.not_true, Bool.false_eq_true, if_false, true_and]
      split
      · next hexcluded =>
        simp only [reduceCtorEq, Option.some.injEq, false_iff]
        rintro ⟨rfl, hnot⟩
        exact hnot hexcluded
      · next hexcluded =>
        simp only [Option.some.injEq, iff_self_and]
        rintro rfl
        exact hexcluded

/-- The pages in what a walk finds are those of its files, unless there is an error. -/
theorem pagesIn_fst (build : Build) (found : List (Except WalkError FoundFile)) :
    (build.pagesIn found).1 = (found.mapM id).map fun files =>
      files.filterMap fun file => (build.pagePath? file).1 := by
  induction found with
  | nil => rfl
  | cons first found ih =>
    cases first with
    | error error => rfl
    | ok file =>
      have hcons : (build.pagesIn (.ok file :: found)).1 =
          (build.pagesIn found).1.map ((build.pagePath? file).1.toList ++ ·) := rfl
      rw [hcons, List.mapM_cons, ih]
      cases found.mapM id with
      | error error => rfl
      | ok files =>
        cases hpath : (build.pagePath? file).1 <;>
          simp [Except.map, bind, Except.bind, pure, Except.pure, hpath]

theorem mapM_id_eq_ok_iff : found.mapM id = .ok files ↔ found = files.map .ok := by
  induction found generalizing files with
  | nil => cases files <;> simp [pure, Except.pure]
  | cons first found ih =>
    rw [List.mapM_cons]
    cases first with
    | error error => cases files <;> simp [bind, Except.bind]
    | ok file =>
      cases hrest : found.mapM id with
      | error error => cases files <;> simp [bind, Except.bind, hrest, ← ih]
      | ok others => cases files <;> simp [bind, Except.bind, pure, Except.pure, hrest, ← ih]

/-- **The pages are found by reading.** -/
theorem reads_pages (build : Build) : Reads build.pages fun tree =>
    (build.pagesIn (tree.walk enters build.root)).1.mapError .walk :=
  reads_tree.bind fun _ => (reads_note _).bind fun _ => reads_check _ _

/-- What it takes to find the pages of a site. -/
theorem pages_eq_ok_iff : resultOn build.pages tree = .ok pages ↔ ∃ files : List FoundFile,
    tree.walk enters build.root = files.map .ok ∧
      pages = files.filterMap fun file => (build.pagePath? file).1 := by
  rw [(reads_pages build).resultOn_eq, mapError_eq_ok_iff, pagesIn_fst]
  simp only [← mapM_id_eq_ok_iff]
  cases (tree.walk enters build.root).mapM id with
  | error error => simp [Except.map]
  | ok files => simp [Except.map, eq_comm]

/-! ### From paths to files -/

/-- **The path of a page leads to the file that was found,** through directories that may be
entered; and no pattern excludes it. -/
theorem exists_reaches_of_mem_pages (hpages : resultOn build.pages tree = .ok pages)
    (hmem : path ∈ pages) (hplace : tree.resolve (build.place path) = .ok place) :
    ∃ (top : Path) (texts : List String), tree.resolve build.root = .ok top ∧
      tree.Reaches enters top (texts.map Bytes.ofString) ∧
      path = String.intercalate "/" texts ∧ place = top ++ texts.map Bytes.ofString ∧
      ¬ Glob.anyMatch build.excluded (Bytes.ofString path) := by
  obtain ⟨files, hwalk, rfl⟩ := pages_eq_ok_iff.1 hpages
  obtain ⟨file, hfile, hpath⟩ := List.mem_filterMap.1 hmem
  obtain ⟨-, hrelative, hexcluded⟩ := pagePath?_eq_some_iff.1 hpath
  obtain ⟨texts, hnames, htext⟩ := relativePath?_eq_some_iff.1 hrelative
  have hfound : .ok file ∈ tree.walk enters build.root :=
    hwalk ▸ List.mem_map_of_mem hfile
  obtain ⟨top, htop, ⟨hnil, content, hat⟩ | hreaches⟩ := FileTree.reaches_of_mem_walk hfound
  · -- The root is a file: a path below it leads nowhere.
    obtain rfl : texts = [] := List.map_eq_nil_iff.1 (hnames.symm.trans hnil)
    subst htext
    obtain ⟨links, hlinks⟩ := FileTree.resolve_join htop (by decide +kernel) hplace
    have hempty : RawPath.components (Bytes.ofString (String.intercalate "/" [])) = [[]] := by
      decide +kernel
    have hnot : tree.isDirectory top = false := by simp [FileTree.isDirectory, hat]
    rw [hempty] at hlinks
    cases links <;> simp [FileTree.walkLinks, FileTree.walkFrom, hnot] at hlinks
  · rw [hnames] at hreaches
    rw [Build.place, htext, ← RawPath.ofPath_map_ofString] at hplace
    exact ⟨top, texts, htop, hreaches, htext, hreaches.eq_append htop hplace, hexcluded⟩

/-- Two paths below the root of a build do not lead to one place. -/
def AreApart (build : Build) (tree : FileTree) (path other : String) : Prop :=
  ∀ place, tree.resolve (build.place path) = .ok place →
    tree.resolve (build.place other) ≠ .ok place

theorem AreApart.symm {other : String} (h : build.AreApart tree path other) :
    build.AreApart tree other path :=
  fun place hother hpath => h place hpath hother

/-- **No two pages are one file.** -/
theorem pairwise_pages (hpages : resultOn build.pages tree = .ok pages) :
    pages.Pairwise (build.AreApart tree) := by
  have hnodup : pages.Nodup := by
    obtain ⟨files, hwalk, rfl⟩ := pages_eq_ok_iff.1 hpages
    have hapart := FileTree.pairwise_walk tree enters build.root
    have hnames (file : FoundFile) (hfile : file ∈ files) : ∀ name ∈ file.relative, IsName name :=
      fun name hname => by
        have hfound : .ok file ∈ tree.walk enters build.root := hwalk ▸ List.mem_map_of_mem hfile
        exact FileTree.isName_of_mem_walk hfound hname
    rw [hwalk, List.pairwise_map] at hapart
    refine List.pairwise_filterMap.2 (hapart.imp_of_mem ?_)
    rintro file other hfile hother hne path hpath path' hpath' rfl
    refine hne file other rfl rfl
      (RawPath.eq_of_ofPath_eq (hnames file hfile) (hnames other hother) ?_)
    rw [ofPath_relative (pagePath?_eq_some_iff.1 hpath).2.1,
      ofPath_relative (pagePath?_eq_some_iff.1 hpath').2.1]
  refine hnodup.imp_of_mem fun {path other} hpath hother hne place hplace hsame => hne ?_
  obtain ⟨top, texts, htop, -, htext, heq, -⟩ :=
    exists_reaches_of_mem_pages hpages hpath hplace
  obtain ⟨top', texts', htop', -, htext', heq', -⟩ :=
    exists_reaches_of_mem_pages hpages hother hsame
  obtain rfl : top = top' := Except.ok.inj (htop.symm.trans htop')
  have hnames := List.append_cancel_left (heq.symm.trans heq')
  rw [htext, htext', List.map_injective_iff.2 (fun _ _ => Bytes.ofString_injective) hnames]

/-! ### What is no page -/

/-- The names of directories that are kept out start with an underscore or a dot. -/
def IsPrivate (name : Name) : Prop :=
  name.head? = some 0x5F ∨ name.head? = some 0x2E

instance (name : Name) : Decidable (IsPrivate name) :=
  inferInstanceAs (Decidable (_ ∨ _))

theorem enters_eq_false_of_isPrivate {text : String} (h : IsPrivate (Bytes.ofString text)) :
    enters (Bytes.ofString text) = false := by
  rw [enters, Bytes.toString?_eq_some_iff.2 rfl]
  obtain h | h := h
  · obtain ⟨rest, hrest⟩ := List.head?_eq_some_iff.1
      (Bytes.head?_toList_of_head?_ofString h (c := '_') (by decide) (by decide))
    simp [hrest]
  · obtain ⟨rest, hrest⟩ := List.head?_eq_some_iff.1
      (Bytes.head?_toList_of_head?_ofString h (c := '.') (by decide) (by decide))
    simp [hrest]

/-- **No page lies below a directory that is kept out.** -/
theorem resolve_place_ne_private (hpages : resultOn build.pages tree = .ok pages)
    (hmem : path ∈ pages) (htop : tree.resolve build.root = .ok top) {name : Name}
    (hname : IsPrivate name) (front : Path) {back : Path} (hback : back ≠ []) :
    tree.resolve (build.place path) ≠ .ok (top ++ (front ++ name :: back)) := by
  intro hplace
  obtain ⟨top', texts, htop', hreaches, -, heq, -⟩ :=
    exists_reaches_of_mem_pages hpages hmem hplace
  obtain rfl : top = top' := Except.ok.inj (htop.symm.trans htop')
  have hnames := List.append_cancel_left heq.symm
  obtain ⟨text, -, rfl⟩ : ∃ text ∈ texts, Bytes.ofString text = name :=
    List.mem_map.1 (hnames ▸ by simp)
  have henters := hreaches.enters_of_append_cons hnames hback
  rw [enters_eq_false_of_isPrivate hname] at henters
  exact absurd henters (by simp)

/-- The sources stand in such a directory. -/
example : IsPrivate Sources.directory := by decide +kernel

/-- **No page is a file that a pattern excludes.** -/
theorem resolve_place_ne_excluded (hpages : resultOn build.pages tree = .ok pages)
    (hmem : path ∈ pages) (htop : tree.resolve build.root = .ok top) {other : RawPath}
    (hother : Glob.anyMatch build.excluded other) :
    tree.resolve (build.place path) ≠ .ok (top ++ RawPath.components other) := by
  intro hplace
  obtain ⟨top', texts, htop', hreaches, rfl, heq, hexcluded⟩ :=
    exists_reaches_of_mem_pages hpages hmem hplace
  obtain rfl : top = top' := Except.ok.inj (htop.symm.trans htop')
  rw [← RawPath.ofPath_map_ofString, ← List.append_cancel_left heq,
    RawPath.ofPath_components] at hexcluded
  exact hexcluded hother

end Build

end SiteWeave
