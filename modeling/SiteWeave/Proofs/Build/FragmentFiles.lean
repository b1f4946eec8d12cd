import Mathlib.Data.List.Sort
import Mathlib.Data.String.Basic
import SiteWeave.Proofs.Build.Opening
import SiteWeave.Proofs.Build.PageList
import SiteWeave.Proofs.FileTree.Reordering
import SiteWeave.Proofs.Text.ByteOrder

/-!
# The files of fragments

A directory may list its files in any order, and each file of a fragment is read when its turn
comes. The fragments that are collected are the same in every order: a name is made of the one file
that has it in front of its extension, so no file replaces the fragment of another one, and a new
fragment is put at its place among the names. Files without a name in front of the extension,
directories, and files whose names are no texts give no fragments.

## Main definitions

* `Sources.IsFragment`: a directory has a fragment with a name.
* `Sources.Collects`: the fragments of the files that a directory lists.

## Main results

* `Fragments.eq_of_get_eq`: fragments in order are known by their names and templates.
* `Sources.fragmentName?_eq_some_iff`: the one file that a fragment can come from.
* `Sources.exists_fragmentsIn`: one file after the other is collected.
* `Sources.loadFragments_of_isReordered`: fragments do not depend on the order of their directory.
-/

namespace SiteWeave

open BuildM
open Build (sampleRoot)

/-! ### Fragments in the order of their names -/

namespace Fragments

variable {fragments other : Fragments} {entries : List (String × String)}
  {name template found : String}

/-- The names of fragments. -/
def names (fragments : Fragments) : List String :=
  fragments.entries.map Prod.fst

theorem mem_names_insertEntry : found ∈ (insertEntry name template entries).map Prod.fst ↔
    found = name ∨ found ∈ entries.map Prod.fst := by
  induction entries with
  | nil => simp [insertEntry]
  | cons entry rest ih =>
    obtain ⟨n, t⟩ := entry
    rw [insertEntry]
    split
    · next heq => simp [heq]
    · split
      · simp
      · rw [List.map_cons, List.mem_cons, ih, List.map_cons, List.mem_cons, or_left_comm]

theorem mem_names_insert : found ∈ (fragments.insert name template).names ↔
    found = name ∨ found ∈ fragments.names :=
  mem_names_insertEntry

/-- A fragment comes to its place in the order. -/
theorem pairwise_insertEntry (h : (entries.map Prod.fst).Pairwise (· < ·)) :
    ((insertEntry name template entries).map Prod.fst).Pairwise (· < ·) := by
  induction entries with
  | nil => exact List.pairwise_singleton _ _
  | cons entry rest ih =>
    obtain ⟨n, t⟩ := entry
    obtain ⟨hfirst, hrest⟩ := List.pairwise_cons.1 h
    rw [insertEntry]
    split
    · next heq => exact heq ▸ h
    split
    · next hlt =>
      refine List.pairwise_cons.2 ⟨List.forall_mem_cons.2 ⟨hlt, fun other hother => ?_⟩, h⟩
      exact lt_trans hlt (hfirst other hother)
    · next hne hnot =>
      refine List.pairwise_cons.2 ⟨fun other hother => ?_, ih hrest⟩
      obtain rfl | hother := mem_names_insertEntry.1 hother
      · exact lt_of_le_of_ne (not_lt.1 hnot) (Ne.symm hne)
      · exact hfirst other hother

theorem getEntry_of_notMem (h : name ∉ entries.map Prod.fst) : getEntry name entries = "" := by
  induction entries with
  | nil => rfl
  | cons entry rest ih =>
    obtain ⟨n, t⟩ := entry
    obtain ⟨hn, hrest⟩ := not_or.1 (List.mem_cons.not.1 h)
    rw [getEntry, if_neg hn, ih hrest]

/-- A name that is not there has the empty template. -/
theorem get_of_notMem (h : name ∉ fragments.names) : fragments.get name = "" :=
  getEntry_of_notMem h

/-- Entries are known by their names and what is found under them. -/
theorem map_getEntry (h : (entries.map Prod.fst).Nodup) :
    (entries.map Prod.fst).map (fun name => (name, getEntry name entries)) = entries := by
  induction entries with
  | nil => rfl
  | cons entry rest ih =>
    obtain ⟨n, t⟩ := entry
    rw [List.map_cons, List.nodup_cons] at h
    have hrest : ∀ name ∈ rest.map Prod.fst,
        (name, getEntry name ((n, t) :: rest)) = (name, getEntry name rest) := fun name hname => by
      have hne : name ≠ n := ne_of_mem_of_not_mem hname h.1
      rw [getEntry, if_neg hne]
    rw [List.map_cons, List.map_cons, List.map_congr_left hrest, ih h.2, getEntry, if_pos rfl]

/-- Fragments in order are known by their names and templates. -/
theorem eq_of_get_eq (h : fragments.names.Pairwise (· < ·)) (hother : other.names.Pairwise (· < ·))
    (hnames : ∀ name, name ∈ fragments.names ↔ name ∈ other.names)
    (hget : ∀ name ∈ fragments.names, fragments.get name = other.get name) :
    fragments = other := by
  have heq : fragments.names = other.names := h.eq_of_mem_iff hother hnames
  have hentries : fragments.entries = other.entries := by
    calc fragments.entries
        = fragments.names.map fun name => (name, fragments.get name) :=
          (map_getEntry (h.imp ne_of_lt)).symm
      _ = fragments.names.map fun name => (name, other.get name) :=
          List.map_congr_left fun name hname => by rw [hget name hname]
      _ = other.entries := heq ▸ map_getEntry (hother.imp ne_of_lt)
  cases fragments
  cases other
  exact congrArg _ hentries

end Fragments

/-! ### The files of fragments -/

namespace Sources

variable {tree other : FileTree} {directory : RawPath} {listed files more : List Name} {file : Name}
  {name : String} {fragments result : Fragments}

/-- The path of the file of a fragment in a directory. -/
def fragmentPath (directory : RawPath) (name : String) : RawPath :=
  directory.join (Bytes.ofString (name ++ ".html"))

/-- A directory that lists some files has a fragment with a name. The file of the fragment may be a
link to a regular file. -/
structure IsFragment (tree : FileTree) (directory : RawPath) (files : List Name) (name : String) :
    Prop where
  ne_empty : name ≠ ""
  mem : Bytes.ofString (name ++ ".html") ∈ files
  isFile : tree.isFile (fragmentPath directory name) = true

/-- The fragments of the files that a directory lists. -/
structure Collects (tree : FileTree) (directory : RawPath) (files : List Name)
    (fragments : Fragments) : Prop where
  sorted : fragments.names.Pairwise (· < ·)
  mem_iff : ∀ name, name ∈ fragments.names ↔ IsFragment tree directory files name
  text : ∀ name, IsFragment tree directory files name →
    tree.readText (fragmentPath directory name) = .ok (fragments.get name)

theorem IsFragment.mono (h : IsFragment tree directory files name) (hfiles : files ⊆ more) :
    IsFragment tree directory more name :=
  ⟨h.ne_empty, hfiles h.mem, h.isFile⟩

/-- The name of the one file that a fragment can come from. -/
theorem fragmentName?_eq_some_iff : fragmentName? tree (directory.join file) file = some name ↔
    name ≠ "" ∧ file = Bytes.ofString (name ++ ".html") ∧
      tree.isFile (directory.join file) = true := by
  rw [fragmentName?]
  split
  · next hfile =>
    simp only [Option.bind_eq_some_iff, htmlStem?_eq_some_iff, Bytes.toString?_eq_some_iff, hfile,
      and_true, Bytes.ofString_append]
    constructor
    · rintro ⟨stem, ⟨hne, rfl⟩, rfl⟩
      exact ⟨mt Bytes.ofString_eq_nil_iff.2 hne, rfl⟩
    · rintro ⟨hne, rfl⟩
      exact ⟨Bytes.ofString name, ⟨mt Bytes.ofString_eq_nil_iff.1 hne, rfl⟩, rfl⟩
  · next hfile => simp [hfile]

theorem isFragment_append_singleton :
    IsFragment tree directory (files ++ [file]) name ↔ IsFragment tree directory files name ∨
      fragmentName? tree (directory.join file) file = some name := by
  rw [fragmentName?_eq_some_iff]
  constructor
  · intro h
    obtain hmem | hmem := List.mem_append.1 h.mem
    · exact .inl ⟨h.ne_empty, hmem, h.isFile⟩
    · obtain rfl := List.mem_singleton.1 hmem
      exact .inr ⟨h.ne_empty, rfl, h.isFile⟩
  · rintro (h | ⟨hne, rfl, hfile⟩)
    · exact h.mono (List.subset_append_left _ _)
    · exact ⟨hne, List.mem_append_right _ List.mem_cons_self, hfile⟩

/-- A file without a fragment adds nothing. -/
theorem Collects.skip (h : Collects tree directory files fragments)
    (hnone : fragmentName? tree (directory.join file) file = none) :
    Collects tree directory (files ++ [file]) fragments := by
  have hsame (name : String) : IsFragment tree directory (files ++ [file]) name ↔
      IsFragment tree directory files name := by
    rw [isFragment_append_singleton, hnone]
    simp
  exact ⟨h.sorted, fun name => (h.mem_iff name).trans (hsame name).symm,
    fun name hname => h.text name ((hsame name).1 hname)⟩

/-- The fragment of a file is added under its name. -/
theorem Collects.insert (h : Collects tree directory files fragments) {text : String}
    (hsome : fragmentName? tree (directory.join file) file = some name)
    (hread : tree.readText (directory.join file) = .ok text) :
    Collects tree directory (files ++ [file]) (fragments.insert name text) := by
  refine ⟨Fragments.pairwise_insertEntry h.sorted, fun found => ?_, fun found hfound => ?_⟩
  · rw [Fragments.mem_names_insert, h.mem_iff, isFragment_append_singleton, hsome,
      Option.some_inj, or_comm, eq_comm]
  · rw [Fragments.get_insert]
    split
    · next heq =>
      obtain ⟨-, rfl, -⟩ := fragmentName?_eq_some_iff.1 hsome
      rw [heq]
      exact hread
    · next hne =>
      rw [isFragment_append_singleton, hsome, Option.some_inj] at hfound
      exact h.text found (hfound.resolve_right (Ne.symm hne))

/-- **One file after the other** is collected, if the files of fragments can be read. -/
theorem exists_fragmentsIn (h : Collects tree directory files fragments)
    (hread : ∀ name, IsFragment tree directory more name →
      ∃ text, tree.readText (fragmentPath directory name) = .ok text) :
    ∃ result, fragmentsIn tree directory fragments more = .ok result ∧
      Collects tree directory (files ++ more) result := by
  -- On the files that are left; those in front of them have been collected.
  induction more generalizing files fragments with
  | nil => exact ⟨fragments, rfl, (List.append_nil files).symm ▸ h⟩
  | cons file more ih =>
    have hbehind : ∀ name, IsFragment tree directory more name →
        ∃ text, tree.readText (fragmentPath directory name) = .ok text := fun name hname =>
      hread name (hname.mono (List.subset_cons_self _ _))
    rw [fragmentsIn, List.append_cons]
    cases hname : fragmentName? tree (directory.join file) file with
    | none => exact ih (h.skip hname) hbehind
    | some name =>
      obtain ⟨hne, rfl, hfile⟩ := fragmentName?_eq_some_iff.1 hname
      obtain ⟨text, htext⟩ := hread name ⟨hne, List.mem_cons_self, hfile⟩
      have htext : tree.readText (directory.join (Bytes.ofString (name ++ ".html"))) = .ok text :=
        htext
      simp only [htext]
      exact ih (h.insert hname htext) hbehind

/-- The files of a directory make one collection, in whatever order they come. -/
theorem Collects.unique (h : Collects tree directory files fragments)
    (hother : Collects tree directory more result) (hmem : ∀ file, file ∈ files ↔ file ∈ more) :
    fragments = result := by
  have hsame (name : String) : IsFragment tree directory files name ↔
      IsFragment tree directory more name :=
    ⟨fun hname => hname.mono fun file => (hmem file).1,
      fun hname => hname.mono fun file => (hmem file).2⟩
  refine Fragments.eq_of_get_eq h.sorted hother.sorted (fun name => ?_) fun name hname => ?_
  · rw [h.mem_iff, hother.mem_iff, hsame]
  · have hfragment := (h.mem_iff name).1 hname
    exact Except.ok.inj ((h.text name hfragment).symm.trans
      (hother.text name ((hsame name).1 hfragment)))

theorem fragmentsIn_of_isReordered (h : tree.IsReordered other) :
    fragmentsIn tree directory fragments files = fragmentsIn other directory fragments files := by
  induction files generalizing fragments with
  | nil => rfl
  | cons file files ih =>
    simp only [fragmentsIn, fragmentName?, h.isFile_eq, (h.sameAt _).readText_eq, ih]

/-- **Fragments do not depend on the order of their directory.** Let a directory list some files, of
which those of fragments can be read as texts. Then the fragments are loaded, and they are the same
in whatever order the files are listed, and from every tree with its entries in another order. Their
names increase by their bytes; they are the texts in front of the extension of the regular files and
links to such files in the directory; and each has the text of its file, where all other names have
the empty text. -/
theorem loadFragments_of_isReordered (hlist : tree.listDirectory directory = .ok listed)
    (hread : ∀ name, IsFragment tree directory listed name →
      ∃ text, tree.readText (fragmentPath directory name) = .ok text) :
    ∃ fragments,
      (∀ files, listed.Perm files → fragmentsIn tree directory {} files = .ok fragments) ∧
      (∀ other, tree.IsReordered other →
        resultOn (loadFragments directory) other = .ok fragments) ∧
      fragments.names.Pairwise (fun a b => Bytes.ofString a < Bytes.ofString b) ∧
      (∀ name, name ∈ fragments.names ↔ IsFragment tree directory listed name) ∧
      (∀ name, IsFragment tree directory listed name →
        tree.readText (fragmentPath directory name) = .ok (fragments.get name)) ∧
      ∀ name, ¬ IsFragment tree directory listed name → fragments.get name = "" := by
  have hnone : Collects tree directory [] {} :=
    ⟨List.Pairwise.nil, fun name => iff_of_false List.not_mem_nil fun h => List.not_mem_nil h.mem,
      fun name h => absurd h.mem List.not_mem_nil⟩
  obtain ⟨fragments, -, hfragments⟩ := exists_fragmentsIn hnone hread
  have hany : ∀ files, listed.Perm files →
      fragmentsIn tree directory {} files = .ok fragments := fun files hperm => by
    have hreadable : ∀ name, IsFragment tree directory files name →
        ∃ text, tree.readText (fragmentPath directory name) = .ok text := fun name h =>
      hread name (h.mono hperm.symm.subset)
    obtain ⟨result, hresult, hcollects⟩ := exists_fragmentsIn hnone hreadable
    rw [hresult, hcollects.unique hfragments fun file => hperm.symm.mem_iff]
  refine ⟨fragments, hany, fun other hother => ?_, ?_, hfragments.mem_iff, hfragments.text,
    fun name hname => ?_⟩
  · obtain ⟨names, hnames, hperm⟩ := hother.listDirectory hlist
    have hload : fragmentsIn other directory {} names = .ok fragments :=
      fragmentsIn_of_isReordered hother ▸ hany names hperm
    rw [(reads_loadFragments directory).resultOn_eq, hnames]
    exact congrArg (Except.mapError BuildError.file) hload
  · exact hfragments.sorted.imp fun h => Bytes.ofString_lt_iff.2 h
  · exact Fragments.get_of_notMem (mt (hfragments.mem_iff name).1 hname)

/-! ### A sample directory -/

/-- A file and a link to it, a file that is an extension alone, a directory, a file without a text
as its name, and a file of another kind that is no text. -/
def mixedEntries : List (Path × Entry) :=
  [([Bytes.ofString "nav.html"], .file "<nav>".toUTF8),
    ([Bytes.ofString "a.b.html"], .link (Bytes.ofString "nav.html")),
    ([Bytes.ofString ".html"], .file "none".toUTF8),
    ([Bytes.ofString "nested.html"], .directory),
    ([0xFF :: Bytes.ofString ".html"], .file "".toUTF8),
    ([Bytes.ofString "notes"], .file ⟨#[0xFF]⟩)]

/-- The directory with its entries in one order. -/
def mixedIncludes : FileTree where
  entries := mixedEntries
  distinct := by decide +kernel

/-- The directory with its entries in the other order. -/
def reversedIncludes : FileTree where
  entries := mixedEntries.reverse
  distinct := by decide +kernel

theorem loadFragments_of_isReordered_includes :
    mixedIncludes.listDirectory sampleRoot = .ok (mixedIncludes.names []) ∧
    (∀ name, IsFragment mixedIncludes sampleRoot (mixedIncludes.names []) name →
      ∃ text, mixedIncludes.readText (fragmentPath sampleRoot name) = .ok text) ∧
    mixedIncludes.IsReordered reversedIncludes ∧
    ∃ fragments, resultOn (loadFragments sampleRoot) mixedIncludes = .ok fragments ∧
      resultOn (loadFragments sampleRoot) reversedIncludes = .ok fragments ∧
      fragments.get "nav" = "<nav>" ∧ fragments.get "a.b" = "<nav>" ∧
      fragments.get "" = "" ∧ fragments.get "nested" = "" := by
  have hlist : mixedIncludes.listDirectory sampleRoot = .ok (mixedIncludes.names []) := by
    decide +kernel
  have htexts : ∀ file ∈ mixedIncludes.names [], isHtml file = true →
      mixedIncludes.isFile (sampleRoot.join file) = true →
        (mixedIncludes.readText (sampleRoot.join file)).toOption.isSome = true := by
    decide +kernel
  have hread : ∀ name, IsFragment mixedIncludes sampleRoot (mixedIncludes.names []) name →
      ∃ text, mixedIncludes.readText (fragmentPath sampleRoot name) = .ok text := by
    intro name h
    have hhtml : isHtml (Bytes.ofString (name ++ ".html")) = true :=
      isHtml_iff.2 ⟨Bytes.ofString name, mt Bytes.ofString_eq_nil_iff.1 h.ne_empty,
        Bytes.ofString_append _ _⟩
    have hsome := htexts _ h.mem hhtml h.isFile
    rw [fragmentPath]
    cases hresult : mixedIncludes.readText
        (sampleRoot.join (Bytes.ofString (name ++ ".html"))) with
    | error error => simp [hresult, Except.toOption] at hsome
    | ok text => exact ⟨text, rfl⟩
  have hreordered : mixedIncludes.IsReordered reversedIncludes :=
    ⟨(List.reverse_perm _).symm, rfl, rfl, rfl, rfl⟩
  obtain ⟨fragments, -, hload, -, -, htext, hnone⟩ := loadFragments_of_isReordered hlist hread
  have hnav : mixedIncludes.readText (fragmentPath sampleRoot "nav") = .ok "<nav>" := by
    decide +kernel
  have hlink : mixedIncludes.readText (fragmentPath sampleRoot "a.b") = .ok "<nav>" := by
    decide +kernel
  refine ⟨hlist, hread, hreordered, fragments, hload _ (.refl _), hload _ hreordered, ?_, ?_, ?_,
    ?_⟩
  · exact Except.ok.inj ((htext "nav" ⟨by decide, by decide +kernel, by decide +kernel⟩).symm.trans
      hnav)
  · exact Except.ok.inj ((htext "a.b" ⟨by decide, by decide +kernel, by decide +kernel⟩).symm.trans
      hlink)
  · exact hnone "" fun h => h.ne_empty rfl
  · exact hnone "nested" fun h => absurd h.isFile (by decide +kernel)

end Sources

end SiteWeave
