import Mathlib.Data.List.Perm.Subperm
import SiteWeave.Proofs.FileTree.Walk
import SiteWeave.Proofs.FileTree.Write

/-!
# A walk that succeeds finds everything

A walk that finds no error finds every file that can be reached from its start. The depth to which
it goes is bounded by the number of entries of the tree, and no file lies deeper: the places on the
way to a file are different entries.

## Main definitions

* `FileTree.Finds`: the names lead to a file that a walk finds.

## Main results

* `FileTree.reaches_iff`: what can be reached, said of the names at once.
* `FileTree.Reaches.length_le`: no file lies deeper than the tree has entries.
* `FileTree.exists_mem_findBelow`: everything below a directory is found.
* `FileTree.exists_mem_walk_iff`: a walk finds what there is to find.
-/

namespace SiteWeave

namespace FileTree

variable {tree : FileTree} {enters : Name → Bool} {directory place : Path} {name : Name}
  {names relative : List Name} {start shown : RawPath} {file : FoundFile} {fuel : Nat}

/-- **What can be reached** is a file below directories that may be entered. -/
theorem reaches_iff : Reaches tree enters directory names ↔ names ≠ [] ∧
    (∃ content, tree.at? (directory ++ names) = some (.file content)) ∧
      ∀ front name back, names = front ++ name :: back → back ≠ [] →
        tree.at? (directory ++ front ++ [name]) = some .directory ∧ enters name := by
  induction names generalizing directory with
  | nil => exact iff_of_false (fun h => h.ne_nil rfl) fun h => h.1 rfl
  | cons first names ih =>
    constructor
    · intro h
      refine ⟨h.ne_nil, h.exists_at?_eq, fun front name back hnames hback => ?_⟩
      cases h with
      | file content hname hat =>
        obtain ⟨rfl, hnil⟩ | ⟨rfl, hnil⟩ := List.singleton_eq_append_iff.1 hnames
        · exact absurd (List.cons.inj hnil).2 hback
        · simp at hnil
      | directory hname hat henters hbelow =>
        obtain _ | ⟨other, front⟩ := front
        · obtain ⟨rfl, -⟩ := List.cons.inj hnames
          simpa using ⟨hat, henters⟩
        · obtain ⟨rfl, hrest⟩ := List.cons.inj hnames
          simpa using (ih.1 hbelow).2.2 front name back hrest hback
    · rintro ⟨-, ⟨content, hat⟩, hway⟩
      have hpath := isPath_of_at? hat (by simp)
      have hname : IsName first := hpath.2 first (by simp)
      by_cases hnil : names = []
      · subst hnil
        exact .file content hname hat
      · obtain ⟨hdirectory, henters⟩ := hway [] first names rfl hnil
        refine .directory hname (by simpa using hdirectory) henters (ih.2 ⟨hnil, ⟨content, ?_⟩, ?_⟩)
        · simpa using hat
        · rintro front name back rfl hback
          simpa using hway (first :: front) name back rfl hback

theorem mem_paths_of_ne_nil {entry : Entry} (h : tree.at? place = some entry)
    (hplace : place ≠ []) : place ∈ tree.entries.map Prod.fst := by
  obtain ⟨name, names, rfl⟩ := List.exists_cons_of_ne_nil hplace
  refine Decidable.byContradiction fun hmem => ?_
  exact absurd ((find?_eq_none_iff.2 hmem).symm.trans h) (by simp)

/-- The places on the way to a file are entries. -/
theorem Reaches.mem_paths (h : Reaches tree enters directory names) {front : List Name}
    (hfront : front ≠ []) (hpart : front <+: names) :
    directory ++ front ∈ tree.entries.map Prod.fst := by
  induction h generalizing front with
  | file content hname hat =>
    obtain ⟨name, front, rfl⟩ := List.exists_cons_of_ne_nil hfront
    obtain ⟨rfl, hnil⟩ := List.cons_prefix_cons.1 hpart
    rw [List.prefix_nil.1 hnil]
    exact mem_paths_of_ne_nil hat (by simp)
  | directory hname hat henters hbelow ih =>
    obtain ⟨name, front, rfl⟩ := List.exists_cons_of_ne_nil hfront
    obtain ⟨rfl, hrest⟩ := List.cons_prefix_cons.1 hpart
    by_cases hempty : front = []
    · rw [hempty]
      exact mem_paths_of_ne_nil hat (by simp)
    · rw [List.append_cons]
      exact ih hempty hrest

/-- **No file lies deeper than the tree has entries,** as no two places on the way are the same. -/
theorem Reaches.length_le (h : Reaches tree enters directory names) :
    names.length ≤ tree.entries.length := by
  let places := (List.range names.length).map fun depth => directory ++ names.take (depth + 1)
  have hnodup : places.Nodup := by
    refine List.nodup_range.map_on fun depth hdepth other hother heq => ?_
    have hlength := congrArg List.length (List.append_cancel_left heq)
    simp only [List.mem_range] at hdepth hother
    simp only [List.length_take] at hlength
    omega
  have hsubset : places ⊆ tree.entries.map Prod.fst := by
    intro found hfound
    obtain ⟨depth, hdepth, rfl⟩ := List.mem_map.1 hfound
    refine h.mem_paths (fun hnil => ?_) (List.take_prefix _ _)
    have hlength := congrArg List.length hnil
    simp only [List.mem_range] at hdepth
    simp only [List.length_take, List.length_nil] at hlength
    omega
  simpa [places] using (hnodup.subperm hsubset).length_le

/-! ### Nothing is missed -/

/-- What is found at a name of a directory is found below it, unless there is an error. -/
theorem findAt_subset_findBelow
    (hok : ∀ error, .error error ∉ findBelow tree enters (fuel + 1) directory shown relative)
    (hname : directory ++ [name] ∈ tree.entries.map Prod.fst) :
    findAt tree enters fuel directory shown relative name ⊆
      findBelow tree enters (fuel + 1) directory shown relative := by
  rw [findBelow_succ] at hok ⊢
  split at hok
  · exact absurd (List.mem_singleton.2 rfl) (hok _)
  next listed hlisted =>
  have hmem : name ∈ listed := (sortedNames_perm hlisted).mem_iff.2 (mem_names.2 hname)
  exact fun found hfound => List.mem_flatMap.2 ⟨name, hmem, hfound⟩

/-- **Everything below a directory is found,** unless there is an error. -/
theorem exists_mem_findBelow (h : Reaches tree enters directory names) (hfuel : names.length ≤ fuel)
    (hok : ∀ error, .error error ∉ findBelow tree enters fuel directory shown relative) :
    ∃ file, .ok file ∈ findBelow tree enters fuel directory shown relative ∧
      file.relative = relative ++ names := by
  induction h generalizing fuel shown relative with
  | @file directory name content hname hat =>
    obtain _ | fuel := fuel
    · simp at hfuel
    have hsubset := findAt_subset_findBelow hok (mem_paths_of_ne_nil hat (by simp))
    exact ⟨⟨shown.join name, relative ++ [name]⟩, hsubset (by simp [findAt, hat]), rfl⟩
  | @directory directory name names hname hat henters hbelow ih =>
    obtain _ | fuel := fuel
    · simp at hfuel
    have hsubset := findAt_subset_findBelow hok (mem_paths_of_ne_nil hat (by simp))
    rw [findAt, hat] at hsubset
    simp only [henters, if_true] at hsubset
    obtain ⟨file, hfile, hrelative⟩ :=
      ih (by simpa using hfuel) fun error herror => hok error (hsubset herror)
    exact ⟨file, hsubset hfile, by simpa using hrelative⟩

theorem isDirectory_of_mem_findBelow
    (h : .ok file ∈ findBelow tree enters fuel directory shown relative) :
    tree.at? directory = some .directory := by
  obtain _ | fuel := fuel
  · simp [findBelow] at h
  rw [findBelow_succ] at h
  split at h
  · simp at h
  next listed hlisted =>
  obtain ⟨-, hlist, -⟩ := sortedNames_eq_ok_iff.1 hlisted
  simpa [isDirectory] using (listNames_eq_ok_iff.1 hlist).2.1

/-- The names lead from the start of a walk, which is at `top`, to a file that it finds: the start
itself, or a file that can be reached from it. -/
def Finds (tree : FileTree) (enters : Name → Bool) (start : RawPath) (top : Path)
    (names : List Name) : Prop :=
  names = [] ∧ tree.resolve start .entry = .ok top ∧
      (∃ content, tree.at? top = some (.file content)) ∨
    tree.at? top = some .directory ∧ Reaches tree enters top names

/-- **A walk finds what there is to find,** and nothing else, unless there is an error. -/
theorem exists_mem_walk_iff (hok : ∀ error, .error error ∉ tree.walk enters start) :
    ∃ top, tree.resolve start = .ok top ∧ ∀ names,
      (∃ file, .ok file ∈ tree.walk enters start ∧ file.relative = names) ↔
        Finds tree enters start top names := by
  have hstarts := starts_walk tree enters start
  generalize tree.walk enters start = found at hok hstarts ⊢
  cases hstarts with
  | lost error => exact absurd (List.mem_singleton.2 rfl) (hok _)
  | file top content hentry hresolve hat =>
    refine ⟨top, hresolve, fun names => ?_⟩
    simp only [List.mem_singleton, Except.ok.injEq, exists_eq_left, Finds, hat, hentry]
    simp [eq_comm]
  | listed top hresolve hat =>
    refine ⟨top, hresolve, fun names => ⟨?_, ?_⟩⟩
    · rintro ⟨file, hfile, rfl⟩
      obtain ⟨names, hrelative, hreaches⟩ := reaches_of_mem_findBelow hfile
      exact .inr ⟨isDirectory_of_mem_findBelow hfile, by simpa [hrelative] using hreaches⟩
    · rintro (⟨-, -, content, hfile⟩ | ⟨-, hreaches⟩)
      · exact absurd hfile (hat content)
      · have hfuel := Nat.le_succ_of_le hreaches.length_le
        simpa using exists_mem_findBelow hreaches hfuel hok
  | ignored place top target hentry hlink hresolve hat =>
    refine ⟨top, hresolve, fun names => iff_of_false (by simp) ?_⟩
    rintro (⟨-, hentry', content, hfile⟩ | ⟨hdirectory, -⟩)
    · obtain rfl := Except.ok.inj (hentry.symm.trans hentry')
      simp [hlink] at hfile
    · exact hat hdirectory

/-- The names of a found file, behind those of the start of the walk, end in its own. -/
theorem getLast?_of_mem_walk (h : .ok file ∈ tree.walk enters start) :
    (RawPath.components start ++ file.relative).getLast? = some file.name := by
  have hstarts := starts_walk tree enters start
  generalize tree.walk enters start = found at h hstarts
  cases hstarts with
  | lost error => simp at h
  | file top content hentry hresolve hat =>
    obtain rfl := Except.ok.inj (List.mem_singleton.1 h)
    rw [List.append_nil, FoundFile.name,
      List.getLast?_eq_some_getLast (RawPath.components_ne_nil start)]
    rfl
  | listed top hresolve hat =>
    obtain ⟨names, hrelative, hreaches⟩ := reaches_of_mem_findBelow h
    rw [List.nil_append] at hrelative
    rw [FoundFile.name, hrelative, List.getLast?_append_of_ne_nil _ hreaches.ne_nil,
      List.getLast?_eq_some_getLast hreaches.ne_nil]
  | ignored => simp at h

end FileTree

end SiteWeave
