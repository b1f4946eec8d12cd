import Mathlib.Data.List.Nodup
import SiteWeave.FileTree.Walk
import SiteWeave.Proofs.FileTree.Resolve

/-!
# What a walk finds

A walk finds files only, each below directories that it may enter, and each of them once. They come
in the order of the names that lead to them, where the first name that differs decides. These names
meet no link, so that the path of a found file below the start of the walk leads to it.

## Main definitions

* `FileTree.Reaches`: names that lead from a directory to a file that a walk finds there.
* `FileTree.Ahead`: of two things that a walk finds one comes before the other.
* `FileTree.Apart`: two things that a walk finds are not one file.
* `FileTree.findAt`: what is found at one name of a directory.
* `FileTree.Starts`: what a walk does at its start.

## Main results

* `FileTree.nodup_names`, `FileTree.pairwise_sortedNames`: a directory has each of its names once,
  and they come in order.
* `FileTree.reaches_of_mem_findBelow`, `FileTree.pairwise_ahead_findBelow`: what is found below a
  directory.
* `FileTree.reaches_of_mem_walk`, `FileTree.pairwise_ahead_walk`: what is found below a path.
* `FileTree.Reaches.eq_append`: the path of a found file leads to it.
-/

namespace SiteWeave

/-- Paths come in the order of their bytes, where the first byte that differs decides. -/
theorem RawPath.before_iff {path other : RawPath} : before path other = true ↔ path ≤ other := by
  induction path generalizing other with
  | nil => simp [before]
  | cons b path ih =>
    cases other with
    | nil => simp [before]
    | cons c other => simp [before, ih, List.cons_le_cons_iff]

namespace FileTree

variable {tree : FileTree} {enters : Name → Bool} {directory place top : Path} {name : Name}
  {names : List Name} {start shown : RawPath} {file : FoundFile}

/-! ### Names of a directory -/

theorem names_eq (tree : FileTree) (directory : Path) : tree.names directory =
    (tree.entries.map Prod.fst).filterMap fun path =>
      match path.getLast? with
      | some name => if path.dropLast = directory then some name else none
      | none => none := by
  rw [names, List.filterMap_map]
  rfl

theorem getLast?_and_dropLast_iff {path : Path} : (match path.getLast? with
      | some name => if path.dropLast = directory then some name else none
      | none => none) = some name ↔ path = directory ++ [name] := by
  constructor
  · intro h
    split at h
    · next last hlast =>
      split at h
      · next hdirectory =>
        obtain ⟨front, rfl⟩ := List.getLast?_eq_some_iff.1 hlast
        rw [← hdirectory, List.dropLast_concat, Option.some.inj h]
      · simp at h
    · simp at h
  · rintro rfl
    simp

theorem mem_names : name ∈ tree.names directory ↔
    directory ++ [name] ∈ tree.entries.map Prod.fst := by
  simp only [names_eq, List.mem_filterMap, getLast?_and_dropLast_iff, exists_eq_right]

/-- A directory has each of its names once. -/
theorem nodup_names (tree : FileTree) (directory : Path) : (tree.names directory).Nodup := by
  rw [names_eq]
  refine tree.distinct.filterMap fun path other name hpath hother => ?_
  exact (getLast?_and_dropLast_iff.1 hpath).trans (getLast?_and_dropLast_iff.1 hother).symm

/-- A name in a directory can be one. -/
theorem isName_of_mem_names (h : name ∈ tree.names directory) : IsName name :=
  (tree.named _ (mem_names.1 h)).2 name (by simp)

theorem listNames_eq_ok_iff : tree.listNames directory = .ok names ↔
    find? directory tree.unreadable = none ∧ tree.isDirectory directory ∧
      tree.names directory = names := by
  rw [listNames]
  cases find? directory tree.unreadable with
  | some error => simp
  | none => cases tree.isDirectory directory <;> simp

theorem sortedNames_eq_ok_iff : tree.sortedNames directory shown = .ok names ↔
    RawPath.check shown = .ok () ∧ tree.listNames directory = .ok (tree.names directory) ∧
      (tree.names directory).mergeSort RawPath.before = names := by
  rw [sortedNames]
  cases RawPath.check shown with
  | error error => simp [bind, Except.bind]
  | ok value =>
    cases hlist : tree.listNames directory with
    | error error => simp [bind, Except.bind]
    | ok listed =>
      obtain ⟨-, -, rfl⟩ := listNames_eq_ok_iff.1 hlist
      simp [bind, Except.bind, pure, Except.pure]

theorem sortedNames_perm (h : tree.sortedNames directory shown = .ok names) :
    names.Perm (tree.names directory) := by
  obtain ⟨-, -, rfl⟩ := sortedNames_eq_ok_iff.1 h
  exact List.mergeSort_perm _ _

/-- The names of a directory come in strictly increasing order. -/
theorem pairwise_sortedNames (h : tree.sortedNames directory shown = .ok names) :
    names.Pairwise (· < ·) := by
  have hnodup := (sortedNames_perm h).nodup_iff.2 (nodup_names tree directory)
  obtain ⟨-, -, rfl⟩ := sortedNames_eq_ok_iff.1 h
  have htrans (a b c : Name) (hab : RawPath.before a b) (hbc : RawPath.before b c) :
      RawPath.before a c :=
    RawPath.before_iff.2 (List.le_trans (RawPath.before_iff.1 hab) (RawPath.before_iff.1 hbc))
  have htotal (a b : Name) : RawPath.before a b || RawPath.before b a := by
    simp only [Bool.or_eq_true, RawPath.before_iff]
    exact List.le_total a b
  refine ((List.pairwise_mergeSort htrans htotal _).and hnodup).imp fun {a b} hab => ?_
  refine List.not_le.1 fun hba => hab.2 ?_
  exact List.le_antisymm (RawPath.before_iff.1 hab.1) hba

/-- Names that are in their order stay in it. -/
theorem sortedNames_of_pairwise (hcheck : RawPath.check shown = .ok ())
    (hlist : tree.listNames directory = .ok names)
    (hsorted : names.Pairwise fun a b => RawPath.before a b) :
    tree.sortedNames directory shown = .ok names := by
  rw [sortedNames, hcheck, hlist]
  exact congrArg _ (List.mergeSort_of_pairwise hsorted)

/-! ### Below a directory -/

/-- The names lead from a directory to a file, through directories that may be entered. -/
inductive Reaches (tree : FileTree) (enters : Name → Bool) : Path → List Name → Prop
  | file {directory : Path} {name : Name} (content : ByteArray) (hname : IsName name)
    (hat : tree.at? (directory ++ [name]) = some (.file content)) :
    Reaches tree enters directory [name]
  | directory {directory : Path} {name : Name} {names : List Name} (hname : IsName name)
    (hat : tree.at? (directory ++ [name]) = some .directory) (henters : enters name)
    (hbelow : Reaches tree enters (directory ++ [name]) names) :
    Reaches tree enters directory (name :: names)

namespace Reaches

theorem ne_nil (h : Reaches tree enters directory names) : names ≠ [] := by
  cases h <;> simp

theorem isName (h : Reaches tree enters directory names) : ∀ name ∈ names, IsName name := by
  induction h with
  | file content hname hat => simpa using hname
  | directory hname hat henters hbelow ih => simpa using ⟨hname, ih⟩

theorem exists_at?_eq (h : Reaches tree enters directory names) :
    ∃ content, tree.at? (directory ++ names) = some (.file content) := by
  induction h with
  | file content hname hat => exact ⟨content, hat⟩
  | directory hname hat henters hbelow ih => simpa using ih

/-- No name on the way is that of a link. -/
theorem at?_ne_link (h : Reaches tree enters directory names) {front : List Name}
    (hfront : front ≠ []) (hpart : front <+: names) (target : Bytes) :
    tree.at? (directory ++ front) ≠ some (.link target) := by
  induction h generalizing front with
  | file content hname hat =>
    obtain ⟨name, front, rfl⟩ := List.exists_cons_of_ne_nil hfront
    obtain ⟨rfl, hnil⟩ := List.cons_prefix_cons.1 hpart
    rw [List.prefix_nil.1 hnil, hat]
    simp
  | directory hname hat henters hbelow ih =>
    obtain ⟨name, front, rfl⟩ := List.exists_cons_of_ne_nil hfront
    obtain ⟨rfl, hrest⟩ := List.cons_prefix_cons.1 hpart
    by_cases hempty : front = []
    · rw [hempty, hat]
      simp
    · rw [List.append_cons]
      exact ih hempty hrest

/-- All directories on the way may be entered. -/
theorem enters_of_append_cons (h : Reaches tree enters directory names) {front back : List Name}
    (hnames : names = front ++ name :: back) (hback : back ≠ []) : enters name := by
  induction h generalizing front with
  | file content hname hat =>
    obtain ⟨rfl, hnil⟩ | ⟨rfl, hnil⟩ := List.singleton_eq_append_iff.1 hnames
    · exact absurd (List.cons.inj hnil).2 hback
    · simp at hnil
  | directory hname hat henters hbelow ih =>
    obtain _ | ⟨first, front⟩ := front
    · obtain ⟨rfl, -⟩ := List.cons.inj hnames
      exact henters
    · exact ih (List.cons.inj hnames).2

/-- **The path of a found file leads to it,** below any path that leads to the start of the walk. -/
theorem eq_append (h : Reaches tree enters top names) (hroot : tree.resolve start = .ok top)
    {last : PathEnd} (hresolve : tree.resolve (start.join (RawPath.ofPath names)) last = .ok place) :
    place = top ++ names := by
  have hcomponents : RawPath.components (RawPath.ofPath names) = names :=
    RawPath.components_ofPath h.ne_nil fun name hmem => (h.isName name hmem).2.2.2
  have hhead : (RawPath.ofPath names).head? ≠ some RawPath.slash := by
    intro hslash
    obtain ⟨rest, hrest⟩ := List.head?_eq_some_iff.1 hslash
    rw [hrest, RawPath.components_cons_slash] at hcomponents
    exact (h.isName [] (hcomponents ▸ List.mem_cons_self)).1 rfl
  obtain ⟨links, hlinks⟩ := resolve_join hroot hhead hresolve
  rw [hcomponents] at hlinks
  exact eq_append_of_walkLinks h.isName (fun front => h.at?_ne_link) hlinks

end Reaches

/-- Of two things that a walk finds one comes before the other, in the order of the names that lead
to them. -/
def Ahead (a b : Except WalkError FoundFile) : Prop :=
  ∀ file other, a = .ok file → b = .ok other →
    file.relative ≠ [] ∧ file.relative < other.relative

/-- Two things that a walk finds are not one file. -/
def Apart (a b : Except WalkError FoundFile) : Prop :=
  ∀ file other, a = .ok file → b = .ok other → file.relative ≠ other.relative

theorem Ahead.apart {a b : Except WalkError FoundFile} (h : Ahead a b) : Apart a b := by
  intro file other ha hb heq
  exact List.lt_irrefl other.relative (heq ▸ (h file other ha hb).2)

/-- What is found at one name of a directory. -/
def findAt (tree : FileTree) (enters : Name → Bool) (fuel : Nat) (directory : Path)
    (shown : RawPath) (relative : List Name) (name : Name) : List (Except WalkError FoundFile) :=
  match tree.at? (directory ++ [name]) with
  | some (.file _) => [.ok ⟨shown.join name, relative ++ [name]⟩]
  | some .directory =>
    if enters name then
      findBelow tree enters fuel (directory ++ [name]) (shown.join name) (relative ++ [name])
    else []
  | _ => []

theorem findBelow_succ (tree : FileTree) (enters : Name → Bool) (fuel : Nat) (directory : Path)
    (shown : RawPath) (relative : List Name) :
    findBelow tree enters (fuel + 1) directory shown relative =
      match tree.sortedNames directory shown with
      | .error error => [.error ⟨shown, error⟩]
      | .ok names => names.flatMap (findAt tree enters fuel directory shown relative) := rfl

/-- A file is found at its own name, or below it. -/
theorem mem_findAt {fuel : Nat} {relative : List Name}
    (h : .ok file ∈ findAt tree enters fuel directory shown relative name) :
    (∃ content, tree.at? (directory ++ [name]) = some (.file content) ∧
        file.relative = relative ++ [name]) ∨
      tree.at? (directory ++ [name]) = some .directory ∧ enters name ∧
        .ok file ∈ findBelow tree enters fuel (directory ++ [name]) (shown.join name)
          (relative ++ [name]) := by
  rw [findAt] at h
  split at h
  · next content hat =>
    refine .inl ⟨content, hat, ?_⟩
    rw [Except.ok.inj (List.mem_singleton.1 h)]
  · next hat =>
    split at h
    · next henters => exact .inr ⟨hat, henters, h⟩
    · simp at h
  · simp at h

/-- **What is found below a directory** can be reached from it. -/
theorem reaches_of_mem_findBelow {fuel : Nat} {relative : List Name}
    (h : .ok file ∈ findBelow tree enters fuel directory shown relative) :
    ∃ names, file.relative = relative ++ names ∧ Reaches tree enters directory names := by
  induction fuel generalizing directory shown relative with
  | zero => simp [findBelow] at h
  | succ fuel ih =>
    rw [findBelow_succ] at h
    split at h
    · simp at h
    next names hnames =>
    obtain ⟨name, hmem, h⟩ := List.mem_flatMap.1 h
    have hname := isName_of_mem_names ((sortedNames_perm hnames).subset hmem)
    rcases mem_findAt h with ⟨content, hat, hrelative⟩ | ⟨hat, henters, hbelow⟩
    · exact ⟨[name], hrelative, .file content hname hat⟩
    · obtain ⟨names, hrelative, hreaches⟩ := ih hbelow
      exact ⟨name :: names, by simpa using hrelative, .directory hname hat henters hreaches⟩

theorem exists_relative_of_mem_findAt {fuel : Nat} {relative : List Name}
    (h : .ok file ∈ findAt tree enters fuel directory shown relative name) :
    ∃ names, file.relative = relative ++ name :: names := by
  rcases mem_findAt h with ⟨-, -, hrelative⟩ | ⟨-, -, hbelow⟩
  · exact ⟨[], hrelative⟩
  · obtain ⟨names, hrelative, -⟩ := reaches_of_mem_findBelow hbelow
    exact ⟨names, by simpa using hrelative⟩

/-- **What is found below a directory comes in order.** -/
theorem pairwise_ahead_findBelow (tree : FileTree) (enters : Name → Bool) (fuel : Nat)
    (directory : Path) (shown : RawPath) (relative : List Name) :
    (findBelow tree enters fuel directory shown relative).Pairwise Ahead := by
  induction fuel generalizing directory shown relative with
  | zero => exact .nil
  | succ fuel ih =>
    rw [findBelow_succ]
    split
    · exact List.pairwise_singleton _ _
    next names hnames =>
    refine List.pairwise_flatMap.2 ⟨fun name _ => ?_, ?_⟩
    · rw [findAt]
      split
      · exact List.pairwise_singleton _ _
      · split
        · exact ih _ _ _
        · exact .nil
      · exact .nil
    · refine (pairwise_sortedNames hnames).imp ?_
      rintro name other hlt a ha b hb file found rfl rfl
      obtain ⟨rest, hfile⟩ := exists_relative_of_mem_findAt ha
      obtain ⟨rest', hfound⟩ := exists_relative_of_mem_findAt hb
      rw [hfile, hfound]
      exact ⟨by simp, List.append_left_lt (List.cons_lt_cons_iff.2 (.inl hlt))⟩

/-! ### Below a path -/

/-- What a walk does at its start. -/
inductive Starts (tree : FileTree) (enters : Name → Bool) (start : RawPath) :
    List (Except WalkError FoundFile) → Prop
  /-- The start leads nowhere. -/
  | lost (error : FileError) : Starts tree enters start [.error ⟨start, error⟩]
  /-- The start is a file. -/
  | file (top : Path) (content : ByteArray) (hentry : tree.resolve start .entry = .ok top)
    (hresolve : tree.resolve start = .ok top) (hat : tree.at? top = some (.file content)) :
    Starts tree enters start [.ok ⟨start, []⟩]
  /-- The start is no file, and what it is or leads to is listed. -/
  | listed (top : Path) (hresolve : tree.resolve start = .ok top)
    (hat : ∀ content, tree.at? top ≠ some (.file content)) :
    Starts tree enters start (findBelow tree enters (tree.entries.length + 1) top start [])
  /-- The start is a link, but not to a directory. -/
  | ignored (place top : Path) (target : Bytes) (hentry : tree.resolve start .entry = .ok place)
    (hlink : tree.at? place = some (.link target)) (hresolve : tree.resolve start = .ok top)
    (hat : tree.at? top ≠ some .directory) : Starts tree enters start []

theorem starts_walk (tree : FileTree) (enters : Name → Bool) (start : RawPath) :
    Starts tree enters start (tree.walk enters start) := by
  rw [walk]
  split
  · exact .lost _
  next place hplace =>
  split
  · next target hlink =>
    split
    · exact .lost _
    next top htop =>
    split
    · next hdirectory =>
      exact .listed top htop fun content hat => by simp [isDirectory, hat] at hdirectory
    · next hdirectory =>
      exact .ignored place top target hplace hlink htop fun hat => by
        simp [isDirectory, hat] at hdirectory
  · next content hat =>
    exact .file place content hplace (resolve_target hplace (by simp [hat])) hat
  · next hlink hfile => exact .listed place (resolve_target hplace hlink) hfile

/-- **What is found below a path** is either the start itself, which is a file, or can be reached
from the place of the start. -/
theorem reaches_of_mem_walk (h : .ok file ∈ tree.walk enters start) :
    ∃ top, tree.resolve start = .ok top ∧
      (file.relative = [] ∧ (∃ content, tree.at? top = some (.file content)) ∨
        Reaches tree enters top file.relative) := by
  have hstarts := starts_walk tree enters start
  generalize tree.walk enters start = found at h hstarts
  cases hstarts with
  | lost error => simp at h
  | file top content hentry hresolve hat =>
    refine ⟨top, hresolve, .inl ⟨?_, content, hat⟩⟩
    rw [Except.ok.inj (List.mem_singleton.1 h)]
  | listed top hresolve hat =>
    obtain ⟨names, hrelative, hreaches⟩ := reaches_of_mem_findBelow h
    exact ⟨top, hresolve, .inr (by simpa [hrelative] using hreaches)⟩
  | ignored => simp at h

/-- A found file has names below the start that entries can have. -/
theorem isName_of_mem_walk (h : .ok file ∈ tree.walk enters start) {name : Name}
    (hmem : name ∈ file.relative) : IsName name := by
  obtain ⟨top, -, ⟨hnil, -⟩ | hreaches⟩ := reaches_of_mem_walk h
  · simp [hnil] at hmem
  · exact hreaches.isName name hmem

/-- **What is found below a path comes in order.** -/
theorem pairwise_ahead_walk (tree : FileTree) (enters : Name → Bool) (start : RawPath) :
    (tree.walk enters start).Pairwise Ahead := by
  have hstarts := starts_walk tree enters start
  generalize tree.walk enters start = found at hstarts ⊢
  cases hstarts with
  | lost error => exact List.pairwise_singleton _ _
  | file => exact List.pairwise_singleton _ _
  | listed => exact pairwise_ahead_findBelow _ _ _ _ _ _
  | ignored => exact .nil

/-- **Nothing is found twice** below a path. -/
theorem pairwise_walk (tree : FileTree) (enters : Name → Bool) (start : RawPath) :
    (tree.walk enters start).Pairwise Apart :=
  (pairwise_ahead_walk tree enters start).imp Ahead.apart

end FileTree

end SiteWeave
