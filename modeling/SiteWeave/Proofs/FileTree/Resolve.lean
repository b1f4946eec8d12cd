import SiteWeave.FileTree.Edit

/-!
# Walking along a path

A path is walked name by name, and a walk that meets a link goes on along the target of the link. Two
walks along the same names do the same until the names of one of them end; how they end is all that
has to be compared. So a path below a path leads where the names below it lead from the place of the
first, and names that meet no link lead to the place that they name.

## Main definitions

* `FileTree.EndsAlike`: how two walks have to be related at their ends.

## Main results

* `RawPath.components_ofPath`, `RawPath.ofPath_components`, `RawPath.eq_of_ofPath_eq`: a path and its
  components.
* `FileTree.EndsAlike.walkLinks`: walks along the same names are related as their ends are.
* `FileTree.resolve_place`, `FileTree.resolve_target`: one path, ended in two ways.
* `FileTree.resolve_join`: a path below a path.
* `FileTree.eq_append_of_walkLinks`: names that meet no link.
-/

namespace SiteWeave

/-! ### Components -/

namespace RawPath

variable {path base : RawPath}

theorem components_ne_nil (path : RawPath) : components path ≠ [] := by
  cases path with
  | nil => simp [components]
  | cons b rest =>
    rw [components]
    split
    · simp
    · split <;> simp

theorem components_cons_slash (path : RawPath) :
    components (slash :: path) = [] :: components path := by
  rw [components]
  split
  · next h => exact absurd h (components_ne_nil path)
  · next first others h => simp [h]

/-- A slash separates components. -/
theorem components_append_slash (front back : RawPath) :
    components (front ++ slash :: back) = components front ++ components back := by
  induction front with
  | nil => exact components_cons_slash back
  | cons b front ih =>
    rw [List.cons_append, components, ih, components]
    obtain ⟨first, others, hfront⟩ := List.exists_cons_of_ne_nil (components_ne_nil front)
    simp only [hfront, List.cons_append]
    split <;> rfl

theorem components_of_notMem {name : Name} (h : slash ∉ name) : components name = [name] := by
  induction name with
  | nil => rfl
  | cons b rest ih =>
    simp only [List.mem_cons, not_or] at h
    rw [components, ih h.2]
    simp only [if_neg (Ne.symm h.1)]

/-- The components of a path are the names that it was put together from. -/
theorem components_ofPath {names : Path} (hnames : names ≠ []) (h : ∀ name ∈ names, slash ∉ name) :
    components (ofPath names) = names := by
  induction names with
  | nil => exact absurd rfl hnames
  | cons name names ih =>
    have hname := components_of_notMem (h name List.mem_cons_self)
    cases names with
    | nil => simpa [ofPath] using hname
    | cons next names =>
      have hsplit : ofPath (name :: next :: names) = name ++ slash :: ofPath (next :: names) := by
        simp [ofPath, List.intercalate]
      rw [hsplit, components_append_slash, hname,
        ih (by simp) fun other hother => h other (List.mem_cons_of_mem _ hother)]
      rfl

/-- Names that entries can have are known from the path that is put together from them. -/
theorem eq_of_ofPath_eq {names others : Path} (hnames : ∀ name ∈ names, IsName name)
    (hothers : ∀ name ∈ others, IsName name) (h : ofPath names = ofPath others) :
    names = others := by
  have hempty {names : Path} (hnames : ∀ name ∈ names, IsName name)
      (h : ofPath names = ofPath []) : names = [] := by
    refine Decidable.byContradiction fun hne => ?_
    have hcomponents := components_ofPath hne fun name hmem => (hnames name hmem).2.2.2
    rw [h] at hcomponents
    exact (hnames [] (hcomponents ▸ by simp [ofPath, components])).1 rfl
  by_cases hnil : names = []
  · rw [hnil, hempty hothers (by rw [← h, hnil])]
  by_cases hnil' : others = []
  · rw [hnil', hempty hnames (by rw [h, hnil'])]
  rw [← components_ofPath hnil fun name hmem => (hnames name hmem).2.2.2, h,
    components_ofPath hnil' fun name hmem => (hothers name hmem).2.2.2]

theorem ofPath_nil_cons {names : Path} (h : names ≠ []) :
    ofPath ([] :: names) = slash :: ofPath names := by
  obtain ⟨name, names, rfl⟩ := List.exists_cons_of_ne_nil h
  simp [ofPath, List.intercalate]

theorem ofPath_cons_cons (b : UInt8) (name : Name) (names : Path) :
    ofPath ((b :: name) :: names) = b :: ofPath (name :: names) := by
  cases names <;> simp [ofPath, List.intercalate]

/-- A path is put together from its components. -/
theorem ofPath_components (path : RawPath) : ofPath (components path) = path := by
  induction path with
  | nil => rfl
  | cons b rest ih =>
    rw [components]
    split
    · next h => exact absurd h (components_ne_nil rest)
    · next first others h =>
      rw [h] at ih
      split
      · next hslash => rw [ofPath_nil_cons (by simp), ih, hslash]
      · rw [ofPath_cons_cons, ih]

/-- The components of a path below another: those of the first, without an empty one at the end, and
those of the second. -/
theorem components_join (hbase : base ≠ []) (hpath : path.head? ≠ some slash) :
    components (base.join path) = components base ++ components path ∨
      ∃ front, components base = front ++ [[]] ∧
        components (base.join path) = front ++ components path := by
  have hempty : base.isEmpty = false := by simpa using hbase
  rw [join, if_neg hpath, hempty, Bool.false_or]
  split
  · next hlast =>
    obtain ⟨front, rfl⟩ : ∃ front, base = front ++ [slash] :=
      List.getLast?_eq_some_iff.1 (of_decide_eq_true hlast)
    refine .inr ⟨components front, components_append_slash front [], ?_⟩
    rw [List.append_assoc, List.singleton_append, components_append_slash]
  · exact .inl (components_append_slash base path)

theorem start_join (hbase : base ≠ []) (hpath : path.head? ≠ some slash) (directory : Path) :
    start (base.join path) directory = start base directory := by
  obtain ⟨b, base, rfl⟩ := List.exists_cons_of_ne_nil hbase
  rw [join, if_neg hpath]
  split <;> rfl

end RawPath

/-! ### Walks along the same names -/

namespace FileTree

variable {tree : FileTree} {last last' : PathEnd} {place found top : Path} {names back : List Name}
  {path root : RawPath}

/-- Two walks along names that are followed by `tail` in one and by `tail'` in the other are related
where they end. -/
structure EndsAlike (tree : FileTree) (last last' : PathEnd) (tail tail' : List Name)
    (R : Except FileError Path → Except FileError Path → Prop) : Prop where
  error : ∀ error, R (.error error) (.error error)
  /-- The tails, from the same place. -/
  tails : ∀ links place, R (walkLinks tree last links place tail)
    (walkLinks tree last' links place tail')
  /-- A last name that is not there. -/
  missing : ∀ rest place, R
    (if (rest ++ tail).isEmpty && last = .place then .ok place else .error .notFound)
    (if (rest ++ tail').isEmpty && last' = .place then .ok place else .error .notFound)
  /-- A last name that is a link. -/
  link : ∀ rest place target onward onward', tree.at? place = some (.link target) →
    R onward onward' → R (if (rest ++ tail).isEmpty && last = .entry then .ok place else onward)
      (if (rest ++ tail').isEmpty && last' = .entry then .ok place else onward')

/-- **Walks along the same names are related as their ends are.** -/
theorem EndsAlike.walkLinks {tail tail' : List Name}
    {R : Except FileError Path → Except FileError Path → Prop}
    (h : EndsAlike tree last last' tail tail' R) (links : Nat) (place : Path)
    (names : List Name) : R (walkLinks tree last links place (names ++ tail))
      (walkLinks tree last' links place (names ++ tail')) := by
  -- The links that can still be followed come first; the names of one walk are next.
  have hwalk (follow follow' : Path → List Name → Except FileError Path)
      (hfollow : ∀ place names, R (follow place (names ++ tail)) (follow' place (names ++ tail')))
      (htail : ∀ place, R (walkFrom tree last follow place tail)
        (walkFrom tree last' follow' place tail')) (names : List Name) (place : Path) :
      R (walkFrom tree last follow place (names ++ tail))
        (walkFrom tree last' follow' place (names ++ tail')) := by
    induction names generalizing place with
    | nil => exact htail place
    | cons name names ih =>
      rw [List.cons_append, List.cons_append, walkFrom, walkFrom]
      split
      · exact h.error _
      split
      · exact ih _
      split
      · exact ih _
      split
      · exact h.error _
      split
      · exact h.missing names _
      · next target hat =>
        refine h.link names _ target _ _ hat ?_
        rw [← List.append_assoc, ← List.append_assoc]
        exact hfollow _ _
      · exact ih _
  induction links generalizing place names with
  | zero => exact hwalk _ _ (fun _ _ => h.error _) (h.tails 0) names place
  | succ links ih => exact hwalk _ _ ih (h.tails (links + 1)) names place

/-! ### One path, ended in two ways -/

theorem endsAlike_place (tree : FileTree) (found : Path) :
    EndsAlike tree .target .place [] [] fun given wanted =>
      given = .ok found → wanted = .ok found := by
  refine ⟨fun _ h => h, fun links place h => ?_, fun rest place h => ?_,
    fun rest place target onward onward' _ honward h => ?_⟩
  · cases links <;> exact h
  · simp at h
  · simpa using honward (by simpa using h)

theorem endsAlike_target (tree : FileTree) (found : Path) :
    EndsAlike tree .entry .target [] [] fun given wanted =>
      given = .ok found → (∀ target, tree.at? found ≠ some (.link target)) →
        wanted = .ok found := by
  refine ⟨fun _ h _ => h, fun links place h _ => ?_, fun rest place h => ?_,
    fun rest place target onward onward' hat honward h hlink => ?_⟩
  · cases links <;> exact h
  · simp at h
  · simp only [reduceCtorEq, decide_false, Bool.and_false, Bool.false_eq_true, if_false]
    split at h
    · obtain rfl := Except.ok.inj h
      exact absurd hat (hlink target)
    · exact honward h hlink

theorem resolve_eq_ok_iff : tree.resolve path last = .ok found ↔ RawPath.check path = .ok () ∧
    walkLinks tree last maxLinks (RawPath.start path tree.current) (RawPath.components path) =
      .ok found := by
  rw [resolve]
  cases RawPath.check path <;> simp [bind, Except.bind]

/-- A path that leads to an entry stands for it also where there could be a new one. -/
theorem resolve_place (h : tree.resolve path = .ok found) :
    tree.resolve path .place = .ok found := by
  rw [resolve_eq_ok_iff] at h ⊢
  refine ⟨h.1, ?_⟩
  have hwalk := (endsAlike_place tree found).walkLinks maxLinks
    (RawPath.start path tree.current) (RawPath.components path)
  simp only [List.append_nil] at hwalk
  exact hwalk h.2

/-- A path to an entry that is no link needs no link to be followed at its end. -/
theorem resolve_target (h : tree.resolve path .entry = .ok found)
    (hlink : ∀ target, tree.at? found ≠ some (.link target)) : tree.resolve path = .ok found := by
  rw [resolve_eq_ok_iff] at h ⊢
  refine ⟨h.1, ?_⟩
  have hwalk := (endsAlike_target tree found).walkLinks maxLinks
    (RawPath.start path tree.current) (RawPath.components path)
  simp only [List.append_nil] at hwalk
  exact hwalk h.2 hlink

/-! ### A path below a path -/

theorem endsAlike_append (tree : FileTree) (last : PathEnd) (hback : back ≠ []) :
    EndsAlike tree .target last [] back fun given wanted => ∀ top, given = .ok top →
      ∃ links, wanted = walkLinks tree last links top back := by
  have hempty (rest : List Name) : (rest ++ back).isEmpty = false := by simp [hback]
  refine ⟨fun _ top h => by simp at h, fun links place top h => ⟨links, ?_⟩,
    fun rest place top h => by simp at h, fun rest place target onward onward' _ honward top h => ?_⟩
  · have htop : place = top := by cases links <;> exact Except.ok.inj h
    rw [htop]
  · simp only [hempty, Bool.false_and, Bool.false_eq_true, if_false]
    exact honward top (by simpa using h)

theorem endsAlike_skip (tree : FileTree) (last : PathEnd) (hback : back ≠ []) :
    EndsAlike tree last last ([] :: back) back fun given wanted => given = wanted := by
  have hempty (rest : List Name) : (rest ++ back).isEmpty = false := by simp [hback]
  have hempty' (rest : List Name) : (rest ++ [] :: back).isEmpty = false := by simp
  obtain ⟨name, back, rfl⟩ := List.exists_cons_of_ne_nil hback
  refine ⟨fun _ => rfl, fun links place => ?_, fun rest place => ?_,
    fun rest place target onward onward' _ honward => ?_⟩
  · have hwalk (follow : Path → List Name → Except FileError Path) :
        walkFrom tree last follow place ([] :: name :: back) =
          walkFrom tree last follow place (name :: back) := by
      rw [walkFrom]
      split
      · next hplace => rw [walkFrom, if_pos hplace]
      · rw [if_pos (.inl rfl)]
    cases links <;> exact hwalk _
  · simp only [hempty, hempty']
  · simp only [hempty, hempty', honward]

/-- **A path below a path** leads where its components lead from the place of the other one. -/
theorem resolve_join (hroot : tree.resolve root = .ok top) (hpath : path.head? ≠ some RawPath.slash)
    (h : tree.resolve (root.join path) last = .ok found) :
    ∃ links, walkLinks tree last links top (RawPath.components path) = .ok found := by
  rw [resolve_eq_ok_iff] at hroot h
  have hempty : root ≠ [] := by
    rintro rfl
    simp [RawPath.check] at hroot
  have hback := RawPath.components_ne_nil path
  rw [RawPath.start_join hempty hpath] at h
  rcases RawPath.components_join hempty hpath with hjoin | ⟨front, hfront, hjoin⟩
  · have hwalk := (endsAlike_append tree last hback).walkLinks maxLinks
      (RawPath.start root tree.current) (RawPath.components root) top
    rw [List.append_nil] at hwalk
    obtain ⟨links, hlinks⟩ := hwalk hroot.2
    exact ⟨links, by rw [← hlinks, ← hjoin, h.2]⟩
  · have hwalk := (endsAlike_append tree last hback).walkLinks maxLinks
      (RawPath.start root tree.current) (front ++ [[]]) top
    rw [List.append_nil, List.append_assoc, List.singleton_append,
      (endsAlike_skip tree last hback).walkLinks, ← hfront] at hwalk
    obtain ⟨links, hlinks⟩ := hwalk hroot.2
    exact ⟨links, by rw [← hlinks, ← hjoin, h.2]⟩

/-! ### Names that meet no link -/

theorem eq_append_of_walkFrom {follow : Path → List Name → Except FileError Path}
    (hnames : ∀ name ∈ names, IsName name)
    (hlink : ∀ front, front ≠ [] → front <+: names → ∀ target,
      tree.at? (place ++ front) ≠ some (.link target))
    (h : walkFrom tree last follow place names = .ok found) : found = place ++ names := by
  induction names generalizing place with
  | nil => simpa [walkFrom] using h.symm
  | cons name names ih =>
    obtain ⟨hempty, hdot, hdots, -⟩ := hnames name List.mem_cons_self
    have hrest (h : walkFrom tree last follow (place ++ [name]) names = .ok found) :
        found = place ++ name :: names := by
      rw [List.append_cons]
      refine ih (fun other hother => hnames other (List.mem_cons_of_mem _ hother))
        (fun front hfront hpart target => ?_) h
      rw [List.append_assoc]
      exact hlink (name :: front) (by simp) (List.cons_prefix_cons.2 ⟨rfl, hpart⟩) target
    rw [walkFrom, if_neg (not_or.2 ⟨hempty, hdot⟩), if_neg hdots] at h
    split at h
    · simp at h
    split at h
    · simp at h
    split at h
    · split at h
      · next hend =>
        simp only [Bool.and_eq_true, List.isEmpty_iff] at hend
        rw [hend.1]
        exact (Except.ok.inj h).symm
      · simp at h
    · next target hat =>
      exact absurd hat (hlink [name] (by simp) (by simp) target)
    · exact hrest h

/-- **Names that meet no link** lead to the place that they name, if they lead anywhere. -/
theorem eq_append_of_walkLinks {links : Nat} (hnames : ∀ name ∈ names, IsName name)
    (hlink : ∀ front, front ≠ [] → front <+: names → ∀ target,
      tree.at? (place ++ front) ≠ some (.link target))
    (h : walkLinks tree last links place names = .ok found) : found = place ++ names := by
  cases links <;> exact eq_append_of_walkFrom hnames hlink h

end FileTree

end SiteWeave
