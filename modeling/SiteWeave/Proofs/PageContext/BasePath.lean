import SiteWeave.Proofs.PageContext.Kinds

/-!
# The way back to the root

A page links to other pages through the root of the site: a link goes up from the directory of the
page to the root and down from there to its target. The way up has one step for every directory on
the way to the page, where empty pieces of its path are no directories. One step more would leave
the site, and with one step less the link would lead into a directory of the page.

## Main definitions

* `PagePath.directory`: the directory of a page.
* `PagePath.follow`: where the pieces of a link lead.

## Main results

* `PagePath.pieces_basePath_append`: the pieces of a link through the root.
* `PageContext.follow_basePath`: the base path of every page leads back to the root.
-/

namespace SiteWeave

namespace PagePath

variable {path target : String} {place rest : List String}

/-- The names of the directories that a page lies in, the outermost one first. -/
def directory (path : String) : List String :=
  ((pieces path).filter (· ≠ "")).dropLast

/-- Where the pieces of a link lead from a directory: two dots lead out of it, and any other piece
into a directory or to a file in it. Nothing leads out of the root. -/
def follow : List String → List String → Option (List String)
  | place, [] => some place
  | place, piece :: rest =>
    if piece = ".." then
      if place = [] then none else follow place.dropLast rest
    else follow (place ++ [piece]) rest

/-- Down from a place nothing is in the way. -/
theorem follow_of_notMem (h : ".." ∉ rest) : follow place rest = some (place ++ rest) := by
  induction rest generalizing place with
  | nil => rw [follow, List.append_nil]
  | cons piece rest ih =>
    obtain ⟨hpiece, hrest⟩ := not_or.1 (List.mem_cons.not.1 h)
    rw [follow, if_neg (Ne.symm hpiece), ih hrest, List.append_assoc, List.singleton_append]

/-- As many steps up as there are directories lead to the root. -/
theorem follow_replicate_append (place rest : List String) :
    follow place (List.replicate place.length ".." ++ rest) = follow [] rest := by
  induction place using List.reverseRecOn with
  | nil => rfl
  | append_singleton place name ih =>
    rw [List.length_append, List.length_singleton, List.replicate_succ, List.cons_append, follow,
      if_pos rfl, if_neg (by simp), List.dropLast_concat, ih]

theorem pieces_append_slash (front back : String) :
    pieces (front ++ "/" ++ back) = pieces front ++ pieces back := by
  have hslash : "/".toList = ['/'] := rfl
  rw [pieces, String.toList_append, String.toList_append, hslash, List.append_assoc,
    List.singleton_append, List.splitOn_append_cons_self, List.map_append, pieces, pieces]

/-- A step up is a piece of its own. -/
theorem pieces_up_append (rest : String) : pieces ("../" ++ rest) = ".." :: pieces rest := by
  have hstep : "../" = ".." ++ "/" := rfl
  have hpieces : pieces ".." = [".."] := by decide
  rw [hstep, pieces_append_slash, hpieces, List.singleton_append]

/-- **The pieces of a link through the root:** steps up, then those of the target. -/
theorem pieces_basePath_append (path target : String) :
    pieces (basePath path ++ target) = List.replicate (depth path) ".." ++ pieces target := by
  rw [basePath]
  induction depth path with
  | zero => simp
  | succ depth ih =>
    rw [List.replicate_succ, String.join_cons, String.append_assoc, pieces_up_append, ih,
      List.replicate_succ, List.cons_append]

/-- The depth of a page is the number of directories that it lies in. -/
theorem length_directory (path : String) : (directory path).length = depth path := by
  have hempty : ((fun piece => !decide (piece = "")) ∘ String.ofList) =
      fun segment => !segment.isEmpty := by
    funext segment
    cases segment <;> simp [String.ofList_eq_empty_iff]
  rw [directory, List.length_dropLast, depth, segments, Text.splitOn_eq, pieces, List.filter_map,
    List.length_map]
  simp only [decide_not, hempty]

/-- **A link through the root leads to its target.** -/
theorem follow_directory_basePath (htarget : ".." ∉ pieces target) :
    follow (directory path) (pieces (basePath path ++ target)) = some (pieces target) := by
  rw [pieces_basePath_append, ← length_directory, follow_replicate_append,
    follow_of_notMem htarget, List.nil_append]

end PagePath

/-- The rules for the kinds of pages leave the way back alone. -/
theorem PageProfile.basePath_ofPath (path : String) (site : Site) (posts : List Post)
    (settings : Settings) : (ofPath path site posts settings).basePath = PagePath.basePath path := by
  rw [ofPath]
  split
  · rfl
  split
  · dsimp only
    cases Post.find? (PagePath.fileStem path) posts <;> rfl
  split
  · rfl
  · cases topics.find? fun topic => PagePath.isUnder topic path <;> rfl

namespace PageContext

variable {target : String}

/-- **The base path of every page leads back to the root.** Let a page have any path, also one with
slashes in front or several in a row, and any site, posts and settings. Its context has a base path,
and a link that sets a target behind that base path leads from the directory of the page to the
target, and never out of the root on the way. The target is any path without two dots. -/
theorem follow_basePath (path : String) (site : Site) (posts : List Post) (settings : Settings)
    (htarget : ".." ∉ PagePath.pieces target) :
    ∃ back, (ofPath path site posts settings).toJson.get? "basePath" = some (.string back) ∧
      back = PagePath.basePath path ∧
      PagePath.follow (PagePath.directory path) (PagePath.pieces (back ++ target)) =
        some (PagePath.pieces target) := by
  have hback : (ofPath path site posts settings).basePath = PagePath.basePath path :=
    PageProfile.basePath_ofPath path site posts settings
  have hmember : (ofPath path site posts settings).toJson.get? "basePath" =
      some (.string (ofPath path site posts settings).basePath) :=
    get?_toJson_of_mem _ _ List.mem_cons_self
  exact ⟨_, hmember, hback, hback ▸ PagePath.follow_directory_basePath htarget⟩

theorem follow_basePath_nested :
    ".." ∉ PagePath.pieces "blog/posts/a.html" ∧
    PagePath.directory "/ventures//x/y.html" = ["ventures", "x"] ∧
    PagePath.pieces (PagePath.basePath "/ventures//x/y.html" ++ "blog/posts/a.html") =
      ["..", "..", "blog", "posts", "a.html"] ∧
    PagePath.follow ["ventures", "x"] ["..", "..", "blog", "posts", "a.html"] =
      some ["blog", "posts", "a.html"] := by
  have htarget : ".." ∉ PagePath.pieces "blog/posts/a.html" := by decide
  have hpieces : PagePath.pieces "blog/posts/a.html" = ["blog", "posts", "a.html"] := by decide
  have hdirectory : PagePath.directory "/ventures//x/y.html" = ["ventures", "x"] := by decide
  have hlink : PagePath.pieces (PagePath.basePath "/ventures//x/y.html" ++ "blog/posts/a.html") =
      ["..", "..", "blog", "posts", "a.html"] := by decide +kernel
  obtain ⟨back, -, rfl, hfollow⟩ :=
    follow_basePath "/ventures//x/y.html" ⟨"", "", "", "", "", []⟩ [] {} htarget
  rw [hdirectory, hlink, hpieces] at hfollow
  exact ⟨htarget, hdirectory, hlink, hfollow⟩

end PageContext

end SiteWeave
