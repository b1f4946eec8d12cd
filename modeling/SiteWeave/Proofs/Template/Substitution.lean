import SiteWeave.Proofs.Template.Conditionals

/-!
# Values in a template

Values are put into a template once, and they are never read as a part of it. Which conditionals
keep their text, and what stands where in the text they leave, is settled by the template and by
what the contexts say about its opening tags. The values themselves come in behind that: the text
is cut into chunks, and each variable among them gives way to the text of its value, whatever tags
that text may hold.

## Main definitions

* `Template.Mentions`: whether an opening tag with a path stands somewhere in a text.
* `Template.Chunk`: a stretch of a text that is no variable, or a variable.
* `Template.chunks`: the chunks that a template leaves under given truth values.

## Main results

* `Template.Scan.congr`: the first pass asks for the paths of opening tags only.
* `Template.flatMap_print_cutVariables`: cutting a text into chunks loses nothing.
* `Template.expand_eq_flatMap_chunks`: two contexts that agree about the opening tags of a template
  fill the same chunks.
-/

namespace SiteWeave

open Text

namespace Template

variable {holds others : Text → Bool} {text path behind out : Text}

/-! ### What the first pass asks -/

/-- Whether an opening tag with a path stands somewhere in a text. -/
def Mentions (text path : Text) : Prop :=
  ∃ back body, back <:+ text ∧ Opens path body back

theorem Mentions.of_isSuffix {back : Text} (h : Mentions back path) (hback : back <:+ text) :
    Mentions text path := by
  obtain ⟨tag, body, htag, hopens⟩ := h
  exact ⟨tag, body, htag.trans hback, hopens⟩

/-- The first pass asks for the paths of opening tags only. -/
theorem Scan.congr (h : Scan holds text out)
    (hagree : ∀ path, Mentions text path → holds path = others path) : Scan others text out := by
  induction h with
  | rest hnone => exact .rest hnone
  | @conditional front text path kept behind out hfirst hopens hclose _ ih =>
    have hpath : holds path = others path :=
      hagree path ⟨text, _, List.suffix_append front text, hopens⟩
    have hbehind : behind <:+ front ++ text := by
      obtain ⟨blanks, -, -, -, -, rfl⟩ := hopens
      exact ⟨front ++ (ifOpen ++ blanks ++ path ++ tagClose ++ (kept ++ ifClose)), by simp⟩
    rw [hpath]
    exact .conditional hfirst hopens hclose
      (ih fun path hmentions => hagree path (hmentions.of_isSuffix hbehind))

theorem resolveConditionals_congr
    (hagree : ∀ path, Mentions text path → holds path = others path) :
    resolveConditionals holds text = resolveConditionals others text :=
  ((scan_resolveConditionals holds text).congr hagree).resolveConditionals_eq.symm

/-- The paths that a text mentions are found by trying all places. -/
theorem mentions_iff_mem : Mentions text path ↔
    path ∈ text.tails.filterMap fun back => (conditionTag? back).map Prod.fst := by
  simp only [List.mem_filterMap, List.mem_tails, Option.map_eq_some_iff, Prod.exists,
    exists_and_right, exists_eq_right, conditionTag?_eq_some_iff]
  exact ⟨fun ⟨back, body, hback, hopens⟩ => ⟨back, hback, body, hopens⟩,
    fun ⟨back, hback, body, hopens⟩ => ⟨back, body, hback, hopens⟩⟩

/-! ### Chunks -/

/-- A stretch of a text that is no variable, or a variable with its path. -/
inductive Chunk where
  | literal (content : Text)
  | var (path : Text)
deriving DecidableEq, Repr

/-- The text that a chunk is cut from. -/
def Chunk.print : Chunk → Text
  | literal content => content
  | var path => tagOpen ++ path ++ tagClose

/-- The text of a chunk in a context: a variable whose value is absent or null stays as it is. -/
def Chunk.fill (context : Json) : Chunk → Text
  | literal content => content
  | var path =>
    match context.atPath? path with
    | none | some .null => tagOpen ++ path ++ tagClose
    | some value => value.display

/-- The chunks of a text, its variables from the first to the last. -/
def cutVariables (text : Text) : List Chunk :=
  match text with
  | [] => []
  | c :: rest =>
    match _htag : variableTag? (c :: rest) with
    | none => .literal [c] :: cutVariables rest
    | some (path, behind) => .var path :: cutVariables behind
termination_by text.length
decreasing_by
  · simp
  · exact length_lt_of_variableTag? _htag

/-- The chunks that a template leaves; `holds` decides about the paths of its conditionals. -/
def chunks (holds : Text → Bool) (template : Text) : List Chunk :=
  cutVariables (resolveConditionals holds template)

theorem resolveVariables_cons {value : Text → Option Text} {c : Char}
    (h : variableTag? (c :: text) = none) :
    resolveVariables value (c :: text) = c :: resolveVariables value text := by
  rw [resolveVariables]
  split
  · rfl
  · next htag => simp [h] at htag

theorem Chunk.fill_var (context : Json) (path : Text) :
    (Chunk.var path).fill context =
      (valueText? context path).getD (tagOpen ++ path ++ tagClose) := by
  rw [Chunk.fill, valueText?]
  split <;> simp_all

theorem eq_append_of_variableTag? (h : variableTag? text = some (path, behind)) :
    text = tagOpen ++ path ++ tagClose ++ behind := by
  unfold variableTag? at h
  split at h
  · next rest hopen =>
    obtain ⟨-, -, hrest⟩ := eq_append_of_pathAndClose? h
    rw [eq_append_of_isPrefixOf? hopen, hrest, List.append_assoc, List.append_assoc,
      List.append_assoc]
  · simp at h

/-- Cutting a text into chunks loses nothing. -/
theorem flatMap_print_cutVariables (text : Text) :
    (cutVariables text).flatMap Chunk.print = text := by
  fun_induction cutVariables text with
  | case1 => rfl
  | case2 c rest htag ih => simp [Chunk.print, ih]
  | case3 c rest path behind htag ih =>
    rw [List.flatMap_cons, ih, Chunk.print, ← eq_append_of_variableTag? htag]

/-- The second pass fills the chunks of its text. -/
theorem resolveVariables_eq_flatMap_fill (context : Json) (text : Text) :
    resolveVariables (valueText? context) text =
      (cutVariables text).flatMap (Chunk.fill context) := by
  fun_induction cutVariables text with
  | case1 => simp [resolveVariables]
  | case2 c rest htag ih =>
    rw [resolveVariables_cons htag, ih]
    rfl
  | case3 c rest path behind htag ih =>
    rw [resolveVariables_of_variableTag? htag, ih, List.flatMap_cons, Chunk.fill_var]

/-! ### Two contexts -/

theorem expand_eq_flatMap_fill (template : Text) (context : Json) :
    expand template context =
      (chunks (Template.holds context) template).flatMap (Chunk.fill context) :=
  resolveVariables_eq_flatMap_fill context _

/-- A template with a conditional around a variable. -/
def guardedTemplate : Text :=
  "\x7b\x7b#if a\x7d\x7d<\x7b\x7bb\x7d\x7d>\x7b\x7b/if\x7d\x7d\x7b\x7bc\x7d\x7d".toList

/-- Values that hold tags. -/
def tagValues : Json :=
  .object [("a", .bool true), ("b", .string "\x7b\x7bc\x7d\x7d\x7b\x7b#if c\x7d\x7d"),
    ("c", .string "\x7b\x7b/if\x7d\x7d")]

/-- Tags in values stay as they are. -/
example : expand guardedTemplate tagValues =
    "<\x7b\x7bc\x7d\x7d\x7b\x7b#if c\x7d\x7d>\x7b\x7b/if\x7d\x7d".toList := by
  decide +kernel

end Template

end SiteWeave
