import SiteWeave.Text.Blank
import SiteWeave.Text.Word
import SiteWeave.Json.Printer

/-!
# Templates

A template is text with variables, written as a dotted path between double braces, and conditionals,
which keep or drop the text up to the nearest closing tag. It is expanded against a JSON value in
two passes. The first resolves the conditionals and does not look again into text it kept; the
second replaces the variables. Nothing is escaped, and what does not resolve stays as it is.

## Main definitions

* `Template.conditionTag?`, `Template.variableTag?`: the two kinds of tags at the front of a text.
* `Template.resolveConditionals`, `Template.resolveVariables`: the two passes.
* `Json.isTruthy`, `Json.display`: what a value means to a conditional and to a variable.
* `Template.expand`: both passes against a context.

## Main results

* `Template.length_lt_of_conditionTag?`, `Template.length_lt_of_variableTag?`: a tag is not empty.
-/

namespace SiteWeave

namespace Json

/-- Whether a conditional on the value keeps its text: null, false, zero and the empty string drop
it. -/
def isTruthy : Json → Bool
  | null => false
  | bool value => value
  | number (.integer value) => value != 0
  | number (.float value) => value != 0.0
  | string value => !value.isEmpty
  | array _ => true
  | object _ => true

/-- The text that a variable with the value stands for: a string as it is, anything else in its
compact form. -/
def display : Json → Text
  | string value => value.toList
  | value => value.compact.toList

/-- The value at a path whose keys are separated by dots. -/
def atPath? (value : Json) (path : Text) : Option Json :=
  value.lookup? ((Text.splitOn '.' path).map String.ofList)

end Json

namespace Template

/-- The start of a conditional, up to the blanks in front of its path. -/
def ifOpen : Text := "\x7b\x7b#if".toList

/-- The end of a conditional. -/
def ifClose : Text := "\x7b\x7b/if\x7d\x7d".toList

/-- The start of a variable. -/
def tagOpen : Text := "\x7b\x7b".toList

/-- The end of a tag. -/
def tagClose : Text := "\x7d\x7d".toList

/-- Whether a character may stand in the path of a conditional. -/
def isConditionChar (c : Char) : Bool :=
  isWord c || c = '.'

/-- Whether a character may stand in the path of a variable. -/
def isVariableChar (c : Char) : Bool :=
  isAsciiWord c || c = '.'

/-- A path of characters of one class and the end of the tag, at the front of a text. -/
def pathAndClose? (isPathChar : Char → Bool) (text : Text) : Option (Text × Text) :=
  match text.takeWhile isPathChar, tagClose.isPrefixOf? (text.dropWhile isPathChar) with
  | c :: path, some rest => some (c :: path, rest)
  | _, _ => none

/-- The path of the conditional that opens at the front of a text, and the text behind the tag. -/
def conditionTag? (text : Text) : Option (Text × Text) :=
  match ifOpen.isPrefixOf? text with
  | some rest =>
    if (rest.takeWhile isBlank).isEmpty then none
    else pathAndClose? isConditionChar (rest.dropWhile isBlank)
  | none => none

/-- The path of the variable at the front of a text, and the text behind the tag. -/
def variableTag? (text : Text) : Option (Text × Text) :=
  match tagOpen.isPrefixOf? text with
  | some rest => pathAndClose? isVariableChar rest
  | none => none

/-! ### A tag is not empty -/

theorem length_lt_of_pathAndClose? {isPathChar : Char → Bool} {text path rest : Text}
    (h : pathAndClose? isPathChar text = some (path, rest)) : rest.length < text.length := by
  unfold pathAndClose? at h
  split at h
  · next c front tail htake hclose =>
    obtain ⟨rfl, rfl⟩ := by simpa using h
    have hdrop := congrArg List.length (Text.eq_append_of_isPrefixOf? hclose)
    have hsplit := congrArg List.length
      (List.takeWhile_append_dropWhile (p := isPathChar) (l := text))
    rw [htake] at hsplit
    simp only [List.length_append, List.length_cons] at hdrop hsplit
    omega
  · simp at h

theorem length_lt_of_conditionTag? {text path rest : Text}
    (h : conditionTag? text = some (path, rest)) : rest.length < text.length := by
  unfold conditionTag? at h
  split at h
  · next tail hopen =>
    have hlen := congrArg List.length (Text.eq_append_of_isPrefixOf? hopen)
    split at h
    · simp at h
    · have hrest := length_lt_of_pathAndClose? h
      have hblank := (List.dropWhile_sublist (l := tail) isBlank).length_le
      simp only [List.length_append] at hlen
      omega
  · simp at h

theorem length_lt_of_variableTag? {text path rest : Text}
    (h : variableTag? text = some (path, rest)) : rest.length < text.length := by
  unfold variableTag? at h
  split at h
  · next tail hopen =>
    have hlen := congrArg List.length (Text.eq_append_of_isPrefixOf? hopen)
    have hrest := length_lt_of_pathAndClose? h
    simp only [List.length_append] at hlen
    omega
  · simp at h

/-! ### The passes -/

/-- The text with each conditional replaced by what it keeps; `holds` decides about paths. An
opening tag without a closing tag behind it is plain text. -/
def resolveConditionals (holds : Text → Bool) (text : Text) : Text :=
  match text with
  | [] => []
  | c :: rest =>
    match _hopen : conditionTag? (c :: rest) with
    | none => c :: resolveConditionals holds rest
    | some (path, body) =>
      match _hclose : Text.splitFirst? ifClose body with
      | none => c :: rest
      | some (kept, after) =>
        (if holds path then kept else []) ++ resolveConditionals holds after
termination_by text.length
decreasing_by
  · simp
  · have h1 := length_lt_of_conditionTag? _hopen
    have h2 := Text.length_lt_of_splitFirst? (by decide) _hclose
    omega

/-- The text with each variable replaced by its value; a variable without value stays. -/
def resolveVariables (value : Text → Option Text) (text : Text) : Text :=
  match text with
  | [] => []
  | c :: rest =>
    match _htag : variableTag? (c :: rest) with
    | none => c :: resolveVariables value rest
    | some (path, after) =>
      (value path).getD (tagOpen ++ path ++ tagClose) ++ resolveVariables value after
termination_by text.length
decreasing_by
  · simp
  · exact length_lt_of_variableTag? _htag

/-- Whether a conditional on a path keeps its text. -/
def holds (context : Json) (path : Text) : Bool :=
  (context.atPath? path).any Json.isTruthy

/-- The text of a variable, unless its value is absent or null. -/
def valueText? (context : Json) (path : Text) : Option Text :=
  match context.atPath? path with
  | none | some .null => none
  | some value => some value.display

/-- The template expanded against a context. -/
def expand (template : Text) (context : Json) : Text :=
  resolveVariables (valueText? context) (resolveConditionals (holds context) template)

end Template

end SiteWeave
