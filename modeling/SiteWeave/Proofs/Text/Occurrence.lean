import SiteWeave.Text.Blank
import Mathlib.Data.List.Infix

/-!
# First and last occurrences

Cutting a text at the first or at the last occurrence of another one is described without the scan:
the cut exists exactly when the text occurs, and it is the occurrence that no other one precedes, or
follows. Trimming takes blanks away and nothing else.

## Main results

* `Text.splitFirst?_eq_some_iff`, `Text.splitFirst?_eq_none_iff`: the cut at the first occurrence.
* `Text.splitLast?_eq_none_iff`: the cut at the last occurrence.
* `Text.contains_eq_true_iff`: the search for an occurrence.
* `Text.infix_trim`: a text without blanks at its ends survives trimming.
-/

namespace SiteWeave

namespace Text

variable {needle text before after : Text}

theorem isPrefixOf?_eq_some_iff :
    needle.isPrefixOf? text = some after ↔ text = needle ++ after := by
  rw [List.isPrefixOf?_eq_some_iff_append_eq, eq_comm]

theorem isPrefixOf?_eq_none_iff : needle.isPrefixOf? text = none ↔ ¬ needle <+: text := by
  rw [Option.eq_none_iff_forall_ne_some]
  simp only [ne_eq, isPrefixOf?_eq_some_iff]
  exact ⟨fun h ⟨after, hafter⟩ => h after hafter.symm, fun h after hafter => h ⟨after, hafter.symm⟩⟩

theorem splitFirst?_eq_none_iff : splitFirst? needle text = none ↔ ¬ needle <:+: text := by
  induction text with
  | nil => cases needle <;> simp [splitFirst?]
  | cons c text ih =>
    rw [splitFirst?, List.infix_cons_iff, not_or]
    split
    · next after h =>
      have hhead : needle <+: c :: text := ⟨after, (isPrefixOf?_eq_some_iff.1 h).symm⟩
      simp [hhead]
    · next h => simp [ih, isPrefixOf?_eq_none_iff.1 h]

theorem contains_eq_true_iff : contains needle text = true ↔ needle <:+: text := by
  rw [contains, Option.isSome_iff_ne_none, ne_eq, splitFirst?_eq_none_iff, Classical.not_not]

/-- No occurrence begins in front of the first one. -/
theorem length_le_of_splitFirst? (h : splitFirst? needle text = some (before, after))
    {front back : Text} (ht : text = front ++ needle ++ back) : before.length ≤ front.length := by
  induction text generalizing before front with
  | nil =>
    rw [splitFirst?] at h
    split at h
    · obtain ⟨rfl, rfl⟩ := by simpa using h
      exact Nat.zero_le _
    · simp at h
  | cons c text ih =>
    rw [splitFirst?] at h
    split at h
    · obtain ⟨rfl, rfl⟩ := by simpa using h
      exact Nat.zero_le _
    · next hnone =>
      obtain ⟨⟨inner, rest⟩, hs, he⟩ := Option.map_eq_some_iff.1 h
      obtain ⟨rfl, rfl⟩ := by simpa using he
      cases front with
      | nil => exact absurd ⟨back, ht.symm⟩ (isPrefixOf?_eq_none_iff.1 hnone)
      | cons d front =>
        obtain ⟨-, htext⟩ := by simpa using ht
        exact Nat.succ_le_succ (ih hs (by simpa using htext))

/-- What stands behind an occurrence stands as well behind the first one. -/
theorem isSuffix_of_splitFirst? (h : splitFirst? needle text = some (before, after))
    {front back : Text} (ht : text = front ++ needle ++ back) : back <:+ after := by
  have hcut := eq_append_of_splitFirst? h
  have hle := length_le_of_splitFirst? h ht
  have hlen := congrArg List.length (hcut.symm.trans ht)
  simp only [List.length_append] at hlen
  exact List.suffix_of_suffix_length_le ⟨front ++ needle, ht.symm⟩ ⟨before ++ needle, hcut.symm⟩
    (by omega)

theorem splitFirst?_eq_some_iff :
    splitFirst? needle text = some (before, after) ↔
      text = before ++ needle ++ after ∧
        ∀ front back, text = front ++ needle ++ back → before.length ≤ front.length := by
  constructor
  · intro h
    exact ⟨eq_append_of_splitFirst? h, fun _ _ => length_le_of_splitFirst? h⟩
  · rintro ⟨htext, hfirst⟩
    cases h : splitFirst? needle text with
    | none => exact absurd ⟨before, after, htext.symm⟩ (splitFirst?_eq_none_iff.1 h)
    | some cut =>
      obtain ⟨front, back⟩ := cut
      have hcut := eq_append_of_splitFirst? h
      have hlen : front.length = before.length :=
        Nat.le_antisymm (length_le_of_splitFirst? h htext) (hfirst front back hcut)
      have heq : front ++ (needle ++ back) = before ++ (needle ++ after) := by
        rw [← List.append_assoc, ← List.append_assoc, ← hcut, ← htext]
      obtain ⟨rfl, htail⟩ := List.append_inj heq hlen
      rw [List.append_cancel_left htail]

theorem splitLast?_eq_none_iff : splitLast? needle text = none ↔ ¬ needle <:+: text := by
  induction text with
  | nil => cases needle <;> simp [splitLast?]
  | cons c text ih =>
    rw [splitLast?, List.infix_cons_iff, not_or]
    split
    · next before after h =>
      have hoccurs : needle <:+: text := ⟨before, after, (eq_append_of_splitLast? h).symm⟩
      simp [hoccurs]
    · next h => simp [isPrefixOf?_eq_none_iff, ih.1 h]

/-- No occurrence begins behind the last one. -/
theorem length_le_of_splitLast? (h : splitLast? needle text = some (before, after))
    {front back : Text} (ht : text = front ++ needle ++ back) : front.length ≤ before.length := by
  induction text generalizing before front with
  | nil =>
    have hlen := congrArg List.length ht
    simp only [List.length_nil, List.length_append] at hlen
    omega
  | cons c text ih =>
    cases front with
    | nil => exact Nat.zero_le _
    | cons d front =>
      obtain ⟨-, htext⟩ := by simpa using ht
      rw [splitLast?] at h
      split at h
      · next inner rest hs =>
        obtain ⟨rfl, rfl⟩ := by simpa using h
        exact Nat.succ_le_succ (ih hs (by simpa using htext))
      · next hnone =>
        have hoccurs : needle <:+: text := ⟨front, back, by simp [htext]⟩
        exact absurd hoccurs (splitLast?_eq_none_iff.1 hnone)

/-- Each of the texts set one behind the other occurs in the result. -/
theorem infix_intercalate {separator line : String} {lines : List String} (h : line ∈ lines) :
    line.toList <:+: (String.intercalate separator lines).toList := by
  rw [String.toList_intercalate]
  induction lines with
  | nil => cases h
  | cons head tail ih =>
    cases tail with
    | nil =>
      rw [List.mem_singleton.1 h, List.map_singleton, List.intercalate_singleton]
    | cons next tail =>
      rw [List.map_cons, List.map_cons, List.intercalate_cons_cons, ← List.map_cons]
      obtain rfl | h := List.mem_cons.1 h
      · exact ((List.prefix_append _ _).trans (List.prefix_append _ _)).isInfix
      · exact (ih h).trans (List.suffix_append _ _).isInfix

/-! ### Trimming -/

theorem trimStart_isSuffix (text : Text) : text.trimStart <:+ text :=
  List.dropWhile_suffix _

theorem trimEnd_isPrefix (text : Text) : text.trimEnd <+: text := by
  rw [← List.reverse_suffix, trimEnd, List.reverse_reverse]
  exact List.dropWhile_suffix _

theorem trim_isInfix (text : Text) : text.trim <:+: text :=
  (trimEnd_isPrefix _).isInfix.trans (trimStart_isSuffix _).isInfix

/-- A text that begins with no blank occurs as well behind the leading blanks. -/
theorem infix_trimStart {c : Char} (hc : isBlank c = false) (h : c :: needle <:+: text) :
    c :: needle <:+: text.trimStart := by
  induction text with
  | nil => simp at h
  | cons d text ih =>
    by_cases hd : isBlank d
    · rw [trimStart, List.dropWhile_cons_of_pos hd]
      refine ih ((List.infix_cons_iff.1 h).resolve_left fun hhead => ?_)
      rw [List.cons_prefix_cons] at hhead
      rw [hhead.1, hd] at hc
      exact absurd hc (by decide)
    · rwa [trimStart, List.dropWhile_cons_of_neg hd]

/-- A text with no blank at either end survives trimming. -/
theorem infix_trim {c d : Char} {inner : Text} (hc : isBlank c = false) (hd : isBlank d = false)
    (h : c :: (inner ++ [d]) <:+: text) : c :: (inner ++ [d]) <:+: text.trim := by
  have hstart : c :: (inner ++ [d]) <:+: text.trimStart := infix_trimStart hc h
  have hreverse : (c :: (inner ++ [d])).reverse = d :: (inner.reverse ++ [c]) := by simp
  rw [← List.reverse_infix, hreverse] at hstart
  rw [trim, trimEnd, ← List.reverse_infix, List.reverse_reverse, hreverse]
  exact infix_trimStart hd hstart

end Text

end SiteWeave
