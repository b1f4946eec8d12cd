/-!
# Occurrences in a text

Pages and templates are handled as sequences of characters. This file finds the first and the last
occurrence of one text in another and cuts the text there.

## Main definitions

* `Text`: a sequence of characters.
* `Text.splitFirst?`, `Text.splitLast?`: the text in front of an occurrence and the text behind it.
* `Text.contains`: whether a text occurs in another.
* `Text.stripSuffix?`: the text in front of a given ending.
* `Text.splitOn`: the pieces between the occurrences of one character.
* `Text.joinWith`: pieces set one behind the other with a separator between them.

## Main results

* `Text.eq_append_of_splitFirst?`, `Text.eq_append_of_splitLast?`: cutting loses nothing.
* `Text.length_lt_of_splitFirst?`: what follows a nonempty occurrence is shorter than the text.
-/

namespace SiteWeave

/-- A text as the sequence of its characters. -/
abbrev Text := List Char

namespace Text

/-- The text in front of the first occurrence of `needle`, and the text behind that occurrence. -/
def splitFirst? (needle : Text) : Text → Option (Text × Text)
  | [] => if needle.isEmpty then some ([], []) else none
  | c :: rest =>
    match needle.isPrefixOf? (c :: rest) with
    | some after => some ([], after)
    | none => (splitFirst? needle rest).map fun (before, after) => (c :: before, after)

/-- The text in front of the last occurrence of `needle`, and the text behind that occurrence. -/
def splitLast? (needle : Text) : Text → Option (Text × Text)
  | [] => if needle.isEmpty then some ([], []) else none
  | c :: rest =>
    match splitLast? needle rest with
    | some (before, after) => some (c :: before, after)
    | none => (needle.isPrefixOf? (c :: rest)).map fun after => ([], after)

/-- Whether `needle` occurs in `text`. -/
def contains (needle text : Text) : Bool :=
  (splitFirst? needle text).isSome

/-- The text in front of the ending `ending`, if `text` ends so. -/
def stripSuffix? (ending text : Text) : Option Text :=
  (ending.reverse.isPrefixOf? text.reverse).map List.reverse

/-- The pieces of a text between the occurrences of `separator`; there is always at least one. -/
def splitOn (separator : Char) : Text → List Text
  | [] => [[]]
  | c :: rest =>
    match splitOn separator rest with
    | [] => [[c]]
    | piece :: pieces =>
      if c = separator then [] :: piece :: pieces else (c :: piece) :: pieces

/-- The pieces one behind the other with `separator` between two of them. -/
def joinWith (separator : Text) : List Text → Text
  | [] => []
  | [piece] => piece
  | piece :: next :: pieces => piece ++ separator ++ joinWith separator (next :: pieces)

/-! ### Cutting loses nothing -/

theorem eq_append_of_isPrefixOf? {needle text after : Text}
    (h : needle.isPrefixOf? text = some after) : text = needle ++ after := by
  induction needle generalizing text with
  | nil => exact Option.some.inj h
  | cons c needle ih =>
    cases text with
    | nil => cases h
    | cons d text =>
      change (if c == d then needle.isPrefixOf? text else none) = some after at h
      split at h
      · next hcd => rw [ih h, beq_iff_eq.1 hcd, List.cons_append]
      · cases h

theorem eq_append_of_splitFirst? {needle text before after : Text}
    (h : splitFirst? needle text = some (before, after)) : text = before ++ needle ++ after := by
  induction text generalizing before with
  | nil =>
    simp only [splitFirst?] at h
    split at h <;> simp_all
  | cons c rest ih =>
    simp only [splitFirst?] at h
    split at h
    · next tail hp =>
      obtain ⟨rfl, rfl⟩ := by simpa using h
      simpa using eq_append_of_isPrefixOf? hp
    · obtain ⟨⟨front, tail⟩, hs, he⟩ := Option.map_eq_some_iff.1 h
      obtain ⟨rfl, rfl⟩ := by simpa using he
      simp [ih hs]

theorem eq_append_of_splitLast? {needle text before after : Text}
    (h : splitLast? needle text = some (before, after)) : text = before ++ needle ++ after := by
  induction text generalizing before with
  | nil =>
    simp only [splitLast?] at h
    split at h <;> simp_all
  | cons c rest ih =>
    simp only [splitLast?] at h
    split at h
    · next front tail hs =>
      obtain ⟨rfl, rfl⟩ := by simpa using h
      simp [ih hs]
    · obtain ⟨tail, hp, he⟩ := Option.map_eq_some_iff.1 h
      obtain ⟨rfl, rfl⟩ := by simpa using he
      simpa using eq_append_of_isPrefixOf? hp

theorem length_lt_of_splitFirst? {needle text before after : Text} (hne : needle ≠ [])
    (h : splitFirst? needle text = some (before, after)) : after.length < text.length := by
  have hlen := congrArg List.length (eq_append_of_splitFirst? h)
  have hpos := List.length_pos_iff.2 hne
  simp only [List.length_append] at hlen
  omega

end Text

end SiteWeave
