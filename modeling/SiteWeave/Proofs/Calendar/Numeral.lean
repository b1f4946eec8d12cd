import Mathlib.Data.Nat.Digits.Defs
import SiteWeave.Calendar.Reading

/-!
# Numbers of fixed width

A number is written with a fixed number of digits by setting zeros in front of it. In each width
every number that fits is written in one way only, so reading that many digits and writing the
number with them undo one another.

## Main results

* `Date.digitsValue_padded`, `Date.padded_digitsValue`: numbers of fixed width and their values.
* `Date.fixedNumber?_eq_some_iff`: what a number of fixed width is read from.
* `Date.number?_padded`: it is also read where fewer digits would do.
-/

namespace SiteWeave.Date

variable {width n : Nat} {digits other text rest : Text}

/-! ### The value of digits -/

/-- The values of the digits, the last one first. -/
def digitValues (digits : List Char) : List Nat :=
  (digits.map fun c => c.toNat - '0'.toNat).reverse

theorem digitsValue_eq_ofDigits (digits : List Char) :
    digitsValue digits = Nat.ofDigits 10 (digitValues digits) := by
  rw [digitsValue, digitValues, Nat.ofDigits_eq_foldr, List.foldr_reverse, List.foldl_map]
  simp only [Nat.cast_id, Nat.add_comm, Nat.mul_comm]

theorem lt_of_mem_digitValues (h : ∀ c ∈ digits, c.isDigit) :
    ∀ value ∈ digitValues digits, value < 10 := by
  intro value hvalue
  obtain ⟨c, hc, rfl⟩ := List.mem_map.1 (List.mem_reverse.1 hvalue)
  have hnine : '9'.toNat = 9 + '0'.toNat := rfl
  have := Char.isDigit_iff_toNat.1 (h c hc)
  omega

/-- Digits are known from their values. -/
theorem eq_of_digitValues_eq (h : ∀ c ∈ digits, c.isDigit) (hother : ∀ c ∈ other, c.isDigit)
    (heq : digitValues digits = digitValues other) : digits = other := by
  have hchar {digits : List Char} (h : ∀ c ∈ digits, c.isDigit) :
      (digitValues digits).reverse.map Nat.digitChar = digits := by
    rw [digitValues, List.reverse_reverse, List.map_map]
    refine (List.map_congr_left fun c hc => ?_).trans (List.map_id digits)
    have hnine : '9'.toNat = 9 + '0'.toNat := rfl
    have hzero : '0'.toNat = 48 := rfl
    have hdigit := Char.isDigit_iff_toNat.1 (h c hc)
    rw [id, Function.comp_apply, ← Char.toNat_inj, Nat.toNat_digitChar_of_lt_ten (by omega)]
    omega
  rw [← hchar h, heq, hchar hother]

theorem digitsValue_lt (h : ∀ c ∈ digits, c.isDigit) :
    digitsValue digits < 10 ^ digits.length := by
  rw [digitsValue_eq_ofDigits]
  simpa [digitValues] using
    Nat.ofDigits_lt_base_pow_length (by decide : 1 < 10) (lt_of_mem_digitValues h)

/-- As many digits with the same value are the same digits. -/
theorem eq_of_digitsValue_eq (h : ∀ c ∈ digits, c.isDigit) (hother : ∀ c ∈ other, c.isDigit)
    (hlength : digits.length = other.length) (hvalue : digitsValue digits = digitsValue other) :
    digits = other := by
  rw [digitsValue_eq_ofDigits, digitsValue_eq_ofDigits] at hvalue
  exact eq_of_digitValues_eq h hother <| Nat.ofDigits_inj_of_len_eq (by decide)
    (by simpa [digitValues] using hlength) (lt_of_mem_digitValues h) (lt_of_mem_digitValues hother)
    hvalue

/-! ### Numbers with zeros in front -/

theorem toList_padded (width n : Nat) : (padded width n).toList =
    List.replicate (width - (Nat.toDigits 10 n).length) '0' ++ Nat.toDigits 10 n :=
  String.toList_ofList

theorem isDigit_of_mem_padded : ∀ c ∈ (padded width n).toList, c.isDigit := by
  intro c hc
  rw [toList_padded] at hc
  rcases List.mem_append.1 hc with hc | hc
  · rw [List.eq_of_mem_replicate hc]
    rfl
  · exact Nat.isDigit_of_mem_toDigits (by decide) (by decide) hc

theorem length_padded (hwidth : 0 < width) (h : n < 10 ^ width) :
    (padded width n).toList.length = width := by
  have := (Nat.length_toDigits_le_iff (by decide) hwidth).2 h
  rw [toList_padded, List.length_append, List.length_replicate]
  omega

theorem digitsValue_padded (width n : Nat) : digitsValue (padded width n).toList = n := by
  rw [digitsValue, toList_padded]
  simp only [Nat.mul_comm _ 10]
  rw [← Nat.ofDigitChars_eq_foldl, Nat.ofDigitChars_append, Nat.ofDigitChars_replicate_zero,
    Nat.mul_zero, Nat.ofDigitChars_ten_toDigits]

/-- **Digits are the number that they write,** in their width. -/
theorem padded_digitsValue (hne : digits ≠ []) (h : ∀ c ∈ digits, c.isDigit) :
    (padded digits.length (digitsValue digits)).toList = digits :=
  eq_of_digitsValue_eq isDigit_of_mem_padded h
    (length_padded (List.length_pos_iff.2 hne) (digitsValue_lt h)) (digitsValue_padded _ _)

/-! ### Reading them -/

/-- **What a number of fixed width is read from:** it fits, and stands in front of the rest. -/
theorem fixedNumber?_eq_some_iff (hwidth : 0 < width) : fixedNumber? width text = some (n, rest) ↔
    n < 10 ^ width ∧ text = (padded width n).toList ++ rest := by
  rw [fixedNumber?]
  constructor
  · intro h
    split at h
    · next hdigits =>
      rw [List.all_eq_true] at hdigits
      simp only [Option.some.injEq, Prod.mk.injEq] at h
      obtain ⟨rfl, rfl⟩ := h
      have hne : text.take width ≠ [] := List.ne_nil_of_length_pos (hwidth.trans_eq hdigits.1.symm)
      have hlt := digitsValue_lt hdigits.2
      have heq := padded_digitsValue hne hdigits.2
      rw [hdigits.1] at hlt heq
      exact ⟨hlt, by rw [heq, List.take_append_drop]⟩
    · simp at h
  · rintro ⟨hlt, rfl⟩
    have hlength := length_padded hwidth hlt
    rw [List.take_left' hlength, List.drop_left' hlength,
      if_pos ⟨hlength, List.all_eq_true.2 isDigit_of_mem_padded⟩, digitsValue_padded]

/-- A number of fixed width is read where at most so many digits are. -/
theorem number?_padded (hwidth : 0 < width) (h : n < 10 ^ width) (rest : Text) :
    number? (some width) ((padded width n).toList ++ rest) = some (n, rest) := by
  have hlength := length_padded hwidth h
  have htake : (((padded width n).toList ++ rest).takeWhile Char.isDigit).take width =
      (padded width n).toList := by
    rw [List.takeWhile_append_of_pos isDigit_of_mem_padded, List.take_left' hlength]
  have hne : (padded width n).toList.isEmpty = false :=
    List.isEmpty_eq_false_iff.2 (List.ne_nil_of_length_pos (hwidth.trans_eq hlength.symm))
  simp only [number?, htake, hne, Bool.false_eq_true, if_false, digitsValue_padded,
    List.drop_left' rfl]

end SiteWeave.Date
