import Mathlib.Tactic.SplitIfs
import SiteWeave.Proofs.Text.Utf8

/-!
# The order of texts and of their bytes

Texts are compared by their characters and file names by their bytes. UTF-8 is made so that both
orders agree: the bytes of a character decide in the order of the characters, and before anything
that stands behind them is looked at.

## Main results

* `Bytes.utf8EncodeChar_append_lt`: the bytes of the lesser character come first.
* `Bytes.ofString_lt_iff`: texts come in the order of their bytes.
-/

namespace SiteWeave

namespace Bytes

variable {c d : Char} {front back : Bytes} {text other : String}

theorem ofNat_lt_ofNat_iff {a b : Nat} (ha : a < 256) (hb : b < 256) :
    UInt8.ofNat a < UInt8.ofNat b ↔ a < b := by
  rw [UInt8.lt_iff_toNat_lt, UInt8.toNat_ofNat', UInt8.toNat_ofNat', Nat.mod_eq_of_lt ha,
    Nat.mod_eq_of_lt hb]

theorem ofNat_eq_ofNat_iff {a b : Nat} (ha : a < 256) (hb : b < 256) :
    UInt8.ofNat a = UInt8.ofNat b ↔ a = b := by
  rw [← UInt8.toNat_inj, UInt8.toNat_ofNat', UInt8.toNat_ofNat', Nat.mod_eq_of_lt ha,
    Nat.mod_eq_of_lt hb]

/-- The bytes of the lesser character decide, whatever follows. -/
theorem utf8EncodeChar_append_lt (h : c < d) :
    String.utf8EncodeChar c ++ front < String.utf8EncodeChar d ++ back := by
  have hlt : c.val.toNat < d.val.toNat := h
  have hd : d.val.toNat < 0x110000 := by
    have hvalid := d.valid
    simp only [UInt32.isValidChar, Nat.isValidChar] at hvalid
    omega
  have hsecond (n : Nat) : n / 4096 = n / 64 / 64 := (Nat.div_div_eq_div_mul n 64 64).symm
  have hthird (n : Nat) : n / 262144 = n / 64 / 64 / 64 := by
    rw [Nat.div_div_eq_div_mul, Nat.div_div_eq_div_mul]
  rw [String.utf8EncodeChar, String.utf8EncodeChar]
  generalize c.val.toNat = v at hlt ⊢
  generalize d.val.toNat = w at hlt hd ⊢
  -- Each byte after the first holds six bits, so characters of one length are compared as numbers
  -- are, and a longer character has a greater first byte.
  split_ifs <;> simp (disch := omega) only [List.cons_append, List.nil_append,
    List.cons_lt_cons_iff, ofNat_lt_ofNat_iff, ofNat_eq_ofNat_iff, hsecond, hthird] <;> omega

theorem flatMap_utf8EncodeChar_lt {cs ds : Text} (h : cs < ds) :
    cs.flatMap String.utf8EncodeChar < ds.flatMap String.utf8EncodeChar := by
  induction cs generalizing ds with
  | nil =>
    cases ds with
    | nil => exact absurd h (List.not_lt_nil _)
    | cons d ds =>
      have hne : String.utf8EncodeChar d ≠ [] := by
        rw [← List.length_pos_iff, String.length_utf8EncodeChar]
        exact d.utf8Size_pos
      obtain ⟨byte, bytes, hbytes⟩ := List.exists_cons_of_ne_nil hne
      rw [List.flatMap_cons, hbytes]
      exact List.nil_lt_cons _ _
  | cons c cs ih =>
    cases ds with
    | nil => exact absurd h (List.not_lt_nil _)
    | cons d ds =>
      rw [List.flatMap_cons, List.flatMap_cons]
      obtain hlt | ⟨rfl, hlt⟩ := List.cons_lt_cons_iff.1 h
      · exact utf8EncodeChar_append_lt hlt
      · exact List.append_left_lt (ih hlt)

/-- **Texts come in the order of their bytes.** -/
theorem ofString_lt_iff : ofString text < ofString other ↔ text < other := by
  have hlt {text other : String} (h : text < other) : ofString text < ofString other := by
    rw [ofString_eq, ofString_eq]
    exact flatMap_utf8EncodeChar_lt h
  refine ⟨fun h => Decidable.byContradiction fun hnot => ?_, hlt⟩
  by_cases hgt : other < text
  · exact List.lt_asymm h (hlt hgt)
  · obtain rfl := String.le_antisymm (String.not_lt.1 hgt) (String.not_lt.1 hnot)
    exact List.lt_irrefl _ h

end Bytes

end SiteWeave
