import SiteWeave.FileTree.Edit

/-!
# Texts and their bytes

## Main results

* `Bytes.ofString_eq`: the bytes of a text are those of its characters.
* `Bytes.fromUTF8?_eq_some_iff`: the bytes of a text are the only ones that are read as the text.
* `Bytes.head?_toList_of_head?_ofString`: a byte below 128 at the front is a character.
* `RawPath.ofPath_map_ofString`: the bytes of texts with slashes between them.
-/

namespace SiteWeave

namespace Bytes

/-- The bytes of a text are those of its characters. -/
theorem ofString_eq (text : String) : ofString text = text.toList.flatMap String.utf8EncodeChar := by
  obtain ⟨cs, rfl⟩ : ∃ cs, String.ofList cs = text := ⟨text.toList, String.ofList_toList⟩
  rw [ofString, String.toUTF8, String.toByteArray_ofList, List.utf8Encode, List.data_toByteArray,
    String.toList_ofList]

theorem ofString_append (front back : String) :
    ofString (front ++ back) = ofString front ++ ofString back := by
  simp only [ofString_eq, String.toList_append, List.flatMap_append]

/-- The bytes of a text are the only ones that are read as the text. -/
theorem fromUTF8?_eq_some_iff {content : ByteArray} {text : String} :
    String.fromUTF8? content = some text ↔ content = text.toUTF8 := by
  rw [String.fromUTF8?]
  constructor
  · intro h
    split at h
    · obtain rfl := Option.some.inj h
      rfl
    · simp at h
  · rintro rfl
    exact dif_pos text.isValidUTF8

theorem toString?_eq_some_iff {bytes : Bytes} {text : String} :
    toString? bytes = some text ↔ bytes = ofString text := by
  rw [toString?, fromUTF8?_eq_some_iff, ofString, ByteArray.ext_iff]
  exact ⟨fun h => by rw [← h], fun h => by rw [h]⟩

theorem ofString_injective {text other : String} (h : ofString text = ofString other) :
    text = other :=
  Option.some.inj
    ((toString?_eq_some_iff.2 h).symm.trans (toString?_eq_some_iff.2 rfl)).symm

theorem ofString_eq_nil_iff {text : String} : ofString text = [] ↔ text = "" := by
  have hempty : ofString "" = [] := by decide
  rw [← hempty]
  exact ⟨ofString_injective, congrArg _⟩

/-- A byte below 128 at the front of a character is the character. -/
theorem toNat_eq_of_head?_utf8EncodeChar {c : Char} {b : UInt8}
    (h : (String.utf8EncodeChar c).head? = some b) (hb : b.toNat < 128) : c.toNat = b.toNat := by
  have hlarge (high low : Nat) (hhigh : 128 ≤ high) (hsum : low + high < 256)
      (heq : UInt8.ofNat (low + high) = b) : False := by
    have hmod : (UInt8.ofNat (low + high)).toNat = low + high := by
      rw [UInt8.toNat_ofNat', Nat.mod_eq_of_lt hsum]
    rw [heq] at hmod
    omega
  rw [String.utf8EncodeChar] at h
  split at h
  · next hsmall =>
    obtain rfl := Option.some.inj h
    rw [UInt8.toNat_ofNat', Nat.mod_eq_of_lt (by omega)]
    rfl
  split at h
  · exact (hlarge 192 _ (by omega) (by omega) (Option.some.inj h)).elim
  split at h
  · exact (hlarge 224 _ (by omega) (by omega) (Option.some.inj h)).elim
  · exact (hlarge 240 _ (by omega) (by omega) (Option.some.inj h)).elim

/-- A byte below 128 at the front of a text is its first character. -/
theorem head?_toList_of_head?_ofString {text : String} {b : UInt8} {c : Char}
    (h : (ofString text).head? = some b) (hb : b.toNat < 128) (hc : c.toNat = b.toNat) :
    text.toList.head? = some c := by
  rw [ofString_eq] at h
  cases hcs : text.toList with
  | nil => simp [hcs] at h
  | cons first rest =>
    rw [hcs, List.flatMap_cons, List.head?_append] at h
    have hfirst : (String.utf8EncodeChar first).head? = some b := by
      obtain ⟨byte, bytes, hbytes⟩ := List.exists_cons_of_ne_nil
        (List.ne_nil_of_length_pos (l := String.utf8EncodeChar first)
          (by rw [String.length_utf8EncodeChar]; exact first.utf8Size_pos))
      simpa [hbytes] using h
    have heq := toNat_eq_of_head?_utf8EncodeChar hfirst hb
    rw [List.head?_cons, Option.some.injEq]
    exact Char.ext (UInt32.toNat.inj (heq.trans hc.symm))

end Bytes

namespace RawPath

/-- The bytes of texts with slashes between them. -/
theorem ofPath_map_ofString (texts : List String) :
    ofPath (texts.map Bytes.ofString) = Bytes.ofString (String.intercalate "/" texts) := by
  have hslash : Bytes.ofString "/" = [slash] := by decide +kernel
  induction texts with
  | nil => decide +kernel
  | cons text texts ih =>
    cases texts with
    | nil => simp [ofPath, String.intercalate_singleton]
    | cons next texts =>
      rw [String.intercalate_cons_cons, Bytes.ofString_append, Bytes.ofString_append, ← ih, hslash]
      simp [ofPath, List.intercalate]

end RawPath

end SiteWeave
