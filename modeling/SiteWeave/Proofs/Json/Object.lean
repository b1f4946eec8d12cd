import Mathlib.Data.List.Nodup
import Mathlib.Data.String.Basic
import SiteWeave.Json.Basic

/-!
# Members of an object

An object made from members has for each key the value of the last member with that key. The
members of several lists, one behind the other, are looked up from the last list to the first; where
every key stands once, the order does not matter.

## Main results

* `Json.find?_insertMember`: setting a member changes its key and no other.
* `Json.get?_ofMembers_append`: the members of a later list come before those of an earlier one.
* `Json.get?_ofMembers_of_nodup`: members with different keys are looked up one by one.
* `Json.get?_ofMembers_eq_none_iff`: an object has the keys of its members and no others.
* `Json.pairwise_foldl_insertMember`: the keys of an object made from members increase.
-/

namespace SiteWeave.Json

variable (key other : String) (value : Json) (members front back : List (String × Json))

theorem find?_insertMember :
    find? other (insertMember key value members) =
      if other = key then some value else find? other members := by
  induction members with
  | nil => simp [insertMember, find?]
  | cons member rest ih =>
    obtain ⟨k, v⟩ := member
    simp only [insertMember]
    split
    · next hkey => subst hkey; simp only [find?]; split <;> rfl
    · next hkey =>
      split
      · simp only [find?]
      · simp only [find?, ih]
        split
        · next hother => rw [if_neg (by rintro rfl; exact hkey hother)]
        · rfl

theorem find?_append :
    find? key (front ++ back) = (find? key front).or (find? key back) := by
  induction front with
  | nil => rfl
  | cons member front ih =>
    rw [List.cons_append, find?, find?, ih]
    split <;> rfl

theorem find?_eq_none_iff : find? key members = none ↔ key ∉ members.map Prod.fst := by
  induction members with
  | nil => simp [find?]
  | cons member members ih =>
    rw [find?, List.map_cons, List.mem_cons, not_or, ← ih]
    split <;> simp [*]

theorem find?_of_mem (h : (members.map Prod.fst).Nodup) {member : String × Json}
    (hmem : member ∈ members) : find? member.1 members = some member.2 := by
  induction members with
  | nil => exact absurd hmem List.not_mem_nil
  | cons first members ih =>
    obtain ⟨hnot, hrest⟩ := List.nodup_cons.1 h
    rcases List.mem_cons.1 hmem with rfl | hmem
    · simp only [find?, if_pos]
    · have hkey : member.1 ≠ first.1 := fun heq =>
        hnot (heq ▸ List.mem_map_of_mem hmem)
      simp only [find?, if_neg hkey, ih hrest hmem]

theorem find?_filter (keeps : String → Bool) :
    find? key (members.filter fun member => keeps member.1) =
      if keeps key then find? key members else none := by
  induction members with
  | nil => simp [find?]
  | cons member members ih =>
    by_cases hkey : key = member.1
    · by_cases hkeeps : keeps key <;> simp_all [find?]
    · by_cases hkeeps : keeps member.1 <;> simp [find?, hkey, hkeeps, ih]

theorem mem_of_find?_eq_some (h : find? key members = some value) : (key, value) ∈ members := by
  induction members with
  | nil => simp [find?] at h
  | cons member members ih =>
    rw [find?] at h
    split at h
    · next hkey =>
      obtain rfl := Option.some.inj h
      exact hkey ▸ List.mem_cons_self
    · exact List.mem_cons_of_mem _ (ih h)

theorem find?_reverse (h : (members.map Prod.fst).Nodup) :
    find? key members.reverse = find? key members := by
  induction members with
  | nil => rfl
  | cons member members ih =>
    obtain ⟨hnot, hrest⟩ := List.nodup_cons.1 h
    rw [List.reverse_cons, find?_append, ih hrest]
    by_cases hkey : key = member.1
    · rw [(find?_eq_none_iff key members).2 (hkey ▸ hnot), Option.none_or]
      simp only [find?, if_pos hkey]
    · simp only [find?, if_neg hkey, Option.or_none]

/-! ### Objects -/

theorem find?_foldl_insertMember (sorted : List (String × Json)) :
    find? key (members.foldl (fun sorted (k, v) => insertMember k v sorted) sorted) =
      (find? key members.reverse).or (find? key sorted) := by
  induction members generalizing sorted with
  | nil => rfl
  | cons member members ih =>
    rw [List.foldl_cons, ih, find?_insertMember, List.reverse_cons, find?_append, Option.or_assoc,
      find?, find?]
    split <;> rfl

theorem get?_ofMembers : (ofMembers members).get? key = find? key members.reverse := by
  rw [ofMembers, get?, find?_foldl_insertMember, find?, Option.or_none]

theorem get?_ofMembers_append :
    (ofMembers (front ++ back)).get? key =
      ((ofMembers back).get? key).or ((ofMembers front).get? key) := by
  rw [get?_ofMembers, get?_ofMembers, get?_ofMembers, List.reverse_append, find?_append]

theorem get?_ofMembers_of_nodup (h : (members.map Prod.fst).Nodup) :
    (ofMembers members).get? key = find? key members := by
  rw [get?_ofMembers, find?_reverse key members h]

theorem get?_ofMembers_eq_none_iff :
    (ofMembers members).get? key = none ↔ key ∉ members.map Prod.fst := by
  rw [get?_ofMembers, find?_eq_none_iff, List.map_reverse, List.mem_reverse]

/-! ### The order of keys -/

theorem mem_keys_insertMember : other ∈ (insertMember key value members).map Prod.fst ↔
    other = key ∨ other ∈ members.map Prod.fst := by
  rw [← not_iff_not, ← find?_eq_none_iff, find?_insertMember, not_or, ← find?_eq_none_iff]
  split <;> simp [*]

/-- Setting a member keeps the keys in increasing order. -/
theorem pairwise_insertMember (h : (members.map Prod.fst).Pairwise (· < ·)) :
    ((insertMember key value members).map Prod.fst).Pairwise (· < ·) := by
  induction members with
  | nil => simp [insertMember]
  | cons member rest ih =>
    obtain ⟨k, v⟩ := member
    obtain ⟨hfirst, hrest⟩ := List.pairwise_cons.1 h
    rw [insertMember]
    split
    · next hkey => exact hkey ▸ h
    split
    · next hlt =>
      refine List.pairwise_cons.2 ⟨List.forall_mem_cons.2 ⟨hlt, fun other hother => ?_⟩, h⟩
      exact lt_trans hlt (hfirst other hother)
    · next hne hnot =>
      refine List.pairwise_cons.2 ⟨fun other hother => ?_, ih hrest⟩
      obtain rfl | hother := (mem_keys_insertMember _ _ _ _).1 hother
      · exact lt_of_le_of_ne (not_lt.1 hnot) (Ne.symm hne)
      · exact hfirst other hother

/-- **The keys of an object made from members increase.** -/
theorem pairwise_foldl_insertMember (sorted : List (String × Json))
    (h : (sorted.map Prod.fst).Pairwise (· < ·)) :
    ((members.foldl (fun sorted (k, v) => insertMember k v sorted) sorted).map
      Prod.fst).Pairwise (· < ·) := by
  induction members generalizing sorted with
  | nil => exact h
  | cons member members ih => exact ih _ (pairwise_insertMember _ _ _ h)

end SiteWeave.Json
