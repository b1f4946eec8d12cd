import SiteWeave.Text.Search

/-!
# Numbers in digits

## Main definitions

* `digitValue?`: the value of a digit in a radix of at most sixteen.
* `Text.toNat?`: the number that digits write.

## Main results

* `digitValue?_lt`: a digit is less than its radix.
-/

namespace SiteWeave

/-- The value of a digit in a radix of at most sixteen; letters may be of either case. -/
def digitValue? (radix : Nat) (c : Char) : Option Nat :=
  let value? :=
    if '0' ≤ c ∧ c ≤ '9' then some (c.toNat - '0'.toNat)
    else if 'a' ≤ c ∧ c ≤ 'f' then some (c.toNat - 'a'.toNat + 10)
    else if 'A' ≤ c ∧ c ≤ 'F' then some (c.toNat - 'A'.toNat + 10)
    else none
  value?.filter fun value => value < radix

theorem digitValue?_lt {radix value : Nat} {c : Char} (h : digitValue? radix c = some value) :
    value < radix := by
  simpa using (Option.filter_eq_some_iff.1 h).2

/-- The number that digits write, of which there has to be one. -/
def Text.toNat? (radix : Nat) (digits : Text) : Option Nat :=
  if digits.isEmpty then none
  else digits.foldlM (fun value c => (digitValue? radix c).map fun d => value * radix + d) 0

end SiteWeave
