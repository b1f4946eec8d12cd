/-!
# Classes of characters as ranges of code points

A property of the Unicode standard is a list of ranges of code points, each with its first and its
last member.

## Main definitions

* `CodeRange`: the code points from `first` to `last`.
* `inRanges`: whether a character lies in one of several ranges.
-/

namespace SiteWeave

/-- The code points from the first to the last one named, both included. -/
abbrev CodeRange := Nat × Nat

/-- Whether the character `c` lies in one of the ranges. -/
def inRanges (ranges : List CodeRange) (c : Char) : Bool :=
  ranges.any fun (first, last) => first ≤ c.toNat && c.toNat ≤ last

end SiteWeave
