/-!
# The shortest decimal of a double

A finite double is `m · 2 ^ q`. Every real in an interval around it is rounded to it; the ends
belong to the interval exactly when `m` is even. Among the decimals of the interval this file
chooses one with the fewest digits, and of these the one nearest to the double.

The search works in exact integer arithmetic: for each number of digits the double lies between two
neighbours on the grid of decimals with that many digits, and if any decimal of the grid lies in the
interval, so does one of these two.

## Main definitions

* `Decimal`: a number `digits · 10 ^ exponent`.
* `Binary`: a number `m · 2 ^ q` with the lower end of its rounding interval.
* `Decimal.shortest`: the chosen decimal of a positive double.
-/

namespace SiteWeave

/-- The number `digits · 10 ^ exponent`. -/
structure Decimal where
  /-- The digits, read as one natural number. -/
  digits : Nat
  /-- The power of ten of the last digit. -/
  exponent : Int
deriving DecidableEq, Repr

/-- A positive double `mantissa · 2 ^ exponent`. -/
structure Binary where
  /-- The significand. -/
  mantissa : Nat
  /-- The power of two of its last bit. -/
  exponent : Int
deriving DecidableEq, Repr

namespace Binary

/-- The significand and exponent that the bits of a double stand for; the sign is left out. -/
def ofBits (bits : UInt64) : Binary :=
  let fraction := bits.toNat % Nat.pow 2 52
  let biased : Nat := bits.toNat / Nat.pow 2 52 % Nat.pow 2 11
  if biased = 0 then ⟨fraction, -1074⟩ else ⟨fraction + Nat.pow 2 52, Int.ofNat biased - 1075⟩

/-- Four times the distance from the double to the lower end of its interval, in units of its last
bit: the neighbour below a power of two is only half as far away. -/
def gapBelow (b : Binary) : Nat :=
  if b.mantissa = Nat.pow 2 52 ∧ -1074 < b.exponent then 1 else 2

end Binary

/-- A positive fraction. -/
structure Fraction where
  /-- The numerator. -/
  num : Nat
  /-- The denominator. -/
  den : Nat

namespace Fraction

/-- The fraction `n · 2 ^ q`. -/
def scaleTwo (n : Nat) (q : Int) : Fraction :=
  ⟨n * Nat.pow 2 q.toNat, Nat.pow 2 (-q).toNat⟩

/-- The fraction times `10 ^ k`. -/
def scaleTen (f : Fraction) (k : Int) : Fraction :=
  ⟨f.num * Nat.pow 10 k.toNat, f.den * Nat.pow 10 (-k).toNat⟩

/-- Whether the fraction is below the natural number `n`. -/
def below (f : Fraction) (n : Nat) : Bool :=
  f.num < n * f.den

/-- Whether the natural number `n` is below the fraction. -/
def above (f : Fraction) (n : Nat) : Bool :=
  n * f.den < f.num

end Fraction

namespace Decimal

/-- The decimal without the zeros at the end of its digits; `fuel` bounds their number. -/
def stripZeros : Nat → Decimal → Decimal
  | 0, d => d
  | fuel + 1, d =>
    if d.digits ≠ 0 ∧ d.digits % 10 = 0 then stripZeros fuel ⟨d.digits / 10, d.exponent + 1⟩ else d

/-- The number of decimal places in front of the point: the least `k` with `value < 10 ^ k`, which
lies next to the estimate from the binary magnitude. -/
def magnitude (value : Fraction) (b : Binary) : Int :=
  let estimate := ((b.mantissa.log2 : Int) + b.exponent) * 30103 / 100000
  let candidates := [estimate - 1, estimate, estimate + 1, estimate + 2]
  (candidates.find? fun k => (value.scaleTen (-k)).below 1).getD (estimate + 3)

/-- The decimal nearest to the double on the grid with `count` digits, if one of the two neighbours
of the double lies in the interval; a tie goes to the even neighbour. -/
def onGrid? (b : Binary) (count : Nat) : Option Decimal :=
  let unit := b.exponent - 2
  let value := Fraction.scaleTwo (4 * b.mantissa) unit
  let place := magnitude value b - count
  let scaled := value.scaleTen (-place)
  let low := (Fraction.scaleTwo (4 * b.mantissa - b.gapBelow) unit).scaleTen (-place)
  let high := (Fraction.scaleTwo (4 * b.mantissa + 2) unit).scaleTen (-place)
  let down := scaled.num / scaled.den
  let inside (n : Nat) : Bool :=
    if b.mantissa % 2 = 0 then !low.above n && !high.below n else low.below n && high.above n
  let twice : Fraction := ⟨2 * scaled.num, scaled.den⟩
  let preferUp := twice.above (2 * down + 1) || (!twice.below (2 * down + 1) && down % 2 = 1)
  match inside down, inside (down + 1) with
  | true, true => some ⟨if preferUp then down + 1 else down, place⟩
  | true, false => some ⟨down, place⟩
  | false, true => some ⟨down + 1, place⟩
  | false, false => none

/-- The shortest decimal that is rounded to the positive double `b`, and of these the nearest;
seventeen digits always suffice. -/
def shortest (b : Binary) : Decimal :=
  stripZeros 20 <|
    (((List.range 17).findSome? fun count => onGrid? b (count + 1)).getD ⟨0, 0⟩)

end Decimal

end SiteWeave
