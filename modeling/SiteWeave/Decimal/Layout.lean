import SiteWeave.Decimal.Shortest

/-!
# Writing doubles

A double is written with the digits of its shortest decimal, either positionally or with an
exponent. Which of the two is a matter of layout.

## Main definitions

* `FloatLayout`: the decimal exponents that are written positionally.
* `FloatLayout.write`: the text of a double in a layout.
-/

namespace SiteWeave

/-- The bounds of positional notation; a missing bound means that there is none. -/
structure FloatLayout where
  /-- The least decimal exponent that is written positionally. -/
  least : Option Int
  /-- The first decimal exponent that is too large to be written positionally. -/
  limit : Option Int

namespace FloatLayout

/-- Whether a number with decimal exponent `e` is written positionally. -/
def isPositional (layout : FloatLayout) (e : Int) : Bool :=
  layout.least.all (fun least => least ≤ e) && layout.limit.all (fun limit => e < limit)

/-- The digits with a point, and with a zero where one side of the point is empty. -/
def writePositional (digits : List Char) (exponent : Int) : List Char :=
  let whole : Int := digits.length + exponent
  if 0 ≤ exponent then digits ++ List.replicate exponent.toNat '0' ++ ['.', '0']
  else if 0 < whole then digits.take whole.toNat ++ '.' :: digits.drop whole.toNat
  else '0' :: '.' :: List.replicate (-whole).toNat '0' ++ digits

/-- The first digit, the others behind a point, and the signed exponent. -/
def writeScientific (digits : List Char) (e : Int) : List Char :=
  let fraction := if digits.length ≤ 1 then [] else '.' :: digits.drop 1
  let sign := if e < 0 then '-' else '+'
  digits.take 1 ++ fraction ++ ['e', sign] ++ Nat.toDigits 10 e.natAbs

/-- The text of a double: its sign, then its shortest digits in the layout, or a word for what is no
number or infinite. -/
def write (layout : FloatLayout) (x : Float) : String :=
  let bits := x.toBits
  let sign := if Nat.pow 2 63 ≤ bits.toNat then ['-'] else []
  let b := Binary.ofBits bits
  if x.isNaN then "NaN"
  else if x.isInf then String.ofList (sign ++ "inf".toList)
  else if b.mantissa = 0 then String.ofList (sign ++ ['0', '.', '0'])
  else
    let d := Decimal.shortest b
    let digits := Nat.toDigits 10 d.digits
    let e := d.exponent + digits.length - 1
    String.ofList <| sign ++
      if layout.isPositional e then writePositional digits d.exponent
      else writeScientific digits e

end FloatLayout

end SiteWeave
