/-!
# Calendar dates

Dates of the Gregorian calendar, continued to both sides with a year zero, within a range of years.

## Main definitions

* `Date`: a date that exists.
* `Date.ofParts?`: the date with given parts, if it exists.
* `Date.rank`: a number that grows with the date.
* `Date.iso`, `Date.long`: the date in digits and in words.

## Main results

* `Date.ofParts?_eq_some_iff`: exactly the parts of a date make a date.
* `Date.rank_injective`: dates of the same rank are equal.
-/

namespace SiteWeave

/-- Whether a year has a day more in February. -/
def isLeapYear (year : Int) : Bool :=
  year % 4 = 0 && (year % 100 ≠ 0 || year % 400 = 0)

/-- The number of days of a month. -/
def daysInMonth (year : Int) (month : Nat) : Nat :=
  if month = 2 then if isLeapYear year then 29 else 28
  else if month = 4 ∨ month = 6 ∨ month = 9 ∨ month = 11 then 30
  else 31

/-- The first and the last year of the calendar. -/
def firstYear : Int := -262143

@[inherit_doc firstYear] def lastYear : Int := 262142

/-- The parts of a date that exists. -/
def IsDate (year : Int) (month day : Nat) : Prop :=
  (firstYear ≤ year ∧ year ≤ lastYear) ∧ (1 ≤ month ∧ month ≤ 12) ∧
    1 ≤ day ∧ day ≤ daysInMonth year month

instance (year : Int) (month day : Nat) : Decidable (IsDate year month day) :=
  inferInstanceAs (Decidable (_ ∧ _))

/-- A date of the calendar. -/
structure Date where
  year : Int
  month : Nat
  day : Nat
  isDate : IsDate year month day
deriving DecidableEq, Repr

namespace Date

/-- The date with given parts, if it exists. -/
def ofParts? (year : Int) (month day : Nat) : Option Date :=
  if h : IsDate year month day then some ⟨year, month, day, h⟩ else none

theorem ofParts?_eq_some_iff {year : Int} {month day : Nat} {date : Date} :
    ofParts? year month day = some date ↔
      date.year = year ∧ date.month = month ∧ date.day = day := by
  obtain ⟨y, m, d, h⟩ := date
  constructor
  · intro hdate
    unfold ofParts? at hdate
    split at hdate
    · simp only [Option.some.injEq, mk.injEq] at hdate
      exact ⟨hdate.1.symm, hdate.2.1.symm, hdate.2.2.symm⟩
    · simp at hdate
  · rintro ⟨rfl, rfl, rfl⟩
    exact dif_pos h

/-- A number that grows with the date: every year has room for twelve months of 31 days. -/
def rank (date : Date) : Int :=
  date.year * 372 + (date.month - 1 : Nat) * 31 + (date.day - 1 : Nat)

theorem daysInMonth_le (year : Int) (month : Nat) : daysInMonth year month ≤ 31 := by
  unfold daysInMonth
  split
  · split <;> decide
  · split <;> decide

theorem rank_injective {a b : Date} (h : a.rank = b.rank) : a = b := by
  obtain ⟨y, m, d, _, hm, hd⟩ := a
  obtain ⟨y', m', d', _, hm', hd'⟩ := b
  have := daysInMonth_le y m
  have := daysInMonth_le y' m'
  simp only [rank] at h
  obtain ⟨rfl, rfl, rfl⟩ : y = y' ∧ m = m' ∧ d = d' := by omega
  rfl

/-- The English name of a month. -/
def monthName : Nat → String
  | 1 => "January"
  | 2 => "February"
  | 3 => "March"
  | 4 => "April"
  | 5 => "May"
  | 6 => "June"
  | 7 => "July"
  | 8 => "August"
  | 9 => "September"
  | 10 => "October"
  | 11 => "November"
  | _ => "December"

/-- A number with at least `width` digits. -/
def padded (width n : Nat) : String :=
  let digits := Nat.toDigits 10 n
  String.ofList (List.replicate (width - digits.length) '0' ++ digits)

/-- A year with four digits; a year that has more, or is negative, has a sign. -/
def yearText (year : Int) : String :=
  if year < 0 then "-" ++ padded 4 year.natAbs
  else if 9999 < year then "+" ++ padded 4 year.natAbs
  else padded 4 year.natAbs

/-- The date in digits, as in `2024-06-01`. -/
def iso (date : Date) : String :=
  yearText date.year ++ "-" ++ padded 2 date.month ++ "-" ++ padded 2 date.day

/-- The date in words, as in `June 1, 2024`. -/
def long (date : Date) : String :=
  monthName date.month ++ " " ++ toString date.day ++ ", " ++ yearText date.year

end Date

end SiteWeave
