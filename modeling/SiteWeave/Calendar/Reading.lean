import SiteWeave.Text.Blank
import SiteWeave.Calendar.Date

/-!
# Reading dates

A date is written either as year, month and day, or as a timestamp whose offset from universal time
comes last. The day of a timestamp is its local day, as written.

## Main definitions

* `Date.number?`: a number of bounded length at the front of a text.
* `Date.ofCalendarText?`: the date of a text such as `2024-06-01`.
* `Date.ofTimestamp?`: the date of a text such as `2024-06-01T08:00:00Z`.
* `Date.ofText?`: the date of a text of either form.
-/

namespace SiteWeave.Date

/-- The number that some digits stand for. -/
def digitsValue (digits : List Char) : Nat :=
  digits.foldl (fun value c => value * 10 + (c.toNat - '0'.toNat)) 0

/-- The number at the front of a text that has at least one digit, and at most `most` if given. -/
def number? (most : Option Nat) (text : Text) : Option (Nat × Text) :=
  let run := text.takeWhile Char.isDigit
  let digits := match most with
    | some most => run.take most
    | none => run
  if digits.isEmpty then none else some (digitsValue digits, text.drop digits.length)

/-- The number at the front of a text that has `count` digits. -/
def fixedNumber? (count : Nat) (text : Text) : Option (Nat × Text) :=
  let digits := text.take count
  if digits.length = count ∧ digits.all Char.isDigit then
    some (digitsValue digits, text.drop count)
  else none

/-- The rest of a text behind one character. -/
def after? (c : Char) : Text → Option Text
  | d :: rest => if c = d then some rest else none
  | [] => none

/-! ### Year, month and day -/

/-- A year at the front of a text: up to four digits, or a sign and any number of them. -/
def year? : Text → Option (Int × Text)
  | '-' :: rest => (number? none rest).map fun (n, rest) => (-(n : Int), rest)
  | '+' :: rest => (number? none rest).map fun (n, rest) => ((n : Int), rest)
  | text => (number? (some 4) text).map fun (n, rest) => ((n : Int), rest)

/-- The date of a text that holds year, month and day with hyphens between them. Blanks may stand in
front of each number, and leading zeros may be missing. -/
def ofCalendarText? (text : Text) : Option Date := do
  let (year, rest) ← year? text.trimStart
  let rest ← after? '-' rest
  let (month, rest) ← number? (some 2) (Text.trimStart rest)
  let rest ← after? '-' rest
  let (day, rest) ← number? (some 2) (Text.trimStart rest)
  if rest.isEmpty then ofParts? year month day else none

/-! ### Timestamps -/

/-- The rest of a text behind the mark between date and time. -/
def afterTimeMark? : Text → Option Text
  | c :: rest => if c = 'T' ∨ c = 't' ∨ c = ' ' then some rest else none
  | [] => none

/-- The rest of a text behind a time of day, which may be a leap second and may have a fraction. -/
def afterTime? (text : Text) : Option Text := do
  let (hour, rest) ← fixedNumber? 2 text
  let (minute, rest) ← fixedNumber? 2 (← after? ':' rest)
  let (second, rest) ← fixedNumber? 2 (← after? ':' rest)
  if hour ≤ 23 ∧ minute ≤ 59 ∧ second ≤ 60 then
    match rest with
    | '.' :: fraction =>
      let left := fraction.dropWhile Char.isDigit
      if left.length < fraction.length then some left else none
    | rest => some rest
  else none

/-- Whether a character is a sign of an offset: plus, hyphen or the minus sign. -/
def isOffsetSign (c : Char) : Bool :=
  c = '+' || c = '-' || c = '\u2212'

/-- Whether a text is an offset from universal time of less than a day. -/
def isOffset : Text → Bool
  | [] => false
  | c :: rest =>
    if c = 'Z' ∨ c = 'z' then rest.isEmpty
    else if isOffsetSign c then
      (do
        let (hours, rest) ← fixedNumber? 2 rest
        let (minutes, rest) ← fixedNumber? 2 (← after? ':' rest)
        return rest.isEmpty && hours ≤ 23 && minutes ≤ 59 : Option Bool).getD false
    else false

/-- The local date of a timestamp. -/
def ofTimestamp? (text : Text) : Option Date := do
  let (year, rest) ← fixedNumber? 4 text
  let (month, rest) ← fixedNumber? 2 (← after? '-' rest)
  let (day, rest) ← fixedNumber? 2 (← after? '-' rest)
  let rest ← afterTime? (← afterTimeMark? rest)
  if isOffset rest then ofParts? year month day else none

/-- The date of a text of either form. -/
def ofText? (text : Text) : Option Date :=
  ofCalendarText? text <|> ofTimestamp? text

end SiteWeave.Date
