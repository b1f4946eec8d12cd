import SiteWeave.Proofs.Calendar.Numeral

/-!
# Timestamps

A timestamp holds a date, a time of day and the offset of that time from universal time. Its parts
have fixed widths, except for the fraction of a second, so a text is read as a timestamp if it is the
text of one. The date is read as it is written: the offset may put the same moment into another day
of universal time, another year even, and has no part in it.

No text is read in both forms of a date, because a timestamp goes on behind the day.

## Main definitions

* `Offset`, `Timestamp`: the parts of a timestamp.
* `Timestamp.text`: a timestamp as it is written.

## Main results

* `Date.ofTimestamp?_eq_some_iff`: what a timestamp is read from.
* `Date.ofCalendarText?_iso_append`: nothing may stand behind a date in the shorter form.
* `Date.ofText?_iso`, `Date.ofText?_timestamp`: both forms of a date are read.
-/

namespace SiteWeave

open Date (padded isOffsetSign)

/-! ### The texts of timestamps -/

/-- The offset of a time of day from universal time. -/
inductive Offset where
  /-- No offset, marked by a letter. -/
  | universal (letter : Char) (isLetter : letter = 'Z' ∨ letter = 'z')
  /-- An offset of less than a day. -/
  | signed (sign : Char) (hours minutes : Nat) (isSign : isOffsetSign sign = true)
    (hours_le : hours ≤ 23) (minutes_le : minutes ≤ 59)

/-- An offset as it is written. -/
def Offset.text : Offset → Text
  | universal letter _ => [letter]
  | signed sign hours minutes _ _ _ =>
    sign :: ((padded 2 hours).toList ++ ':' :: (padded 2 minutes).toList)

/-- A date and a time of day there, and its offset from universal time. -/
structure Timestamp where
  date : Date
  /-- The character between date and time. -/
  mark : Char
  hour : Nat
  minute : Nat
  second : Nat
  /-- The digits of the fraction of a second; there may be none. -/
  fraction : Text
  offset : Offset
  fourDigits : 0 ≤ date.year ∧ date.year ≤ 9999
  isMark : mark = 'T' ∨ mark = 't' ∨ mark = ' '
  hour_le : hour ≤ 23
  minute_le : minute ≤ 59
  /-- There is room for a leap second. -/
  second_le : second ≤ 60
  isFraction : ∀ c ∈ fraction, c.isDigit

namespace Timestamp

/-- The fraction of a second with its point. -/
def fractionText (fraction : Text) : Text :=
  if fraction = [] then [] else '.' :: fraction

/-- The time of day with hours, minutes, seconds and a fraction. -/
def clockText (hour minute second : Nat) (fraction : Text) : Text :=
  (padded 2 hour).toList ++ ':' :: ((padded 2 minute).toList ++ ':' ::
    ((padded 2 second).toList ++ fractionText fraction))

/-- A timestamp as it is written. -/
def text (time : Timestamp) : Text :=
  time.date.iso.toList ++ time.mark ::
    (clockText time.hour time.minute time.second time.fraction ++ time.offset.text)

end Timestamp

namespace Date

open Timestamp (fractionText clockText)

variable {text rest : Text} {date : Date} {c : Char}

/-! ### The parts of a timestamp -/

/-- A date of four digits has its numbers in a row. -/
theorem toList_iso (hyear : 0 ≤ date.year ∧ date.year ≤ 9999) : date.iso.toList =
    (padded 4 date.year.natAbs).toList ++ '-' :: ((padded 2 date.month).toList ++ '-' ::
      (padded 2 date.day).toList) := by
  rw [iso, yearText, if_neg (Int.not_lt.2 hyear.1), if_neg (Int.not_lt.2 hyear.2)]
  simp only [String.toList_append, List.append_assoc]
  rfl

theorem after?_eq_some_iff : after? c text = some rest ↔ text = c :: rest := by
  cases text with
  | nil => simp [after?]
  | cons d text => simp [after?, eq_comm]

theorem afterTimeMark?_eq_some_iff : afterTimeMark? text = some rest ↔
    ∃ mark, (mark = 'T' ∨ mark = 't' ∨ mark = ' ') ∧ text = mark :: rest := by
  cases text with
  | nil => simp [afterTimeMark?]
  | cons d text =>
    simp only [afterTimeMark?, Option.ite_none_right_eq_some, Option.some.injEq, List.cons.injEq]
    constructor
    · rintro ⟨hmark, rfl⟩
      exact ⟨d, hmark, rfl, rfl⟩
    · rintro ⟨mark, hmark, rfl, rfl⟩
      exact ⟨hmark, rfl⟩

/-- The rest of a text behind the fraction of a second, if there is one. -/
def afterFraction? : Text → Option Text
  | '.' :: fraction =>
    let left := fraction.dropWhile Char.isDigit
    if left.length < fraction.length then some left else none
  | rest => some rest

/-- A text that neither continues a fraction nor begins one. -/
def EndsFraction (rest : Text) : Prop :=
  ∀ c ∈ rest.head?, c ≠ '.' ∧ c.isDigit = false

theorem afterFraction?_fractionText {fraction : Text} (hfraction : ∀ c ∈ fraction, c.isDigit)
    (hrest : EndsFraction rest) : afterFraction? (fractionText fraction ++ rest) = some rest := by
  rw [fractionText]
  split
  · rw [List.nil_append]
    unfold afterFraction?
    split
    · exact absurd rfl (hrest '.' rfl).1
    · rfl
  · next hne =>
    have hleft : (fraction ++ rest).dropWhile Char.isDigit = rest := by
      rw [List.dropWhile_append_of_pos hfraction]
      cases rest with
      | nil => rfl
      | cons c rest => exact List.dropWhile_cons_of_neg (by simp [(hrest c rfl).2])
    have hpos := List.length_pos_iff.2 hne
    simp only [List.cons_append, afterFraction?, hleft, List.length_append]
    rw [if_pos (by omega)]

theorem exists_of_afterFraction? (h : afterFraction? text = some rest) :
    ∃ fraction, (∀ c ∈ fraction, c.isDigit) ∧ text = fractionText fraction ++ rest := by
  unfold afterFraction? at h
  split at h
  · next fraction =>
    simp only [Option.ite_none_right_eq_some, Option.some.injEq] at h
    obtain ⟨hlt, rfl⟩ := h
    have hsplit := List.takeWhile_append_dropWhile (p := Char.isDigit) (l := fraction)
    refine ⟨fraction.takeWhile Char.isDigit, List.all_eq_true.1 List.all_takeWhile, ?_⟩
    rw [fractionText, if_neg, List.cons_append, hsplit]
    intro hnil
    rw [hnil, List.nil_append] at hsplit
    rw [hsplit] at hlt
    exact Nat.lt_irrefl _ hlt
  · obtain rfl := Option.some.inj h
    exact ⟨[], by simp, rfl⟩

/-- A time of day is read up to its fraction. -/
theorem afterTime?_eq_some_iff : afterTime? text = some rest ↔ ∃ hour minute second back,
    (hour ≤ 23 ∧ minute ≤ 59 ∧ second ≤ 60) ∧ text = (padded 2 hour).toList ++ ':' ::
      ((padded 2 minute).toList ++ ':' :: ((padded 2 second).toList ++ back)) ∧
      afterFraction? back = some rest := by
  simp only [afterTime?, Option.bind_eq_bind, Option.bind_eq_some_iff, Prod.exists,
    fixedNumber?_eq_some_iff Nat.two_pos, after?_eq_some_iff]
  constructor
  · rintro ⟨hour, _, ⟨-, rfl⟩, _, rfl, minute, _, ⟨-, rfl⟩, _, rfl, second, back, ⟨-, rfl⟩, h⟩
    obtain ⟨hbounds, hback⟩ := Option.ite_none_right_eq_some.1 h
    exact ⟨hour, minute, second, back, hbounds, rfl, hback⟩
  · rintro ⟨hour, minute, second, back, hbounds, rfl, hback⟩
    refine ⟨hour, _, ⟨by omega, rfl⟩, _, rfl, minute, _, ⟨by omega, rfl⟩, _, rfl, second, back,
      ⟨by omega, rfl⟩, ?_⟩
    rw [if_pos hbounds]
    exact hback

/-- **A text is an offset** if it is the text of one. -/
theorem isOffset_iff : isOffset text = true ↔ ∃ offset : Offset, offset.text = text := by
  have hgetD (found : Option Bool) : found.getD false = true ↔ found = some true := by
    cases found <;> simp
  cases text with
  | nil =>
    refine iff_of_false (by simp [isOffset]) ?_
    rintro ⟨_ | _, h⟩ <;> simp [Offset.text] at h
  | cons c text =>
    rw [isOffset]
    by_cases hletter : c = 'Z' ∨ c = 'z'
    · rw [if_pos hletter, List.isEmpty_iff]
      constructor
      · rintro rfl
        exact ⟨.universal c hletter, rfl⟩
      · rintro ⟨letter | ⟨sign, hours, minutes, hsign⟩, h⟩
        · exact (List.cons.inj h).2.symm
        · obtain ⟨rfl, -⟩ := List.cons.inj h
          rcases hletter with rfl | rfl <;> simp [isOffsetSign] at hsign
    rw [if_neg hletter]
    by_cases hsign : isOffsetSign c = true
    · rw [if_pos hsign, hgetD]
      simp only [Option.bind_eq_bind, Option.bind_eq_some_iff, Prod.exists,
        fixedNumber?_eq_some_iff Nat.two_pos, after?_eq_some_iff]
      constructor
      · rintro ⟨hours, _, ⟨-, rfl⟩, _, rfl, minutes, rest, ⟨-, rfl⟩, hend⟩
        obtain ⟨⟨rfl, hhours⟩, hminutes⟩ : (rest = [] ∧ hours ≤ 23) ∧ minutes ≤ 59 := by
          simpa using hend
        exact ⟨.signed c hours minutes hsign hhours hminutes, by simp [Offset.text]⟩
      · rintro ⟨⟨letter, h'⟩ | ⟨sign, hours, minutes, hsign', hhours, hminutes⟩, h⟩
        · exact absurd ((List.cons.inj h).1 ▸ h') hletter
        · obtain ⟨rfl, rfl⟩ := List.cons.inj h
          exact ⟨hours, _, ⟨by omega, rfl⟩, _, rfl, minutes, [], ⟨by omega, by simp⟩,
            by simp [hhours, hminutes]⟩
    · rw [if_neg hsign]
      refine iff_of_false (by simp) ?_
      rintro ⟨⟨letter, h'⟩ | ⟨sign, hours, minutes, hsign'⟩, h⟩
      · exact hletter ((List.cons.inj h).1 ▸ h')
      · exact hsign ((List.cons.inj h).1 ▸ hsign')

/-- An offset neither continues a fraction nor begins one. -/
theorem endsFraction_text (offset : Offset) : EndsFraction offset.text := by
  have hsign {c : Char} (h : isOffsetSign c = true) : c = '+' ∨ c = '-' ∨ c = '\u2212' := by
    simpa [isOffsetSign, or_assoc] using h
  intro c hc
  rcases offset with ⟨letter, rfl | rfl⟩ | ⟨sign, hours, minutes, hoffset⟩
  · obtain rfl := Option.some.inj hc
    decide
  · obtain rfl := Option.some.inj hc
    decide
  · obtain rfl := Option.some.inj hc
    rcases hsign hoffset with rfl | rfl | rfl <;> decide

/-! ### Reading both forms -/

/-- **What a timestamp is read from:** the text of a timestamp with that date. -/
theorem ofTimestamp?_eq_some_iff : ofTimestamp? text = some date ↔
    ∃ time : Timestamp, time.date = date ∧ time.text = text := by
  simp only [ofTimestamp?, Option.bind_eq_bind, Option.bind_eq_some_iff, Prod.exists,
    fixedNumber?_eq_some_iff (Nat.succ_pos _), after?_eq_some_iff, afterTimeMark?_eq_some_iff,
    afterTime?_eq_some_iff]
  constructor
  · rintro ⟨year, _, ⟨hyear, rfl⟩, _, rfl, month, _, ⟨-, rfl⟩, _, rfl, day, _, ⟨-, rfl⟩, _,
      ⟨mark, hmark, rfl⟩, rest, ⟨hour, minute, second, back, hbounds, rfl, hback⟩, h⟩
    obtain ⟨hoffset, hdate⟩ := Option.ite_none_right_eq_some.1 h
    obtain ⟨offset, rfl⟩ := isOffset_iff.1 hoffset
    obtain ⟨fraction, hfraction, rfl⟩ := exists_of_afterFraction? hback
    obtain ⟨hyear', rfl, rfl⟩ := ofParts?_eq_some_iff.1 hdate
    have hfour : 0 ≤ date.year ∧ date.year ≤ 9999 := by omega
    refine ⟨⟨date, mark, hour, minute, second, fraction, offset, hfour, hmark, hbounds.1,
      hbounds.2.1, hbounds.2.2, hfraction⟩, rfl, ?_⟩
    simp [Timestamp.text, toList_iso hfour, hyear', clockText]
  · rintro ⟨time, rfl, rfl⟩
    obtain ⟨⟨hfirst, hlast⟩, ⟨-, hmonth⟩, -, hday⟩ := time.date.isDate
    have hday := hday.trans (daysInMonth_le _ _)
    have hfour := time.fourDigits
    refine ⟨time.date.year.natAbs, _, ⟨by omega, ?_⟩, _, rfl, time.date.month, _,
      ⟨by omega, rfl⟩, _, rfl, time.date.day, _, ⟨by omega, rfl⟩, _, ⟨time.mark, time.isMark, rfl⟩, _,
      ⟨time.hour, time.minute, time.second, _, ⟨time.hour_le, time.minute_le, time.second_le⟩, rfl,
      afterFraction?_fractionText time.isFraction (endsFraction_text time.offset)⟩, ?_⟩
    · simp [Timestamp.text, toList_iso hfour, clockText]
    · rw [if_pos (isOffset_iff.2 ⟨_, rfl⟩)]
      exact ofParts?_eq_some_iff.2 ⟨by omega, rfl, rfl⟩

theorem isBlank_eq_false_of_isDigit {c : Char} (h : c.isDigit) : isBlank c = false := by
  have hranges : ∀ range ∈ blankRanges, range.2 < '0'.toNat ∨ '9'.toNat < range.1 := by decide
  have hdigit := Char.isDigit_iff_toNat.1 h
  rw [isBlank, inRanges, List.any_eq_false]
  rintro ⟨first, last⟩ hmem hc
  have hrange := hranges _ hmem
  simp only [Bool.and_eq_true, decide_eq_true_eq] at hc
  omega

/-- No blank stands in front of a number of fixed width. -/
theorem trimStart_padded {width n : Nat} (hwidth : 0 < width) (h : n < 10 ^ width) (rest : Text) :
    Text.trimStart ((padded width n).toList ++ rest) = (padded width n).toList ++ rest := by
  obtain ⟨c, digits, hcons⟩ := List.exists_cons_of_length_pos (l := (padded width n).toList)
    (hwidth.trans_eq (length_padded hwidth h).symm)
  have hdigit : c.isDigit := isDigit_of_mem_padded c (hcons ▸ List.mem_cons_self)
  rw [hcons, List.cons_append, Text.trimStart,
    List.dropWhile_cons_of_neg (by simp [isBlank_eq_false_of_isDigit hdigit])]

/-- A year of fixed width has no sign. -/
theorem year?_padded {n : Nat} (h : n < 10 ^ 4) (rest : Text) :
    year? ((padded 4 n).toList ++ rest) = some ((n : Int), rest) := by
  have hnumber := number?_padded (by decide) h rest
  obtain ⟨c, digits, hcons⟩ := List.exists_cons_of_length_pos (l := (padded 4 n).toList)
    (Nat.lt_of_lt_of_eq (by decide) (length_padded (by decide) h).symm)
  have hdigit : c.isDigit := isDigit_of_mem_padded c (hcons ▸ List.mem_cons_self)
  rw [hcons, List.cons_append] at hnumber ⊢
  unfold year?
  split
  · next heq =>
    obtain ⟨rfl, -⟩ := List.cons.inj heq
    exact absurd hdigit (by decide)
  · next heq =>
    obtain ⟨rfl, -⟩ := List.cons.inj heq
    exact absurd hdigit (by decide)
  · rw [hnumber]
    rfl

/-- Behind a date of four digits there can be nothing in the form that is only a date. -/
theorem ofCalendarText?_iso_append (hyear : 0 ≤ date.year ∧ date.year ≤ 9999) (rest : Text) :
    ofCalendarText? (date.iso.toList ++ rest) = if rest.isEmpty then some date else none := by
  obtain ⟨-, ⟨-, hmonth⟩, -, hday⟩ := date.isDate
  have hday := hday.trans (daysInMonth_le _ _)
  have hafter (rest : Text) : after? '-' ('-' :: rest) = some rest := rfl
  have hread {n : Nat} (h : n < 10 ^ 2) (rest : Text) :=
    number?_padded Nat.two_pos h rest
  have hparts : ofParts? date.year.natAbs date.month date.day = some date :=
    ofParts?_eq_some_iff.2 ⟨by omega, rfl, rfl⟩
  rw [toList_iso hyear]
  simp only [List.append_assoc, List.cons_append, ofCalendarText?, Option.bind_eq_bind]
  rw [trimStart_padded (by decide) (by omega), year?_padded (by omega)]
  simp only [Option.bind_some, hafter]
  rw [trimStart_padded (by decide) (by omega), hread (by omega)]
  simp only [Option.bind_some, hafter]
  rw [trimStart_padded (by decide) (by omega), hread (by omega)]
  simp only [Option.bind_some, hparts]

/-- **A date alone is read.** -/
theorem ofText?_iso (hyear : 0 ≤ date.year ∧ date.year ≤ 9999) :
    ofText? date.iso.toList = some date := by
  have hread := ofCalendarText?_iso_append hyear []
  rw [List.append_nil] at hread
  rw [ofText?, hread]
  rfl

/-- **The date of a timestamp is read,** whatever the time of day and the offset. -/
theorem ofText?_timestamp (time : Timestamp) : ofText? time.text = some time.date := by
  rw [ofText?, ofTimestamp?_eq_some_iff.2 ⟨time, rfl, rfl⟩, Timestamp.text,
    ofCalendarText?_iso_append time.fourDigits]
  rfl

end Date

end SiteWeave
