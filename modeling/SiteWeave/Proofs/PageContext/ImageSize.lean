import SiteWeave.BlogIndex.Card
import SiteWeave.Proofs.PageContext.SizeToken
import SiteWeave.Proofs.Text.Occurrence

/-!
# The sizes of an image

The address for social cards has its first width and its first height replaced, one after the other,
each by a search through the text that the other replacement left. That the order does not matter,
and that nothing happens the second time, rests on two facts. Setting a size makes no token and
takes none away, since it puts digits where digits stood and leaves the two characters in front of
them. And a letter that is no digit and no equals sign stands in no token of another letter. So a
text is followed from its front, where it begins with a token of the one letter, with a token of the
other one, or with neither.

## Main definitions

* `ImageSize.size?`: the digits of the first token of a letter.
* `ImageSize.outsideSizes`: a text without the digits of its first width and its first height.

## Main results

* `ImageSize.setFirst_comm`, `ImageSize.setFirst_setFirst`: two sizes of different letters may be
  set in either order, and of two sizes of one letter the last one stays.
* `ImageSize.without_isSizeDigit_or`: the digits of two tokens may be cut one after the other.
* `ImageSize.card_consistent`: the addresses for social cards and for the featured post agree.
-/

namespace SiteWeave.ImageSize

variable {letter other c : Char} {digits more text rest front run back : Text}

/-! ### Two sizes set -/

theorem setFirst_cons_of_ne (h : c ≠ letter) :
    setFirst letter digits (c :: rest) = c :: setFirst letter digits rest :=
  setFirst_cons (afterToken?_eq_none_iff.2 fun _ _ htext => absurd (List.cons.inj htext).1 h)

theorem setFirst_append_of_notMem (h : letter ∉ front) :
    setFirst letter digits (front ++ back) = front ++ setFirst letter digits back := by
  induction front with
  | nil => rfl
  | cons c front ih =>
    obtain ⟨hc, hfront⟩ := not_or.1 (List.mem_cons.not.1 h)
    rw [List.cons_append, setFirst_cons_of_ne (Ne.symm hc), ih hfront, List.cons_append]

theorem head?_setFirst : (setFirst letter digits text).head? = text.head? := by
  cases text with
  | nil => rfl
  | cons c rest =>
    cases hafter : afterToken? letter (c :: rest) with
    | some after =>
      obtain ⟨run, hrun, htext⟩ := afterToken?_eq_some_iff.1 hafter
      rw [htext, setFirst_token hrun, List.head?_cons, List.head?_cons]
    | none => rw [setFirst_cons hafter, List.head?_cons, List.head?_cons]

theorem afterToken?_cons_eq_none_iff : afterToken? letter (c :: rest) = none ↔
    c = letter → rest.head? = some '=' → ∀ d ∈ rest.tail.head?, isDecimalDigit d = false := by
  rw [afterToken?_eq_none_iff]
  constructor
  · rintro h rfl hhead d hd
    obtain ⟨tail, rfl⟩ := List.head?_eq_some_iff.1 hhead
    obtain ⟨behind, rfl⟩ := List.head?_eq_some_iff.1 hd
    exact h d behind rfl
  · rintro h digit behind htext
    obtain ⟨rfl, rfl⟩ := List.cons.inj htext
    exact h rfl rfl digit rfl

/-- No token at the front comes or goes when a size is set behind. -/
theorem afterToken?_cons_setFirst (hother : other ≠ '=')
    (h : afterToken? letter (c :: rest) = none) :
    afterToken? letter (c :: setFirst other more rest) = none := by
  rw [afterToken?_cons_eq_none_iff, head?_setFirst]
  intro hc hhead
  obtain ⟨tail, rfl⟩ := List.head?_eq_some_iff.1 hhead
  rw [setFirst_cons_of_ne (Ne.symm hother), List.tail_cons, head?_setFirst]
  exact afterToken?_cons_eq_none_iff.1 h hc hhead

theorem IsRun.setFirst (h : IsRun run back) : IsRun run (setFirst letter digits back) :=
  ⟨h.ne_nil, h.isDigit, by rw [head?_setFirst]; exact h.ends⟩

/-- A text is empty, begins with a token of one of two letters, or begins with a character that is
no part of such a token. -/
theorem tokenInduction (letter other : Char) {motive : Text → Prop} (nil : motive [])
    (left : ∀ run back, IsRun run back → motive (letter :: '=' :: (run ++ back)))
    (right : ∀ run back, IsRun run back → motive (other :: '=' :: (run ++ back)))
    (cons : ∀ c rest, afterToken? letter (c :: rest) = none →
      afterToken? other (c :: rest) = none → motive rest → motive (c :: rest)) :
    ∀ text, motive text := by
  intro text
  induction text with
  | nil => exact nil
  | cons c rest ih =>
    cases hleft : afterToken? letter (c :: rest) with
    | some back =>
      obtain ⟨run, hrun, htext⟩ := afterToken?_eq_some_iff.1 hleft
      exact htext ▸ left run back hrun
    | none =>
      cases hright : afterToken? other (c :: rest) with
      | some back =>
        obtain ⟨run, hrun, htext⟩ := afterToken?_eq_some_iff.1 hright
        exact htext ▸ right run back hrun
      | none => exact cons c rest hleft hright ih

/-- A letter that stands in no token of another letter: it is no equals sign and no digit. -/
structure IsMark (letter : Char) : Prop where
  ne_equals : letter ≠ '='
  not_digit : isDecimalDigit letter = false

theorem IsMark.notMem_token (hother : IsMark other) (hne : other ≠ letter)
    (hdigits : ∀ c ∈ digits, isDecimalDigit c = true) : other ∉ letter :: '=' :: digits := by
  rw [List.mem_cons, List.mem_cons, not_or, not_or]
  refine ⟨hne, hother.ne_equals, fun hmem => ?_⟩
  have hdigit := hdigits other hmem
  rw [hother.not_digit] at hdigit
  cases hdigit

/-- Behind a token of one letter the other letter is looked for. -/
theorem IsMark.setFirst_token (hother : IsMark other) (hne : other ≠ letter)
    (hdigits : ∀ c ∈ digits, isDecimalDigit c = true) :
    setFirst other more (letter :: '=' :: (digits ++ back)) =
      letter :: '=' :: (digits ++ setFirst other more back) :=
  setFirst_append_of_notMem (hother.notMem_token hne hdigits)

theorem setFirst_comm_token (hother : IsMark other) (hne : other ≠ letter)
    (hdigits : ∀ c ∈ digits, isDecimalDigit c = true) (hrun : IsRun run back) :
    setFirst other more (setFirst letter digits (letter :: '=' :: (run ++ back))) =
      setFirst letter digits (setFirst other more (letter :: '=' :: (run ++ back))) := by
  rw [setFirst_token hrun, hother.setFirst_token hne hdigits,
    hother.setFirst_token hne hrun.isDigit, setFirst_token hrun.setFirst]

/-- **The sizes of two letters** may be set in either order. -/
theorem setFirst_comm (hletter : IsMark letter) (hother : IsMark other) (hne : other ≠ letter)
    (hdigits : ∀ c ∈ digits, isDecimalDigit c = true)
    (hmore : ∀ c ∈ more, isDecimalDigit c = true) (text : Text) :
    setFirst other more (setFirst letter digits text) =
      setFirst letter digits (setFirst other more text) := by
  induction text using tokenInduction letter other with
  | nil => rfl
  -- A token of either letter at the front is passed by the search for the other one.
  | left run back hrun => exact setFirst_comm_token hother hne hdigits hrun
  | right run back hrun => exact (setFirst_comm_token hletter hne.symm hmore hrun).symm
  | cons c rest hleft hright ih =>
    rw [setFirst_cons hleft, setFirst_cons (afterToken?_cons_setFirst hletter.ne_equals hright),
      setFirst_cons hright, setFirst_cons (afterToken?_cons_setFirst hother.ne_equals hleft), ih]

/-- The first token stays where it is and gets the new digits. -/
theorem IsFirstSize.setFirst (h : IsFirstSize letter text front run back)
    (hletter : letter ≠ '=') (hne : digits ≠ [])
    (hdigits : ∀ c ∈ digits, isDecimalDigit c = true) :
    IsFirstSize letter (setFirst letter digits text) front digits back := by
  induction front generalizing text with
  | nil =>
    obtain ⟨hrun, rfl⟩ := isFirstSize_nil_iff.1 h
    exact isFirstSize_nil_iff.2 ⟨⟨hne, hdigits, hrun.ends⟩, setFirst_token hrun⟩
  | cons c front ih =>
    cases text with
    | nil => cases h.eq_append
    | cons d text =>
      obtain ⟨rfl, -⟩ := List.cons.inj h.eq_append
      obtain ⟨hnone, hrest⟩ := isFirstSize_cons_iff.1 h
      rw [setFirst_cons hnone]
      exact isFirstSize_cons_iff.2 ⟨afterToken?_cons_setFirst hletter hnone, ih hrest⟩

/-- Of two sizes of one letter the last one stays. -/
theorem setFirst_setFirst (hletter : letter ≠ '=') (hne : more ≠ [])
    (hmore : ∀ c ∈ more, isDecimalDigit c = true) :
    setFirst letter digits (setFirst letter more text) = setFirst letter digits text := by
  cases hfirst : firstSize? letter text with
  | none =>
    have hsame : setFirst letter more text = text :=
      setFirst_eq_of_hasNoSize (firstSize?_eq_none_iff.1 hfirst)
    rw [hsame]
  | some found =>
    have h := firstSize?_eq_some_iff.1 hfirst
    rw [setFirst_eq_of_isFirstSize (h.setFirst hletter hne hmore), setFirst_eq_of_isFirstSize h]

/-! ### The text outside the sizes -/

/-- The digits of the first token of a letter. -/
def size? (letter : Char) (text : Text) : Option Text :=
  (firstSize? letter text).map fun (_, run, _) => run

theorem size?_setFirst_self (hletter : letter ≠ '=') (hne : digits ≠ [])
    (hdigits : ∀ c ∈ digits, isDecimalDigit c = true) :
    size? letter (setFirst letter digits text) = (size? letter text).map fun _ => digits := by
  cases hfirst : firstSize? letter text with
  | none =>
    rw [setFirst_eq_of_hasNoSize (firstSize?_eq_none_iff.1 hfirst), size?, hfirst]
    rfl
  | some found =>
    have h := (firstSize?_eq_some_iff.1 hfirst).setFirst hletter hne hdigits
    rw [size?, firstSize?_eq_some_iff.2 h, size?, hfirst]
    rfl

theorem size?_cons (h : afterToken? letter (c :: rest) = none) :
    size? letter (c :: rest) = size? letter rest := by
  rw [size?, firstSize?_cons h, Option.map_map]
  rfl

theorem firstSize?_append_of_notMem (h : letter ∉ front) :
    firstSize? letter (front ++ back) =
      (firstSize? letter back).map fun (before, run, behind) => (front ++ before, run, behind) := by
  induction front with
  | nil => exact Option.map_id'.symm
  | cons c front ih =>
    obtain ⟨hc, hfront⟩ := not_or.1 (List.mem_cons.not.1 h)
    have hnone : afterToken? letter (c :: (front ++ back)) = none :=
      afterToken?_eq_none_iff.2 fun _ _ htext => absurd (List.cons.inj htext).1.symm hc
    rw [List.cons_append, firstSize?_cons hnone, ih hfront, Option.map_map]
    rfl

theorem size?_append_of_notMem (h : letter ∉ front) :
    size? letter (front ++ back) = size? letter back := by
  rw [size?, firstSize?_append_of_notMem h, Option.map_map]
  rfl

/-- The size of one letter does not depend on the size of another. -/
theorem size?_setFirst_of_ne (hletter : IsMark letter) (hother : IsMark other)
    (hne : other ≠ letter) (hdigits : ∀ c ∈ digits, isDecimalDigit c = true) (text : Text) :
    size? other (setFirst letter digits text) = size? other text := by
  induction text using tokenInduction letter other with
  | nil => rfl
  | left run back hrun =>
    rw [setFirst_token hrun]
    exact (size?_append_of_notMem (hother.notMem_token hne hdigits)).trans
      (size?_append_of_notMem (hother.notMem_token hne hrun.isDigit)).symm
  | right run back hrun =>
    rw [hletter.setFirst_token hne.symm hrun.isDigit, size?, size?, firstSize?_token hrun.setFirst,
      firstSize?_token hrun]
    rfl
  | cons c rest hleft hright ih =>
    rw [setFirst_cons hleft, size?_cons (afterToken?_cons_setFirst hletter.ne_equals hright),
      size?_cons hright, ih]

/-- Whether a place of a text lies in the digits of the first token of a letter. -/
def isSizeDigit (letter : Char) (text : Text) (place : Nat) : Bool :=
  (firstSize? letter text).any fun (front, run, _) =>
    front.length + 2 ≤ place && place < front.length + 2 + run.length

/-- A text without the characters at some of its places. -/
def without (gone : Nat → Bool) : Text → Text
  | [] => []
  | c :: rest =>
    if gone 0 then without (fun place => gone (place + 1)) rest
    else c :: without (fun place => gone (place + 1)) rest

/-- A text without the digits of its first width and of its first height. -/
def outsideSizes (text : Text) : Text :=
  without (fun place => isSizeDigit 'w' text place || isSizeDigit 'h' text place) text

theorem without_append {gone : Nat → Bool} :
    without gone (front ++ back) =
      without gone front ++ without (fun place => gone (place + front.length)) back := by
  induction front generalizing gone with
  | nil => rfl
  | cons c front ih =>
    rw [List.cons_append, without, without, ih]
    split <;> simp [Nat.add_assoc]

theorem without_eq_self {gone : Nat → Bool} (h : ∀ place < text.length, gone place = false) :
    without gone text = text := by
  induction text generalizing gone with
  | nil => rfl
  | cons c rest ih =>
    rw [without, h 0 (Nat.zero_lt_succ _), ih fun place hplace => h _ (Nat.succ_lt_succ hplace)]
    rfl

theorem without_eq_nil {gone : Nat → Bool} (h : ∀ place < text.length, gone place = true) :
    without gone text = [] := by
  induction text generalizing gone with
  | nil => rfl
  | cons c rest ih =>
    rw [without, h 0 (Nat.zero_lt_succ _), ih fun place hplace => h _ (Nat.succ_lt_succ hplace)]
    rfl

/-- A run of places is gone. -/
theorem without_run {gone : Nat → Bool} (hfront : ∀ place < front.length, gone place = false)
    (hrun : ∀ place < run.length, gone (place + front.length) = true) :
    without gone (front ++ (run ++ back)) =
      front ++ without (fun place => gone (place + run.length + front.length)) back := by
  rw [without_append, without_eq_self hfront, without_append, without_eq_nil hrun, List.nil_append]

theorem isSizeDigit_token (h : IsRun run back) (place : Nat) :
    isSizeDigit letter (letter :: '=' :: (run ++ back)) place =
      decide (2 ≤ place ∧ place < 2 + run.length) := by
  rw [isSizeDigit, firstSize?_token h, Option.any_some, Bool.decide_and]
  simp

theorem isSizeDigit_append_of_notMem (h : letter ∉ front) (place : Nat) :
    isSizeDigit letter (front ++ back) place =
      (decide (front.length ≤ place) && isSizeDigit letter back (place - front.length)) := by
  rw [isSizeDigit, firstSize?_append_of_notMem h, isSizeDigit]
  cases firstSize? letter back with
  | none => simp
  | some found =>
    simp only [Option.map_some, Option.any_some, List.length_append]
    rw [← Bool.decide_and, ← Bool.decide_and, ← Bool.decide_and, decide_eq_decide]
    omega

theorem isSizeDigit_cons (h : afterToken? letter (c :: rest) = none) (place : Nat) :
    isSizeDigit letter (c :: rest) (place + 1) = isSizeDigit letter rest place := by
  rw [isSizeDigit, firstSize?_cons h, isSizeDigit]
  cases firstSize? letter rest with
  | none => rfl
  | some found =>
    simp only [Option.map_some, Option.any_some, List.length_cons]
    rw [← Bool.decide_and, ← Bool.decide_and, decide_eq_decide]
    omega

theorem isSizeDigit_zero : isSizeDigit letter text 0 = false := by
  rw [isSizeDigit]
  cases firstSize? letter text <;> rfl

/-- Without the digits of the first token of one letter. -/
theorem without_isSizeDigit : without (isSizeDigit letter text) text = setFirst letter [] text := by
  cases hfirst : firstSize? letter text with
  | none =>
    rw [setFirst_eq_of_hasNoSize (firstSize?_eq_none_iff.1 hfirst)]
    exact without_eq_self fun place _ => by rw [isSizeDigit, hfirst, Option.any_none]
  | some found =>
    obtain ⟨front, run, back⟩ := found
    have h := firstSize?_eq_some_iff.1 hfirst
    have hgone : ∀ place, isSizeDigit letter text place =
        decide (front.length + 2 ≤ place ∧ place < front.length + 2 + run.length) := fun place => by
      rw [isSizeDigit, hfirst, Option.any_some, Bool.decide_and]
    have htext : text = (front ++ [letter, '=']) ++ (run ++ back) := by simp [h.eq_append]
    have hlength : (front ++ [letter, '=']).length = front.length + 2 := List.length_append
    rw [setFirst_eq_of_isFirstSize h, funext hgone, htext, without_run, without_eq_self]
    · simp
    all_goals
      intro place hplace
      simp only [hlength, decide_eq_true_eq, decide_eq_false_iff_not] at hplace ⊢
      omega

/-- The token at the front loses its digits, and behind it only the other letter has a token. -/
theorem without_token (hother : IsMark other) (hne : other ≠ letter) (hrun : IsRun run back) :
    without (fun place => isSizeDigit letter (letter :: '=' :: (run ++ back)) place ||
        isSizeDigit other (letter :: '=' :: (run ++ back)) place)
      (letter :: '=' :: (run ++ back)) =
    letter :: '=' :: setFirst other [] back := by
  have hbehind : ∀ place, isSizeDigit other (letter :: '=' :: (run ++ back)) place =
      (decide (run.length + 2 ≤ place) && isSizeDigit other back (place - (run.length + 2))) :=
    isSizeDigit_append_of_notMem (hother.notMem_token hne hrun.isDigit)
  have hback : ∀ place, (decide (2 ≤ place + run.length + 2 ∧
      place + run.length + 2 < 2 + run.length) ||
        decide (run.length + 2 ≤ place + run.length + 2) &&
          isSizeDigit other back (place + run.length + 2 - (run.length + 2))) =
      isSizeDigit other back place := fun place => by
    rw [decide_eq_false (by omega), decide_eq_true (by omega), Bool.false_or, Bool.true_and]
    congr 1
    omega
  simp only [isSizeDigit_token hrun, hbehind]
  -- The letter and its equals sign stay, and the run goes as a whole.
  change without _ ([letter, '='] ++ (run ++ back)) = _
  rw [without_run, ← without_isSizeDigit]
  · exact congrArg (fun gone => [letter, '='] ++ without gone back) (funext hback)
  · intro place hplace
    have hplace : place < 2 := hplace
    rw [decide_eq_false (by omega), decide_eq_false (by omega)]
    rfl
  · intro place hplace
    rw [decide_eq_true ⟨Nat.le_add_left 2 place, by simp; omega⟩, Bool.true_or]

/-- Without the digits of the first tokens of two letters. -/
theorem without_isSizeDigit_or (hletter : IsMark letter) (hother : IsMark other)
    (hne : other ≠ letter) (text : Text) :
    without (fun place => isSizeDigit letter text place || isSizeDigit other text place) text =
      setFirst other [] (setFirst letter [] text) := by
  induction text using tokenInduction letter other with
  | nil => rfl
  | left run back hrun =>
    rw [without_token hother hne hrun, setFirst_token hrun]
    exact (hother.setFirst_token hne (List.forall_mem_nil _)).symm
  | right run back hrun =>
    simp only [Bool.or_comm (isSizeDigit letter _ _)]
    rw [without_token hletter hne.symm hrun, hletter.setFirst_token hne.symm hrun.isDigit,
      setFirst_token hrun.setFirst]
    rfl
  | cons c rest hleft hright ih =>
    have hbehind : afterToken? other (c :: setFirst letter [] rest) = none :=
      afterToken?_cons_setFirst hletter.ne_equals hright
    rw [without, isSizeDigit_zero, isSizeDigit_zero, setFirst_cons hleft, setFirst_cons hbehind,
      ← ih]
    simp only [isSizeDigit_cons hleft, isSizeDigit_cons hright]
    rfl

/-! ### Widths and heights -/

theorem isMark_width : IsMark 'w' := ⟨by decide, by decide⟩

theorem isMark_height : IsMark 'h' := ⟨by decide, by decide⟩

theorem isDecimalDigit_of_mem_toDigits {number : Nat} (h : c ∈ Nat.toDigits 10 number) :
    isDecimalDigit c = true :=
  isDecimalDigit_of_isDigit (Nat.isDigit_of_mem_toDigits (by decide) (by decide) h)

theorem outsideSizes_eq (text : Text) :
    outsideSizes text = setFirst 'h' [] (setFirst 'w' [] text) :=
  without_isSizeDigit_or isMark_width isMark_height (by decide) text

theorem toList_setWidth (width : Nat) (image : String) :
    (setWidth width image).toList = setFirst 'w' (Nat.toDigits 10 width) image.toList :=
  String.toList_ofList

theorem toList_setHeight (height : Nat) (image : String) :
    (setHeight height image).toList = setFirst 'h' (Nat.toDigits 10 height) image.toList :=
  String.toList_ofList

theorem setWidth_setHeight (width height : Nat) (image : String) :
    setWidth width (setHeight height image) = setHeight height (setWidth width image) := by
  rw [← String.toList_inj, toList_setWidth, toList_setHeight, toList_setHeight, toList_setWidth]
  exact (setFirst_comm isMark_width isMark_height (by decide)
    (fun _ => isDecimalDigit_of_mem_toDigits) (fun _ => isDecimalDigit_of_mem_toDigits) _).symm

theorem setWidth_setWidth (width other : Nat) (image : String) :
    setWidth width (setWidth other image) = setWidth width image := by
  rw [← String.toList_inj, toList_setWidth, toList_setWidth, toList_setWidth]
  exact setFirst_setFirst isMark_width.ne_equals Nat.toDigits_ne_nil
    fun _ => isDecimalDigit_of_mem_toDigits

theorem setHeight_setHeight (height other : Nat) (image : String) :
    setHeight height (setHeight other image) = setHeight height image := by
  rw [← String.toList_inj, toList_setHeight, toList_setHeight, toList_setHeight]
  exact setFirst_setFirst isMark_height.ne_equals Nat.toDigits_ne_nil
    fun _ => isDecimalDigit_of_mem_toDigits

theorem outsideSizes_setWidth (width : Nat) (image : String) :
    outsideSizes (setWidth width image).toList = outsideSizes image.toList := by
  rw [outsideSizes_eq, outsideSizes_eq, toList_setWidth, setFirst_setFirst isMark_width.ne_equals
    Nat.toDigits_ne_nil fun _ => isDecimalDigit_of_mem_toDigits]

theorem outsideSizes_setHeight (height : Nat) (image : String) :
    outsideSizes (setHeight height image).toList = outsideSizes image.toList := by
  rw [outsideSizes_eq, outsideSizes_eq, toList_setHeight,
    ← setFirst_comm isMark_width isMark_height (by decide) (by simp)
      (fun _ => isDecimalDigit_of_mem_toDigits),
    setFirst_setFirst isMark_height.ne_equals Nat.toDigits_ne_nil
      fun _ => isDecimalDigit_of_mem_toDigits]

theorem resized_setWidth (width : Nat) (image : String) :
    Resized 'w' (Nat.toDigits 10 width) image.toList (setWidth width image).toList :=
  resized_iff.2 (toList_setWidth width image)

theorem resized_setHeight (height : Nat) (image : String) :
    Resized 'h' (Nat.toDigits 10 height) image.toList (setHeight height image).toList :=
  resized_iff.2 (toList_setHeight height image)

theorem card_eq_setWidth (image : String) : card image = setWidth 1200 (setHeight 630 image) :=
  (setWidth_setHeight 1200 630 image).symm

theorem card_card (image : String) : card (card image) = card image := by
  rw [card, card_eq_setWidth image, setWidth_setWidth, setWidth_setHeight, setHeight_setHeight]

theorem card_featured (image : String) : card (featured image) = card image := by
  rw [card, featured, setWidth_setWidth, card]

theorem outsideSizes_card (image : String) :
    outsideSizes (card image).toList = outsideSizes image.toList := by
  rw [card, outsideSizes_setHeight, outsideSizes_setWidth]

theorem size?_width_card (image : String) :
    size? 'w' (card image).toList = (size? 'w' image.toList).map fun _ => "1200".toList := by
  rw [card_eq_setWidth, toList_setWidth, size?_setFirst_self isMark_width.ne_equals
    Nat.toDigits_ne_nil fun _ => isDecimalDigit_of_mem_toDigits, toList_setHeight,
    size?_setFirst_of_ne isMark_height isMark_width (by decide)
      fun _ => isDecimalDigit_of_mem_toDigits]
  rfl

theorem size?_height_card (image : String) :
    size? 'h' (card image).toList = (size? 'h' image.toList).map fun _ => "630".toList := by
  rw [card, toList_setHeight, size?_setFirst_self isMark_height.ne_equals
    Nat.toDigits_ne_nil fun _ => isDecimalDigit_of_mem_toDigits, toList_setWidth,
    size?_setFirst_of_ne isMark_width isMark_height (by decide)
      fun _ => isDecimalDigit_of_mem_toDigits]
  rfl

/-- The image of the featured post stands in its block. -/
theorem infix_featuredBlock (post : Post) :
    ("<img src=\"" ++ featured post.image ++ "\" alt=\"").toList <:+:
      post.featuredBlock.toList := by
  have hline : ("<img src=\"" ++ featured post.image ++ "\" alt=\"").toList <:+:
      ("              <img src=\"" ++ featured post.image ++ "\" alt=\"" ++ post.imageAlt ++
        "\" class=\"w-full h-full object-cover min-h-[250px]\">").toList := by
    refine ⟨"              ".toList,
      (post.imageAlt ++ "\" class=\"w-full h-full object-cover min-h-[250px]\">").toList, ?_⟩
    simp only [String.toList_append, List.append_assoc]
    rfl
  rw [Post.featuredBlock]
  exact hline.trans (Text.infix_intercalate (List.mem_of_getElem? (i := 6) rfl))

/-- **The sizes of an image are set consistently.** For every address, the one for social cards has
its first width and its first height replaced, in either order; setting them again changes nothing,
and neither does a start with the address in the block of the featured post, in which the first
width alone is replaced. Outside the digits of these tokens the address for social cards is the
address itself, and it asks for a width or a height exactly when the address does. -/
theorem card_consistent (image : String) :
    (∃ wide, Resized 'w' "1200".toList image.toList wide ∧
      Resized 'h' "630".toList wide (card image).toList) ∧
    (∃ high, Resized 'h' "630".toList image.toList high ∧
      Resized 'w' "1200".toList high (card image).toList) ∧
    card (card image) = card image ∧
    (Resized 'w' "800".toList image.toList (featured image).toList ∧
      (∀ post : Post, post.image = image →
        ("<img src=\"" ++ featured image ++ "\" alt=\"").toList <:+: post.featuredBlock.toList) ∧
      card (featured image) = card image) ∧
    outsideSizes (card image).toList = outsideSizes image.toList ∧
    size? 'w' (card image).toList = (size? 'w' image.toList).map (fun _ => "1200".toList) ∧
    size? 'h' (card image).toList = (size? 'h' image.toList).map (fun _ => "630".toList) := by
  have hhigh : Resized 'w' "1200".toList (setHeight 630 image).toList (card image).toList :=
    card_eq_setWidth image ▸ resized_setWidth 1200 (setHeight 630 image)
  refine ⟨⟨_, resized_setWidth 1200 image, resized_setHeight 630 _⟩,
    ⟨_, resized_setHeight 630 image, hhigh⟩, card_card image,
    ⟨resized_setWidth 800 image, ?_, card_featured image⟩, outsideSizes_card image,
    size?_width_card image, size?_height_card image⟩
  rintro post rfl
  exact infix_featuredBlock post

/-- Tokens may stand inside longer names, next to each other, and more than once. -/
example : card "x?draw=6w=7h=08&h=9" = "x?draw=1200w=7h=630&h=9" := by decide +kernel

end SiteWeave.ImageSize
