import SiteWeave.ImageSize
import Mathlib.Data.List.TakeWhile

/-!
# Tokens in the address of an image

A token is a letter with an equals sign and at least one digit behind it. The search for a token
takes the first one with all of its digits, and setting a size replaces those digits. Both are
described without the search: as the place where the text holds a token and no other one begins
earlier.

## Main definitions

* `ImageSize.IsFirstSize`, `ImageSize.HasNoSize`: the first token of a letter, and its absence.
* `ImageSize.firstSize?`: the first token as the text in front, its digits, and the text behind.
* `ImageSize.Resized`: what replacing the digits of the first token means.

## Main results

* `ImageSize.firstSize?_eq_some_iff`, `ImageSize.firstSize?_eq_none_iff`: there is one first token,
  unless there is none.
* `ImageSize.resized_iff`: setting a size replaces the digits of the first token and nothing else.
-/

namespace SiteWeave.ImageSize

variable {letter c : Char} {digits text rest front run back out : Text}

/-! ### The first token of a letter -/

/-- All of the digits between an equals sign and what stands behind them. There is at least one: an
equals sign without a digit makes no token. -/
structure IsRun (run back : Text) : Prop where
  ne_nil : run ≠ []
  isDigit : ∀ c ∈ run, isDecimalDigit c = true
  ends : ∀ c ∈ back.head?, isDecimalDigit c = false

/-- The first token of a letter in a text. -/
structure IsFirstSize (letter : Char) (text front run back : Text) : Prop extends
    IsRun run back where
  eq_append : text = front ++ letter :: '=' :: (run ++ back)
  /-- No token begins earlier. -/
  first : ∀ before digit behind, text = before ++ letter :: '=' :: digit :: behind →
    isDecimalDigit digit = true → front.length ≤ before.length

/-- A text without a token of the letter. -/
def HasNoSize (letter : Char) (text : Text) : Prop :=
  ∀ before digit behind, text = before ++ letter :: '=' :: digit :: behind →
    isDecimalDigit digit = false

/-- The text in front of the first token of a letter, its digits, and the text behind them. -/
def firstSize? (letter : Char) : Text → Option (Text × Text × Text)
  | [] => none
  | c :: rest =>
    match afterToken? letter (c :: rest) with
    | some back => some ([], rest.tail.takeWhile isDecimalDigit, back)
    | none => (firstSize? letter rest).map fun (front, run, back) => (c :: front, run, back)

theorem IsRun.dropWhile_append (h : IsRun run back) :
    (run ++ back).dropWhile isDecimalDigit = back := by
  rw [List.dropWhile_append_of_pos h.isDigit]
  cases back with
  | nil => rfl
  | cons c back => rw [List.dropWhile_cons_of_neg (by simp [h.ends c rfl])]

theorem IsRun.takeWhile_append (h : IsRun run back) :
    (run ++ back).takeWhile isDecimalDigit = run := by
  rw [List.takeWhile_append_of_pos h.isDigit]
  cases back with
  | nil => simp
  | cons c back => rw [List.takeWhile_cons_of_neg (by simp [h.ends c rfl]), List.append_nil]

theorem afterToken?_eq_none_iff : afterToken? letter text = none ↔
    ∀ digit behind, text = letter :: '=' :: digit :: behind → isDecimalDigit digit = false := by
  constructor
  · rintro h digit behind rfl
    simpa [afterToken?] using h
  · intro h
    unfold afterToken?
    split
    · next c digit behind =>
      rw [ite_eq_right_iff]
      intro htoken
      obtain ⟨rfl, hdigit⟩ := by simpa using htoken
      rw [h digit behind rfl] at hdigit
      cases hdigit
    · rfl

/-- What follows the token at the front of a text. -/
theorem afterToken?_eq_some_iff : afterToken? letter text = some back ↔
    ∃ run, IsRun run back ∧ text = letter :: '=' :: (run ++ back) := by
  constructor
  · intro h
    unfold afterToken? at h
    split at h
    · next c digit rest =>
      simp only [Option.ite_none_right_eq_some, Option.some.injEq, Bool.and_eq_true,
        decide_eq_true_eq] at h
      obtain ⟨⟨rfl, hdigit⟩, rfl⟩ := h
      refine ⟨digit :: rest.takeWhile isDecimalDigit, ⟨List.cons_ne_nil _ _, ?_, ?_⟩, ?_⟩
      · intro c hc
        obtain rfl | hc := List.mem_cons.1 hc
        · exact hdigit
        · exact List.mem_takeWhile_imp hc
      · intro c hc
        have hnot := List.head?_dropWhile_not isDecimalDigit rest
        rw [Option.mem_def.1 hc] at hnot
        simpa using hnot
      · rw [List.cons_append, List.takeWhile_append_dropWhile]
    · cases h
  · rintro ⟨run, h, rfl⟩
    obtain ⟨digit, run, rfl⟩ := List.exists_cons_of_ne_nil h.ne_nil
    have hdigit : isDecimalDigit digit = true := h.isDigit digit List.mem_cons_self
    have hback := h.dropWhile_append
    rw [List.cons_append, List.dropWhile_cons_of_pos hdigit] at hback
    simp only [List.cons_append, afterToken?, hdigit, decide_true, Bool.and_self, if_true, hback]

theorem IsRun.afterToken? (h : IsRun run back) :
    afterToken? letter (letter :: '=' :: (run ++ back)) = some back :=
  afterToken?_eq_some_iff.2 ⟨run, h, rfl⟩

/-- A token at the front of a text is its first one. -/
theorem isFirstSize_nil_iff : IsFirstSize letter text [] run back ↔
    IsRun run back ∧ text = letter :: '=' :: (run ++ back) :=
  ⟨fun h => ⟨h.toIsRun, h.eq_append⟩, fun ⟨hrun, htext⟩ =>
    ⟨hrun, htext, fun _ _ _ _ _ => Nat.zero_le _⟩⟩

theorem isFirstSize_cons_iff : IsFirstSize letter (c :: text) (c :: front) run back ↔
    afterToken? letter (c :: text) = none ∧ IsFirstSize letter text front run back := by
  constructor
  · intro h
    refine ⟨afterToken?_eq_none_iff.2 fun digit behind htext => ?_, h.toIsRun, ?_,
      fun before digit behind htext hdigit => ?_⟩
    · by_contra hdigit
      have hle := h.first [] digit behind htext (by simpa using hdigit)
      simp at hle
    · simpa using h.eq_append
    · have hle := h.first (c :: before) digit behind (by rw [htext, List.cons_append]) hdigit
      simpa using hle
  · rintro ⟨hnone, h⟩
    refine ⟨h.toIsRun, by rw [h.eq_append, List.cons_append], ?_⟩
    intro before digit behind htext hdigit
    cases before with
    | nil =>
      rw [afterToken?_eq_none_iff.1 hnone digit behind htext] at hdigit
      cases hdigit
    | cons d before =>
      obtain ⟨-, htext⟩ := List.cons.inj htext
      simpa using h.first before digit behind htext hdigit

theorem firstSize?_token (h : IsRun run back) :
    firstSize? letter (letter :: '=' :: (run ++ back)) = some ([], run, back) := by
  rw [firstSize?, h.afterToken?, List.tail_cons, h.takeWhile_append]

theorem firstSize?_cons (h : afterToken? letter (c :: rest) = none) :
    firstSize? letter (c :: rest) =
      (firstSize? letter rest).map fun (front, run, back) => (c :: front, run, back) := by
  rw [firstSize?, h]

/-- The search for a token from the front finds the first one. -/
theorem firstSize?_eq_some_iff :
    firstSize? letter text = some (front, run, back) ↔ IsFirstSize letter text front run back := by
  induction text generalizing front with
  | nil =>
    refine iff_of_false (by simp [firstSize?]) fun h => ?_
    simpa using h.eq_append
  | cons c text ih =>
    cases hafter : afterToken? letter (c :: text) with
    | some after =>
      obtain ⟨found, hfound, htext⟩ := afterToken?_eq_some_iff.1 hafter
      rw [htext, firstSize?_token hfound]
      constructor
      · rintro ⟨⟩
        exact isFirstSize_nil_iff.2 ⟨hfound, rfl⟩
      · intro h
        cases front with
        | nil =>
          -- Two runs from the same place are one, as each of them takes all of its digits.
          obtain ⟨hrun, heq⟩ := isFirstSize_nil_iff.1 h
          have htail : found ++ after = run ++ back := by simpa using heq
          obtain rfl : found = run := by
            rw [← hfound.takeWhile_append, htail, hrun.takeWhile_append]
          rw [List.append_cancel_left htail]
        | cons d front =>
          obtain ⟨rfl, -⟩ := List.cons.inj h.eq_append
          have hnone := (isFirstSize_cons_iff.1 h).1
          rw [hfound.afterToken?] at hnone
          cases hnone
    | none =>
      rw [firstSize?_cons hafter, Option.map_eq_some_iff]
      constructor
      · rintro ⟨⟨inner, run, back⟩, hinner, ⟨⟩⟩
        exact isFirstSize_cons_iff.2 ⟨hafter, ih.1 hinner⟩
      · intro h
        cases front with
        | nil =>
          obtain ⟨hrun, htext⟩ := isFirstSize_nil_iff.1 h
          rw [htext, hrun.afterToken?] at hafter
          cases hafter
        | cons d front =>
          obtain ⟨rfl, -⟩ := List.cons.inj h.eq_append
          exact ⟨(front, run, back), ih.2 (isFirstSize_cons_iff.1 h).2, rfl⟩

theorem firstSize?_eq_none_iff : firstSize? letter text = none ↔ HasNoSize letter text := by
  constructor
  · intro h before digit behind htext
    induction before generalizing text with
    | nil =>
      rw [htext, List.nil_append, firstSize?] at h
      split at h
      · cases h
      · next hnone => exact afterToken?_eq_none_iff.1 hnone digit behind rfl
    | cons c before ih =>
      rw [htext, List.cons_append, firstSize?] at h
      split at h
      · cases h
      · exact ih (Option.map_eq_none_iff.1 h) rfl
  · intro h
    by_contra hsome
    obtain ⟨⟨front, run, back⟩, hfirst⟩ := Option.ne_none_iff_exists'.1 hsome
    have hfound := firstSize?_eq_some_iff.1 hfirst
    obtain ⟨digit, run, rfl⟩ := List.exists_cons_of_ne_nil hfound.ne_nil
    have hdigit := h front digit (run ++ back) (by rw [hfound.eq_append, List.cons_append])
    rw [hfound.isDigit digit List.mem_cons_self] at hdigit
    cases hdigit

/-! ### One size set -/

/-- The digits of the first token of the letter are replaced, or there is no token. -/
inductive Resized (letter : Char) (digits : Text) : Text → Text → Prop where
  | first {text front run back : Text} (h : IsFirstSize letter text front run back) :
    Resized letter digits text (front ++ letter :: '=' :: (digits ++ back))
  | none {text : Text} (h : HasNoSize letter text) : Resized letter digits text text

theorem setFirst_token (h : IsRun run back) :
    setFirst letter digits (letter :: '=' :: (run ++ back)) =
      letter :: '=' :: (digits ++ back) := by
  rw [setFirst, h.afterToken?]
  rfl

theorem setFirst_cons (h : afterToken? letter (c :: rest) = none) :
    setFirst letter digits (c :: rest) = c :: setFirst letter digits rest := by
  rw [setFirst, h]

theorem setFirst_eq_of_isFirstSize (h : IsFirstSize letter text front run back) :
    setFirst letter digits text = front ++ letter :: '=' :: (digits ++ back) := by
  induction front generalizing text with
  | nil =>
    obtain ⟨hrun, rfl⟩ := isFirstSize_nil_iff.1 h
    rw [setFirst_token hrun, List.nil_append]
  | cons c front ih =>
    cases text with
    | nil => cases h.eq_append
    | cons d text =>
      obtain ⟨rfl, -⟩ := List.cons.inj h.eq_append
      obtain ⟨hnone, hrest⟩ := isFirstSize_cons_iff.1 h
      rw [setFirst_cons hnone, ih hrest, List.cons_append]

theorem setFirst_eq_of_hasNoSize (h : HasNoSize letter text) :
    setFirst letter digits text = text := by
  induction text with
  | nil => rfl
  | cons c text ih =>
    have hnone : afterToken? letter (c :: text) = none :=
      afterToken?_eq_none_iff.2 fun digit behind htext => h [] digit behind htext
    have hrest : HasNoSize letter text := fun before digit behind htext =>
      h (c :: before) digit behind (by rw [htext, List.cons_append])
    rw [setFirst_cons hnone, ih hrest]

/-- **Setting a size** replaces the digits of the first token and nothing else. -/
theorem resized_iff : Resized letter digits text out ↔ out = setFirst letter digits text := by
  constructor
  · rintro (h | h)
    · exact (setFirst_eq_of_isFirstSize h).symm
    · exact (setFirst_eq_of_hasNoSize h).symm
  · rintro rfl
    cases hfirst : firstSize? letter text with
    | none =>
      have hno := firstSize?_eq_none_iff.1 hfirst
      rw [setFirst_eq_of_hasNoSize hno]
      exact .none hno
    | some found =>
      have hfound := firstSize?_eq_some_iff.1 hfirst
      rw [setFirst_eq_of_isFirstSize hfound]
      exact .first hfound

end SiteWeave.ImageSize
