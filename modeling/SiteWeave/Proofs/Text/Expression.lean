import SiteWeave.Proofs.Text.Occurrence
import Mathlib.Data.List.Forall2

/-!
# Search expressions

An expression is a row of terms, which are fixed texts and runs of characters of one kind. A run is
as long as possible or as short as possible, and gives way where the terms behind it do not read on
from there: the cuts that a term allows come in its order of preference, and the first one counts
from which the other terms read on. A search takes the first place where the expression reads at
all.

Nothing of this backtracking is left in expressions that begin with a fixed text and go on with a
run that ends where the next fixed text begins, or that ends anywhere: they are read from one first
occurrence to the next.

## Main definitions

* `Expression.Term`, `Expression`: terms and rows of terms.
* `Expression.at?`: the reading of the start of a text.
* `Expression.search?`, `Expression.Hit`: the first place that is read, and its parts.
* `Expression.replaceFirst?`: the text with something else in that place.

## Main results

* `Expression.at?_longest_literal`: a longest run in front of a fixed text it cannot take in.
* `Expression.at?_anything`: a shortest run of any characters leads a search of its own.
* `Expression.search?_literal`: the search for a fixed text and what stands anywhere behind it.
* `Expression.forall₂_of_search?`: each term reads its part of what is found.
-/

namespace SiteWeave

/-- A term of a search expression. -/
inductive Expression.Term where
  /-- A fixed text. -/
  | literal (text : Text)
  /-- A run of characters of one kind, as long as possible if it is greedy, else as short as
  possible. -/
  | run (greedy : Bool) (kind : Char → Bool)

/-- A search expression: a row of terms. -/
abbrev Expression := List Expression.Term

namespace Expression

/-- A run of any characters, as short as possible. -/
def anything : Term := .run false fun _ => true

/-- A run of characters of one kind, as long as possible. -/
def longest (kind : Char → Bool) : Term := .run true kind

/-- The ways to cut a text behind a run of characters, in the order of preference. -/
def runs (greedy : Bool) (kind : Char → Bool) : Text → List (Text × Text)
  | [] => [([], [])]
  | c :: rest =>
    let longer :=
      if kind c then (runs greedy kind rest).map fun (front, back) => (c :: front, back) else []
    if greedy then longer ++ [([], c :: rest)] else ([], c :: rest) :: longer

/-- The ways to cut a text behind a term, in the order of preference. -/
def Term.cuts : Term → Text → List (Text × Text)
  | .literal fixed, text => (fixed.isPrefixOf? text).toList.map fun rest => (fixed, rest)
  | .run greedy kind, text => runs greedy kind text

/-- The parts of a text that the terms of an expression read, and the text behind them. -/
structure Reading where
  parts : List Text
  behind : Text
deriving DecidableEq

/-- The text that is read. -/
def Reading.text (reading : Reading) : Text := reading.parts.flatten

/-- The reading with one more part in front. -/
def Reading.cons (part : Text) (reading : Reading) : Reading :=
  { reading with parts := part :: reading.parts }

/-- The reading of the start of a text. -/
def at? : Expression → Text → Option Reading
  | [], text => some ⟨[], text⟩
  | term :: terms, text =>
    (term.cuts text).findSome? fun (part, rest) => (at? terms rest).map (Reading.cons part)

/-- What a search finds: a reading with the text in front of it. -/
structure Hit extends Reading where
  front : Text
deriving DecidableEq

/-- The first place in a text where the expression reads. -/
def search? (terms : Expression) : Text → Option Hit
  | [] => (at? terms []).map fun reading => ⟨reading, []⟩
  | c :: rest =>
    match at? terms (c :: rest) with
    | some reading => some ⟨reading, []⟩
    | none => (search? terms rest).map fun hit => { hit with front := c :: hit.front }

/-- The text with something made of the parts in the place that is found. -/
def replaceFirst? (terms : Expression) (make : List Text → Text) (text : Text) : Option Text :=
  (search? terms text).map fun hit => hit.front ++ make hit.parts ++ hit.behind

open Text

variable {term : Term} {terms : Expression} {text fixed front rest part : Text}
  {kind : Char → Bool} {reading : Reading} {hit : Hit} {c : Char}

/-! ### What is read -/

/-- The texts that a term reads. -/
def Term.Reads : Term → Text → Prop
  | .literal fixed, part => part = fixed
  | .run _ kind, part => ∀ c ∈ part, kind c = true

/-- A run is empty, or it goes on behind a character of its kind. -/
theorem mem_runs_cons_iff {greedy : Bool} : (front, rest) ∈ runs greedy kind (c :: text) ↔
    (front = [] ∧ rest = c :: text) ∨
      (kind c = true ∧ ∃ tail, (tail, rest) ∈ runs greedy kind text ∧ front = c :: tail) := by
  rw [runs]
  cases greedy <;> cases kind c <;> simp <;> grind

theorem reads_of_mem_runs {greedy : Bool} (h : (front, rest) ∈ runs greedy kind text) :
    ∀ c ∈ front, kind c = true := by
  induction text generalizing front with
  | nil =>
    obtain ⟨rfl, -⟩ := by simpa [runs] using h
    simp
  | cons c text ih =>
    obtain ⟨rfl, -⟩ | ⟨hkind, tail, htail, rfl⟩ := mem_runs_cons_iff.1 h
    · simp
    · exact List.forall_mem_cons.2 ⟨hkind, ih htail⟩

theorem reads_of_mem_cuts (h : (front, rest) ∈ term.cuts text) : term.Reads front := by
  cases term with
  | literal fixed =>
    obtain ⟨_, -, heq⟩ := List.mem_map.1 h
    exact (Prod.mk.inj heq).1.symm
  | run greedy kind => exact reads_of_mem_runs h

/-- Each term reads its part. -/
theorem forall₂_of_at? (h : at? terms text = some reading) :
    List.Forall₂ Term.Reads terms reading.parts := by
  induction terms generalizing text reading with
  | nil =>
    obtain rfl := by simpa [at?] using h
    exact .nil
  | cons term terms ih =>
    obtain ⟨⟨part, rest⟩, hcut, hread⟩ := List.exists_of_findSome?_eq_some h
    obtain ⟨others, hothers, rfl⟩ := Option.map_eq_some_iff.1 hread
    exact .cons (reads_of_mem_cuts hcut) (ih hothers)

/-- Each term reads its part of what is found. -/
theorem forall₂_of_search? (h : search? terms text = some hit) :
    List.Forall₂ Term.Reads terms hit.parts := by
  induction text generalizing hit with
  | nil =>
    obtain ⟨reading, hread, rfl⟩ := Option.map_eq_some_iff.1 h
    exact forall₂_of_at? hread
  | cons c text ih =>
    rw [search?] at h
    split at h
    · next reading hread =>
      obtain rfl := Option.some.inj h
      exact forall₂_of_at? hread
    · obtain ⟨inner, hinner, rfl⟩ := Option.map_eq_some_iff.1 h
      have hreads : List.Forall₂ Term.Reads terms inner.parts := ih hinner
      exact hreads

/-! ### One term after another -/

/-- The reading with one more character in the first part. -/
def Reading.extend (c : Char) (reading : Reading) : Reading :=
  { reading with parts := reading.parts.modifyHead (c :: ·) }

@[simp] theorem Reading.extend_comp_cons (c : Char) (part : Text) :
    Reading.extend c ∘ Reading.cons part = Reading.cons (c :: part) := rfl

theorem at?_literal (fixed : Text) (terms : Expression) (text : Text) :
    at? (.literal fixed :: terms) text =
      (fixed.isPrefixOf? text).bind fun rest => (at? terms rest).map (Reading.cons fixed) := by
  rw [at?, Term.cuts]
  cases fixed.isPrefixOf? text with
  | none => rfl
  | some rest => simp

theorem at?_literal_cons_of_ne {d : Char} (h : c ≠ d) (fixed : Text) (terms : Expression)
    (text : Text) : at? (.literal (c :: fixed) :: terms) (d :: text) = none := by
  simp [at?_literal, List.isPrefixOf?, h]

theorem findSome?_map_cons (cuts : List (Text × Text)) (terms : Expression) (c : Char) :
    (cuts.map fun (front, back) => (c :: front, back)).findSome?
        (fun (part, rest) => (at? terms rest).map (Reading.cons part)) =
      (cuts.findSome? fun (part, rest) => (at? terms rest).map (Reading.cons part)).map
        (Reading.extend c) := by
  rw [List.findSome?_map, List.map_findSome?]
  congr 1
  funext ⟨part, rest⟩
  exact (Option.map_map (Reading.extend c) (Reading.cons part) _).symm

theorem at?_longest_nil : at? (longest kind :: terms) [] =
    (at? terms []).map (Reading.cons []) := by
  simp [at?, longest, Term.cuts, runs]

theorem at?_longest_cons_of_pos (h : kind c = true) :
    at? (longest kind :: terms) (c :: text) =
      ((at? (longest kind :: terms) text).map (Reading.extend c)).or
        ((at? terms (c :: text)).map (Reading.cons [])) := by
  simp only [at?, longest, Term.cuts, runs, h, if_true, List.findSome?_append, findSome?_map_cons,
    List.findSome?_singleton]

theorem at?_longest_cons_of_neg (h : kind c = false) :
    at? (longest kind :: terms) (c :: text) = (at? terms (c :: text)).map (Reading.cons []) := by
  simp [at?, longest, Term.cuts, runs, h]

theorem at?_anything_cons : at? (anything :: terms) (c :: text) =
    ((at? terms (c :: text)).map (Reading.cons [])).or
      ((at? (anything :: terms) text).map (Reading.extend c)) := by
  simp only [at?, anything, Term.cuts, runs, if_true, Bool.false_eq_true, if_false,
    List.findSome?_cons, findSome?_map_cons]
  cases at? terms (c :: text) <;> rfl

/-- A longest run in front of a fixed text ends where its characters end, if the fixed text begins
with another one. -/
theorem at?_longest_literal (h : kind c = false) (fixed : Text) (terms : Expression)
    (text : Text) :
    at? (longest kind :: .literal (c :: fixed) :: terms) text =
      (at? (.literal (c :: fixed) :: terms) (text.dropWhile kind)).map
        (Reading.cons (text.takeWhile kind)) := by
  induction text with
  | nil => exact at?_longest_nil
  | cons d text ih =>
    cases hd : kind d with
    | true =>
      have hne : c ≠ d := fun heq => by simp [← heq, h] at hd
      rw [at?_longest_cons_of_pos hd, ih, at?_literal_cons_of_ne hne,
        List.dropWhile_cons_of_pos hd, List.takeWhile_cons_of_pos hd]
      simp
    | false =>
      rw [at?_longest_cons_of_neg hd, List.dropWhile_cons_of_neg (by simp [hd]),
        List.takeWhile_cons_of_neg (by simp [hd])]

/-- A longest run up to a character ends at its first occurrence. -/
theorem at?_longest_ne (c : Char) (terms : Expression) (text : Text) :
    at? (longest (· != c) :: .literal [c] :: terms) text =
      (splitFirst? [c] text).bind fun (front, rest) =>
        (at? terms rest).map (Reading.cons front ∘ Reading.cons [c]) := by
  induction text with
  | nil => rw [at?_longest_nil, at?_literal]; rfl
  | cons d text ih =>
    by_cases hd : c = d
    · subst hd
      rw [at?_longest_cons_of_neg (by simp), at?_literal, splitFirst?]
      simp [List.isPrefixOf?]
    · rw [at?_longest_cons_of_pos (by simpa using Ne.symm hd), ih, at?_literal_cons_of_ne hd,
        splitFirst?]
      cases splitFirst? [c] text with
      | none => simp [List.isPrefixOf?, hd]
      | some cut => simp [List.isPrefixOf?, hd, ← Function.comp_assoc]

/-- A shortest run of any characters in front of other terms leads a search for them. -/
theorem at?_anything (terms : Expression) (text : Text) :
    at? (anything :: terms) text =
      (search? terms text).map fun hit => hit.toReading.cons hit.front := by
  induction text with
  | nil => simp [at?, anything, Term.cuts, runs, search?, Function.comp_def]
  | cons c text ih =>
    rw [at?_anything_cons, search?, ih]
    cases at? terms (c :: text) with
    | none =>
      cases search? terms text <;> rfl
    | some reading => rfl

/-! ### Searching from one first occurrence to the next -/

/-- What is read somewhere in a text is read as well with more in front. -/
def Skips (terms : Expression) : Prop :=
  ∀ more text, (at? terms text).isSome = true → (at? terms (more ++ text)).isSome = true

theorem isSome_search?_append (more : Text) (h : (search? terms text).isSome = true) :
    (search? terms (more ++ text)).isSome = true := by
  induction more with
  | nil => exact h
  | cons c more ih =>
    rw [List.cons_append, search?]
    split
    · rfl
    · rwa [Option.isSome_map]

theorem skips_anything (terms : Expression) : Skips (anything :: terms) := by
  intro more text h
  rw [at?_anything, Option.isSome_map] at h ⊢
  exact isSome_search?_append more h

theorem Skips.longest_ne (h : Skips terms) (c : Char) :
    Skips (longest (· != c) :: .literal [c] :: terms) := by
  intro more text hread
  rw [at?_longest_ne] at hread ⊢
  obtain ⟨reading, hreading⟩ := Option.isSome_iff_exists.1 hread
  obtain ⟨⟨front, rest⟩, hcut, hrest⟩ := Option.bind_eq_some_iff.1 hreading
  have htext : more ++ text = more ++ front ++ [c] ++ rest := by
    simp [eq_append_of_splitFirst? hcut]
  cases hmore : splitFirst? [c] (more ++ text) with
  | none => exact absurd ⟨more ++ front, rest, htext.symm⟩ (splitFirst?_eq_none_iff.1 hmore)
  | some cut =>
    obtain ⟨front', rest'⟩ := cut
    obtain ⟨between, rfl⟩ := isSuffix_of_splitFirst? hmore htext
    have hsome : (at? terms rest).isSome = true := by
      simpa using congrArg Option.isSome hrest
    simpa using h between rest hsome

/-- The search for a fixed text and for what stands anywhere behind it ends at the first occurrence
of the fixed text. -/
theorem search?_literal (hne : fixed ≠ []) (h : Skips terms) (text : Text) :
    search? (.literal fixed :: terms) text =
      (splitFirst? fixed text).bind fun (front, rest) =>
        (at? terms rest).map fun reading => ⟨reading.cons fixed, front⟩ := by
  obtain ⟨d, fixed, rfl⟩ := List.exists_cons_of_ne_nil hne
  induction text with
  | nil => rfl
  | cons c text ih =>
    rw [search?, at?_literal, splitFirst?]
    cases hprefix : (d :: fixed).isPrefixOf? (c :: text) with
    | none =>
      rw [ih]
      cases splitFirst? (d :: fixed) text <;> simp [Function.comp_def]
    | some rest =>
      cases hrest : at? terms rest with
      | some reading => simp [hrest]
      | none =>
        -- An occurrence further on has less behind it, and that is read no more than the whole.
        rw [ih]
        cases hcut : splitFirst? (d :: fixed) text with
        | none => simp [hrest]
        | some cut =>
          obtain ⟨front, rest'⟩ := cut
          have hfirst : splitFirst? (d :: fixed) (c :: text) = some ([], rest) := by
            rw [splitFirst?, hprefix]
          have htext : c :: text = c :: front ++ (d :: fixed) ++ rest' := by
            simp [eq_append_of_splitFirst? hcut]
          obtain ⟨between, rfl⟩ := isSuffix_of_splitFirst? hfirst htext
          have hnone : at? terms rest' = none := by
            by_contra hsome
            have hskip := h between rest' (Option.isSome_iff_ne_none.2 hsome)
            simp [hrest] at hskip
          simp [hrest, hnone]

/-- The run begins behind the first occurrence and ends in front of the nearest one. -/
example : search? [.literal ['<'], anything, .literal ['>']] "a<<b>c>".toList =
    some ⟨⟨[['<'], ['<', 'b'], ['>']], "c>".toList⟩, ['a']⟩ := by decide

end Expression

end SiteWeave
