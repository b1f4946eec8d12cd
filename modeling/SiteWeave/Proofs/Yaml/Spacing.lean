import Mathlib.Data.List.TakeWhile
import SiteWeave.Proofs.Yaml.Scalars
import SiteWeave.Yaml.TokenStream

/-!
# Spacing between tokens in YAML

The blanks of JSON are passed between two tokens of YAML, except for a tab where a line could be
indented: outside of flow collections none may stand behind the start of the text or a line break.

## Main definitions

* `Yaml.hasStrayTab`: whether a tab stands where a line is indented.
* `Yaml.ScanState.StartsToken`: whether a text goes on with a token.
* `Yaml.ScanState.Skips`: where blanks lead to.

## Main results

* `Yaml.ScanState.skips_skipSpacing`: blanks are passed, unless a tab is stray.
-/

namespace SiteWeave.Yaml

/-! ### Blanks -/

/-- Whether a tab stands where a line is indented; `startsLine` says whether this is so from the
start on. -/
def hasStrayTab (startsLine : Bool) : Text → Bool
  | [] => false
  | c :: blank =>
    if c = '\t' then startsLine || hasStrayTab startsLine blank
    else hasStrayTab (startsLine || isBreak c) blank

theorem hasStrayTab_append (startsLine : Bool) (a b : Text) :
    hasStrayTab startsLine (a ++ b) =
      (hasStrayTab startsLine a || hasStrayTab (startsLine || a.any isBreak) b) := by
  induction a generalizing startsLine with
  | nil => simp [hasStrayTab]
  | cons c a ih =>
    rw [List.cons_append, hasStrayTab, hasStrayTab, ih, ih, List.any_cons]
    by_cases hc : c = '\t'
    · subst hc
      cases startsLine <;> simp [isBreak]
    · simp [hc, Bool.or_assoc]

namespace ScanState

variable {σ : ScanState} {rest : Text}

/-- Whether a text goes on with a token. -/
def StartsToken (text : Text) : Prop :=
  ∀ c ∈ text.head?, isSpacing c = false ∧ c ≠ '#' ∧ c ≠ '\ufeff'

theorem StartsToken.passBreak_eq {cursor : Cursor} (h : StartsToken rest)
    (hunread : cursor.unread = rest) : cursor.passBreak = (none, cursor) := by
  cases rest with
  | nil => simp [Cursor.passBreak, hunread]
  | cons c rest =>
    have hc := (h c rfl).1
    rw [isSpacing, Bool.or_eq_false_iff] at hc
    exact passBreak_of_not_isBreak hunread hc.2

/-- Whether a character is passed on the way to the next token of a line. -/
def passes (σ : ScanState) (c : Char) : Bool :=
  c = ' ' || (σ.inFlow || !σ.keyAllowed) && c = '\t'

theorem StartsToken.not_passes (h : StartsToken rest) :
    ∀ c ∈ rest.head?, σ.passes c = false ∧ c ≠ '#' := by
  intro c hc
  obtain ⟨hspacing, hcomment, -⟩ := h c hc
  simp only [isSpacing, isBlank, Bool.or_eq_false_iff, decide_eq_false_iff_not] at hspacing
  exact ⟨by simp [passes, hspacing.1.1, hspacing.1.2], hcomment⟩

theorem skipSpacing_cons (b : Char) (bound : Text) {run more : Text}
    (h : σ.cursor.unread = run ++ more) (hrun : ∀ c ∈ run, σ.passes c)
    (hmore : ∀ c ∈ more.head?, σ.passes c = false ∧ c ≠ '#') :
    skipSpacing (b :: bound) σ =
      match (σ.cursor.advance run.length).passBreak with
      | (some _, next) =>
        skipSpacing bound { σ with cursor := next, keyAllowed := σ.keyAllowed || !σ.inFlow }
      | (none, next) => { σ with cursor := next } := by
  have htake : σ.cursor.unread.takeWhile σ.passes = run := by
    rw [h, List.takeWhile_append_of_pos hrun]
    cases more with
    | nil => simp
    | cons c more => simp [(hmore c rfl).1]
  have hskip : (σ.cursor.skipWhile fun c =>
      c = ' ' || (σ.inFlow || !σ.keyAllowed) && c = '\t') = σ.cursor.advance run.length := by
    change σ.cursor.skipWhile σ.passes = _
    rw [Cursor.skipWhile, Cursor.takeWhile, htake]
  have hcomment : (σ.cursor.advance run.length).peek? ≠ some '#' := by
    rw [Cursor.peek?, Cursor.unread_advance run h]
    exact fun hc => (hmore '#' hc).2 rfl
  rcases hpass : (σ.cursor.advance run.length).passBreak with ⟨_ | _, next⟩ <;>
    simp only [skipSpacing, hskip, if_neg hcomment, hpass]

theorem isBreak_of_passes {c : Char} (h : σ.passes c) : isBreak c = false := by
  simp only [passes, Bool.or_eq_true, Bool.and_eq_true, decide_eq_true_eq] at h
  rcases h with rfl | ⟨-, rfl⟩ <;> rfl

theorem hasStrayTab_of_passes {run : Text} (hrun : ∀ c ∈ run, σ.passes c)
    (hflow : σ.inFlow = false) :
    hasStrayTab σ.keyAllowed run = false ∧ run.any isBreak = false := by
  induction run with
  | nil => exact ⟨rfl, rfl⟩
  | cons c run ih =>
    rw [List.forall_mem_cons] at hrun
    have hc := hrun.1
    simp only [passes, hflow, Bool.false_or, Bool.or_eq_true, Bool.and_eq_true, decide_eq_true_eq,
      Bool.not_eq_true'] at hc
    rcases hc with rfl | ⟨hkey, rfl⟩
    · simpa [hasStrayTab, isBreak] using ih hrun.2
    · simpa [hasStrayTab, isBreak, hkey] using ih hrun.2

theorem hasStrayTab_of_isBreak {startsLine : Bool} {front : Text} (h : ∀ c ∈ front, isBreak c) :
    hasStrayTab startsLine front = false := by
  induction front generalizing startsLine with
  | nil => rfl
  | cons c front ih =>
    rw [List.forall_mem_cons] at h
    rw [hasStrayTab, if_neg (by rintro rfl; exact absurd h.1 (by decide)), ih h.2]

/-- Whether a tab among blanks stands where a block could be indented. -/
def isStray (σ : ScanState) (blank : Text) : Bool :=
  !σ.inFlow && hasStrayTab σ.keyAllowed blank

theorem isStray_append_of_passes {run : Text} (hrun : ∀ c ∈ run, σ.passes c) (more : Text) :
    σ.isStray (run ++ more) = σ.isStray more := by
  cases hflow : σ.inFlow with
  | true => simp [isStray, hflow]
  | false =>
    obtain ⟨htab, hbreak⟩ := hasStrayTab_of_passes hrun hflow
    rw [isStray, hasStrayTab_append, htab, hbreak, Bool.false_or, Bool.or_false, isStray]

theorem isStray_break {front : Text} (hne : front ≠ []) (h : ∀ c ∈ front, isBreak c)
    (behind : Text) (next : Cursor) :
    σ.isStray (front ++ behind) =
      isStray { σ with cursor := next, keyAllowed := σ.keyAllowed || !σ.inFlow } behind := by
  have hany : front.any isBreak :=
    List.any_eq_true.2 ⟨_, List.head_mem hne, h _ (List.head_mem hne)⟩
  rw [isStray, hasStrayTab_append, hasStrayTab_of_isBreak h, hany, Bool.or_true, Bool.false_or]
  change _ = (!σ.inFlow && hasStrayTab (σ.keyAllowed || !σ.inFlow) behind)
  cases σ.inFlow with
  | true => rfl
  | false => rw [Bool.not_false, Bool.or_true]

/-- Where blanks lead to: behind them, or to a tab that is stray. -/
structure Skips (σ : ScanState) (blank : Text) (τ : ScanState) : Prop where
  /-- The blanks are passed, and within a flow collection nothing else changes. -/
  passed : σ.isStray blank = false →
    ∃ next key, τ = { σ with cursor := next, keyAllowed := key } ∧
      σ.cursor.Passes blank next ∧ (σ.inFlow → key = σ.keyAllowed)
  /-- A stray tab is the next character. -/
  stopped : σ.isStray blank = true →
    ∃ next, τ = { σ with cursor := next, keyAllowed := true } ∧ next.peek? = some '\t'

theorem skips_run (b : Char) (bound : Text) {run : Text} (h : σ.cursor.unread = run ++ rest)
    (hrun : ∀ c ∈ run, σ.passes c) (hrest : StartsToken rest) :
    σ.Skips run (skipSpacing (b :: bound) σ) where
  passed _ := by
    refine ⟨σ.cursor.advance run.length, σ.keyAllowed, ?_,
      Cursor.passes_advance run h fun c hc => isBreak_of_passes (hrun c hc), fun _ => rfl⟩
    rw [skipSpacing_cons b bound h hrun hrest.not_passes,
      hrest.passBreak_eq (Cursor.unread_advance run h)]
  stopped hstray := by
    rw [← List.append_nil run, isStray_append_of_passes hrun] at hstray
    simp [isStray, hasStrayTab] at hstray

/-- A tab that is not passed ends the spacing. -/
theorem skips_tab (b : Char) (bound : Text) {run more : Text}
    (h : σ.cursor.unread = run ++ '\t' :: (more ++ rest)) (hrun : ∀ c ∈ run, σ.passes c)
    (htab : σ.passes '\t' = false) :
    σ.Skips (run ++ '\t' :: more) (skipSpacing (b :: bound) σ) := by
  have hskip : skipSpacing (b :: bound) σ = { σ with cursor := σ.cursor.advance run.length } := by
    rw [skipSpacing_cons b bound h hrun, passBreak_of_not_isBreak (Cursor.unread_advance run h) rfl]
    rintro c ⟨⟩
    exact ⟨htab, by decide⟩
  simp only [passes, Bool.or_eq_false_iff, Bool.and_eq_false_iff, decide_eq_false_iff_not,
    not_true, or_false, Bool.not_eq_false'] at htab
  obtain ⟨-, hflow, hkey⟩ := htab
  have hstray : σ.isStray (run ++ '\t' :: more) = true := by
    rw [isStray_append_of_passes hrun, isStray, hflow, hkey]
    rfl
  refine ⟨fun h => absurd (hstray.symm.trans h) (by decide), fun _ => ?_⟩
  refine ⟨_, hskip.trans (by rw [← hkey]), ?_⟩
  rw [Cursor.peek?, Cursor.unread_advance run h]
  rfl

/-- Behind a line break the blanks are skipped as from its next line on, where blocks may be
indented. -/
theorem Skips.of_break {run front behind : Text} {next : Cursor} {τ : ScanState}
    (hrun : ∀ c ∈ run, σ.passes c) (hne : front ≠ []) (hfront : ∀ c ∈ front, isBreak c)
    (hpass : σ.cursor.Passes (run ++ front) next)
    (h : Skips { σ with cursor := next, keyAllowed := σ.keyAllowed || !σ.inFlow } behind τ) :
    σ.Skips (run ++ (front ++ behind)) τ := by
  have hsame := (isStray_append_of_passes hrun (front ++ behind)).trans
    (isStray_break hne hfront behind next)
  refine ⟨fun hfine => ?_, fun hstray => h.stopped (hsame ▸ hstray)⟩
  obtain ⟨last, key, hlast, hlastPass, hkey⟩ := h.passed (hsame ▸ hfine)
  refine ⟨last, key, hlast, List.append_assoc run front behind ▸ hpass.trans hlastPass,
    fun hflow => ?_⟩
  simpa [hflow] using hkey hflow

/-- A line break is passed with the blanks in front of it, and blocks may be indented behind it. -/
theorem skipSpacing_break (b : Char) (bound : Text) {run blank : Text} {c : Char}
    (h : σ.cursor.unread = run ++ (c :: blank ++ rest)) (hrun : ∀ c ∈ run, σ.passes c)
    (hc : c = '\n' ∨ c = '\r') (hrest : StartsToken rest) :
    ∃ front behind next, c :: blank = front ++ behind ∧ front ≠ [] ∧ (∀ c ∈ front, isBreak c) ∧
      σ.cursor.Passes (run ++ front) next ∧
      skipSpacing (b :: bound) σ =
        skipSpacing bound { σ with cursor := next, keyAllowed := σ.keyAllowed || !σ.inFlow } := by
  have hhead : rest.head? ≠ some '\n' := fun h => absurd (hrest '\n' h).1 (by decide)
  obtain ⟨front, behind, next, hsplit, hne, hfront, hbreak, hpass⟩ :=
    passBreak_blank (Cursor.unread_advance run h) hc hhead
  have hrunPass := Cursor.passes_advance run h fun c hc => isBreak_of_passes (hrun c hc)
  refine ⟨front, behind, next, hsplit, hne, hfront, hrunPass.trans hpass, ?_⟩
  rw [skipSpacing_cons b bound h hrun, hbreak]
  rintro d ⟨⟩
  rcases hc with rfl | rfl <;> simp [passes]

theorem eq_break_of_not_passes {c : Char} (hspace : Reader.isSpace c) (hpasses : σ.passes c = false)
    (htab : c ≠ '\t') : c = '\n' ∨ c = '\r' := by
  simp only [Reader.isSpace, passes, Bool.or_eq_true, decide_eq_true_eq,
    Bool.or_eq_false_iff, decide_eq_false_iff_not] at hspace hpasses
  tauto

/-- **Blanks between tokens** are passed, unless a tab stands where a block could be indented. -/
theorem skips_skipSpacing (bound blank : Text) (rest : Text) (σ : ScanState)
    (hunread : σ.cursor.unread = blank ++ rest) (hblank : ∀ c ∈ blank, Reader.isSpace c)
    (hrest : StartsToken rest) (hbound : blank.length ≤ bound.length) :
    σ.Skips blank (skipSpacing bound σ) := by
  induction bound generalizing blank σ with
  | nil =>
    obtain rfl := List.length_eq_zero_iff.1 (Nat.le_zero.1 hbound)
    exact ⟨fun _ => ⟨σ.cursor, σ.keyAllowed, rfl, .refl _, fun _ => rfl⟩,
      by simp [isStray, hasStrayTab]⟩
  | cons b bound ih =>
    -- the blanks that are passed on the line, and what stops them
    obtain ⟨run, more, rfl, hrun, hmore⟩ : ∃ run more, blank = run ++ more ∧
        (∀ c ∈ run, σ.passes c) ∧ ∀ c ∈ more.head?, σ.passes c = false :=
      ⟨blank.takeWhile σ.passes, blank.dropWhile σ.passes, List.takeWhile_append_dropWhile.symm,
        fun c hc => List.mem_takeWhile_imp hc, fun c hc => by
          simpa [Option.mem_def.1 hc] using List.head?_dropWhile_not σ.passes blank⟩
    rw [List.append_assoc] at hunread
    match more with
    | [] =>
      rw [List.append_nil]
      exact skips_run b bound hunread hrun hrest
    | c :: more =>
      by_cases htab : c = '\t'
      · subst htab
        exact skips_tab b bound hunread hrun (hmore '\t' rfl)
      have hbreak := eq_break_of_not_passes (hblank c (by simp)) (hmore c rfl) htab
      obtain ⟨front, behind, next, hsplit, hne, hfront, hpass, hskip⟩ :=
        skipSpacing_break b bound hunread hrun hbreak hrest
      rw [hsplit] at hunread hblank hbound ⊢
      rw [← List.append_assoc, ← List.append_assoc] at hunread
      have hlength : behind.length ≤ bound.length := by
        have hpos := List.length_pos_of_ne_nil hne
        simp only [List.length_append, List.length_cons] at hbound
        omega
      rw [hskip]
      refine Skips.of_break hrun hne hfront hpass (ih behind _ ?_ ?_ hlength)
      · exact hpass.unread_eq (by rw [hunread, List.append_assoc])
      · exact fun c hc => hblank c (by simp [hc])

end ScanState

end SiteWeave.Yaml
