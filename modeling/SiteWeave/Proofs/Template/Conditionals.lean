import SiteWeave.Proofs.Template.Grammar
import SiteWeave.Proofs.Text.Expression

/-!
# The conditionals of any text

Any text may be a template, be it with half a tag, with one conditional in another or with a
conditional that nothing closes. What the first pass makes of it is told here by places alone: it
goes from one opening tag with a closing tag behind it to the next, and takes up its search behind
the closing tag.

The pass is searched for by an expression whose runs go back where the rest of it does not read. The
kinds of characters in it exclude each other, so there is one way to read it: blanks end where the
path starts, and the path where the tag ends. The text in between ends at the first closing tag. An
opening tag that is closed nowhere hides no later one, because nothing behind it is closed either.

## Main definitions

* `Template.Opens`, `Template.Begins`: an opening tag, and one with a closing tag behind it.
* `Template.Scan`: what the first pass leaves of a text, told by places.
* `Template.readings`: the ways to read a conditional, in the order of preference.
* `Template.replaceConditionals`: the search for conditionals with each of them replaced.

## Main results

* `Template.replaceConditionals_eq`: the first pass replaces what the search finds.
* `Template.resolveConditionals_eq_iff_scan`: the first pass, told by places.
-/

namespace SiteWeave

open Text Expression

namespace Template

/-- An opening tag with its path at the front of a text, and the text behind the tag. -/
def Opens (path body text : Text) : Prop :=
  ∃ blanks, blanks ≠ [] ∧ (∀ c ∈ blanks, isBlank c = true) ∧
    path ≠ [] ∧ (∀ c ∈ path, isConditionChar c = true) ∧
    text = ifOpen ++ blanks ++ path ++ tagClose ++ body

/-- Whether an opening tag stands at the front of a text and a closing tag somewhere behind it. -/
def Begins (text : Text) : Prop :=
  ∃ path body, Opens path body text ∧ ifClose <:+: body

/-- What the first pass leaves of a text; `holds` decides about paths. -/
inductive Scan (holds : Text → Bool) : Text → Text → Prop
  /-- Where no conditional begins, everything stays. -/
  | rest {text : Text} (hnone : ∀ back, back <:+ text → ¬ Begins back) : Scan holds text text
  /-- The first conditional gives way to what it keeps: the text up to the first closing tag, in
  which nothing is looked for again. -/
  | conditional {front text path kept behind out : Text}
      (hfirst : ∀ back, back <:+ front → back ≠ [] → ¬ Begins (back ++ text))
      (hopens : Opens path (kept ++ ifClose ++ behind) text)
      (hclose : NoStart ifClose kept (ifClose ++ behind))
      (hbehind : Scan holds behind out) :
      Scan holds (front ++ text) (front ++ (if holds path then kept else []) ++ out)

variable {holds : Text → Bool} {text path body kept behind front back out : Text}

/-! ### Opening tags -/

/-- What stands in front of a text that a path and the end of its tag are read from. -/
theorem eq_append_of_pathAndClose? {isPathChar : Char → Bool}
    (h : pathAndClose? isPathChar text = some (path, body)) :
    path ≠ [] ∧ (∀ c ∈ path, isPathChar c = true) ∧ text = path ++ tagClose ++ body := by
  unfold pathAndClose? at h
  split at h
  · next c inner rest hpath hclose =>
    obtain ⟨rfl, rfl⟩ := by simpa using h
    refine ⟨List.cons_ne_nil c inner, fun d hd => ?_, ?_⟩
    · rw [← hpath] at hd
      exact List.mem_takeWhile_imp hd
    · rw [List.append_assoc, ← eq_append_of_isPrefixOf? hclose, ← hpath,
        List.takeWhile_append_dropWhile]
  · simp at h

/-- Reading an opening tag finds the tags that are there. -/
theorem conditionTag?_eq_some_iff :
    conditionTag? text = some (path, body) ↔ Opens path body text := by
  constructor
  · intro h
    unfold conditionTag? at h
    split at h
    · next rest hopen =>
      split at h
      · simp at h
      next hblanks =>
      obtain ⟨hne, hpath, hrest⟩ := eq_append_of_pathAndClose? h
      refine ⟨rest.takeWhile isBlank, by simpa using hblanks,
        fun c hc => List.mem_takeWhile_imp hc, hne, hpath, ?_⟩
      rw [List.append_assoc, List.append_assoc, ← List.append_assoc path, ← hrest,
        List.append_assoc, List.takeWhile_append_dropWhile, ← eq_append_of_isPrefixOf? hopen]
    · simp at h
  · rintro ⟨blanks, hne, hblanks, hpath_ne, hpath, rfl⟩
    exact conditionTag?_append hne hblanks hpath_ne hpath body

/-- An opening brace stands in an opening tag in its first two places only, so a closing tag that
begins further on is behind the opening one. -/
theorem Opens.infix_body (h : Opens path body text) (front back : Text)
    (htext : text = front ++ ifClose ++ back) (hfront : 2 ≤ front.length) : ifClose <:+: body := by
  obtain ⟨blanks, -, hblanks, -, hpath, rfl⟩ := h
  obtain ⟨a, b, front, rfl⟩ : ∃ a b rest, front = a :: b :: rest :=
    match front, hfront with
    | a :: b :: rest, _ => ⟨a, b, rest, rfl⟩
  have hbrace : '{' ∉ "#if".toList ++ blanks ++ path ++ tagClose := by
    simp only [List.mem_append, not_or]
    exact ⟨⟨⟨by decide, fun hmem => absurd (hblanks _ hmem) (by decide)⟩,
      fun hmem => absurd (hpath _ hmem) (by decide +kernel)⟩, by decide⟩
  have hrest : "#if".toList ++ blanks ++ path ++ tagClose ++ body = front ++ (ifClose ++ back) := by
    rw [List.append_assoc _ ifClose] at htext
    exact (List.cons.inj (List.cons.inj htext).2).2
  obtain ⟨more, -, hbody⟩ | ⟨more, hmore, hclose⟩ := List.append_eq_append_iff.1 hrest
  · exact ⟨more, back, by rw [hbody, List.append_assoc]⟩
  · cases more with
    | nil => exact ⟨[], back, hclose⟩
    | cons c more =>
      obtain rfl : '{' = c := (List.cons.inj hclose).1
      rw [hmore] at hbrace
      exact absurd (List.mem_append_right front List.mem_cons_self) hbrace

/-- Behind an opening tag that nothing closes no conditional begins. -/
theorem Opens.not_begins (h : Opens path body text) (hnone : ¬ ifClose <:+: body)
    (hback : back <:+ text) : ¬ Begins back := by
  rintro ⟨path', body', ⟨blanks, -, -, -, -, rfl⟩, before, after, rfl⟩
  obtain ⟨front, rfl⟩ := hback
  refine hnone (h.infix_body (front ++ (ifOpen ++ blanks ++ path' ++ tagClose ++ before)) after
    (by simp) ?_)
  simp [ifOpen]
  omega

/-- No occurrence begins in what is in front of the first one. -/
theorem noStart_of_splitFirst? {needle before after : Text}
    (h : splitFirst? needle text = some (before, after)) :
    NoStart needle before (needle ++ after) := by
  obtain ⟨rfl, hfirst⟩ := splitFirst?_eq_some_iff.1 h
  rintro back ⟨front, rfl⟩ hne ⟨rest, hrest⟩
  have hle := hfirst front rest (by simp [hrest])
  have hpos := List.length_pos_iff.2 hne
  rw [List.length_append] at hle
  omega

/-! ### The pass -/

theorem resolveConditionals_cons {c : Char} (h : conditionTag? (c :: text) = none) :
    resolveConditionals holds (c :: text) = c :: resolveConditionals holds text := by
  rw [resolveConditionals]
  split
  · rfl
  · next htag => simp [h] at htag

theorem resolveConditionals_of_unclosed (htag : conditionTag? text = some (path, body))
    (h : ¬ ifClose <:+: body) : resolveConditionals holds text = text := by
  cases text with
  | nil => exact absurd (htag.symm.trans (conditionTag?_eq_none (by decide))) (by simp)
  | cons c text =>
    rw [resolveConditionals]
    split
    · next hnone => simp [htag] at hnone
    next path' body' hsome =>
    obtain ⟨rfl, rfl⟩ : path = path' ∧ body = body' := by simpa [htag] using hsome
    split
    · rfl
    · next hcut => simp [splitFirst?_eq_none_iff.2 h] at hcut

/-- Where no conditional begins, the pass changes nothing. -/
theorem resolveConditionals_eq_self (hnone : ∀ back, back <:+ text → ¬ Begins back) :
    resolveConditionals holds text = text := by
  induction text with
  | nil => simp [resolveConditionals]
  | cons c text ih =>
    cases htag : conditionTag? (c :: text) with
    | none =>
      rw [resolveConditionals_cons htag,
        ih fun back hback => hnone back (hback.trans (List.suffix_cons c text))]
    | some tag =>
      obtain ⟨path, body⟩ := tag
      exact resolveConditionals_of_unclosed htag fun hclose =>
        hnone _ List.suffix_rfl ⟨path, body, conditionTag?_eq_some_iff.1 htag, hclose⟩

/-- In front of the first conditional the pass changes nothing. A tag there would be closed by the
closing tag of that conditional. -/
theorem resolveConditionals_append_of_first
    (hfirst : ∀ back, back <:+ front → back ≠ [] → ¬ Begins (back ++ text))
    (hopens : Opens path body text) (hclose : ifClose <:+: body) :
    resolveConditionals holds (front ++ text) = front ++ resolveConditionals holds text := by
  induction front with
  | nil => rfl
  | cons c front ih =>
    have htag : conditionTag? (c :: (front ++ text)) = none := by
      rw [Option.eq_none_iff_forall_ne_some]
      rintro ⟨path', body'⟩ htag
      have hopens' := conditionTag?_eq_some_iff.1 htag
      refine hfirst (c :: front) List.suffix_rfl (List.cons_ne_nil c front)
        ⟨path', body', hopens', ?_⟩
      obtain ⟨blanks, -, -, -, -, rfl⟩ := hopens
      obtain ⟨before, after, rfl⟩ := hclose
      refine hopens'.infix_body (c :: (front ++ (ifOpen ++ blanks ++ path ++ tagClose ++ before)))
        after (by simp) ?_
      simp [ifOpen]
      omega
    rw [List.cons_append, resolveConditionals_cons htag,
      ih fun back hback => hfirst back (hback.trans (List.suffix_cons c front)), List.cons_append]

theorem Scan.resolveConditionals_eq (h : Scan holds text out) :
    resolveConditionals holds text = out := by
  induction h with
  | rest hnone => exact resolveConditionals_eq_self hnone
  | @conditional front text path kept behind out hfirst hopens hclose _ ih =>
    have hcut : splitFirst? ifClose (kept ++ ifClose ++ behind) = some (kept, behind) := by
      rw [List.append_assoc, splitFirst?_append_of_noStart hclose]
      simp [splitFirst?_self_append]
    rw [resolveConditionals_append_of_first hfirst hopens ⟨kept, behind, rfl⟩,
      resolveConditionals_of_conditionTag? (conditionTag?_eq_some_iff.2 hopens) hcut, ih,
      List.append_assoc]

/-- A character in front of which no conditional begins stays. -/
theorem Scan.cons {c : Char} (h : Scan holds text out) (hnone : ¬ Begins (c :: text)) :
    Scan holds (c :: text) (c :: out) := by
  cases h with
  | rest hrest =>
    refine .rest fun back hback => ?_
    obtain rfl | hback := List.suffix_cons_iff.1 hback
    · exact hnone
    · exact hrest back hback
  | @conditional front text path kept behind out hfirst hopens hclose hbehind =>
    refine @Scan.conditional holds (c :: front) _ _ _ _ _ (fun back hback hne => ?_) hopens hclose
      hbehind
    obtain rfl | hback := List.suffix_cons_iff.1 hback
    · exact hnone
    · exact hfirst back hback hne

/-- The pass scans. -/
theorem scan_resolveConditionals (holds : Text → Bool) (text : Text) :
    Scan holds text (resolveConditionals holds text) := by
  induction hlen : text.length using Nat.strong_induction_on generalizing text with
  | _ n ih =>
    subst hlen
    cases text with
    | nil =>
      rw [resolveConditionals]
      refine .rest fun back hback => ?_
      rw [List.suffix_nil.1 hback]
      rintro ⟨path, body, ⟨blanks, -, -, -, -, htext⟩, -⟩
      simp [ifOpen] at htext
    | cons c text =>
      cases htag : conditionTag? (c :: text) with
      | none =>
        rw [resolveConditionals_cons htag]
        refine (ih _ (by simp) text rfl).cons ?_
        rintro ⟨path, body, hopens, -⟩
        rw [conditionTag?_eq_some_iff.2 hopens] at htag
        exact absurd htag (by simp)
      | some tag =>
        obtain ⟨path, body⟩ := tag
        have hopens := conditionTag?_eq_some_iff.1 htag
        cases hcut : splitFirst? ifClose body with
        | none =>
          have hopen : ¬ ifClose <:+: body := splitFirst?_eq_none_iff.1 hcut
          rw [resolveConditionals_of_unclosed htag hopen]
          exact .rest fun back => hopens.not_begins hopen
        | some cut =>
          obtain ⟨kept, behind⟩ := cut
          have hlen : behind.length < (c :: text).length :=
            (length_lt_of_splitFirst? (by decide) hcut).trans (length_lt_of_conditionTag? htag)
          rw [resolveConditionals_of_conditionTag? htag hcut]
          rw [eq_append_of_splitFirst? hcut] at hopens
          exact @Scan.conditional holds [] _ _ _ _ _
            (fun back hback hne => absurd (List.suffix_nil.1 hback) hne) hopens
            (noStart_of_splitFirst? hcut) (ih _ hlen behind rfl)

/-! ### The search expression -/

/-- The ways to cut a text behind a run of at least one character of a kind, the longest first. -/
def nonemptyRuns (kind : Char → Bool) : Text → List (Text × Text)
  | [] => []
  | c :: rest =>
    if kind c then ((longest kind).cuts rest).map fun (front, back) => (c :: front, back) else []

/-- The ways to read a conditional at the front of a text, in the order of preference: its path, the
text it keeps and the text behind it. Runs of blanks and of the characters of paths are as long as
possible, and the text it keeps is as short as possible. -/
def readings (text : Text) : List (Text × Text × Text) :=
  (ifOpen.isPrefixOf? text).toList.flatMap fun rest =>
    (nonemptyRuns isBlank rest).flatMap fun (_, rest) =>
      (nonemptyRuns isConditionChar rest).flatMap fun (path, rest) =>
        (tagClose.isPrefixOf? rest).toList.flatMap fun body =>
          (anything.cuts body).flatMap fun (kept, rest) =>
            (ifClose.isPrefixOf? rest).toList.map fun behind => (path, kept, behind)

section Readings

variable {α : Type} {kind : Char → Bool} (read : Text × Text → List α)

/-- A longest run ends where its characters end, if nothing is read behind a shorter one. -/
theorem flatMap_runs (hread : ∀ front c rest, kind c = true → read (front, c :: rest) = [])
    (text : Text) :
    (runs true kind text).flatMap read = read (text.takeWhile kind, text.dropWhile kind) := by
  induction text generalizing read with
  | nil => simp [runs]
  | cons c text ih =>
    cases hc : kind c with
    | true =>
      have hlonger := ih (fun (front, back) => read (c :: front, back))
        fun front => hread (c :: front)
      simp only [runs, hc, if_true, List.flatMap_append, List.flatMap_map, List.flatMap_singleton,
        hread [] c text hc, List.append_nil, List.takeWhile_cons_of_pos, List.dropWhile_cons_of_pos]
      exact hlonger
    | false => simp [runs, hc]

theorem flatMap_nonemptyRuns
    (hread : ∀ front c rest, kind c = true → read (front, c :: rest) = []) (text : Text) :
    (nonemptyRuns kind text).flatMap read =
      if (text.takeWhile kind).isEmpty then []
      else read (text.takeWhile kind, text.dropWhile kind) := by
  cases text with
  | nil => rfl
  | cons c text =>
    rw [nonemptyRuns]
    cases hc : kind c with
    | true =>
      have hrest := flatMap_runs (fun (front, back) => read (c :: front, back))
        (fun front => hread (c :: front)) text
      simpa [hc, longest, Term.cuts, List.flatMap_map] using hrest
    | false => simp [hc]

/-- The shortest text in front of a fixed one ends at its first occurrence. -/
theorem head?_flatMap_anything {needle : Text} (hne : needle ≠ []) (make : Text → Text → α)
    (text : Text) :
    ((anything.cuts text).flatMap fun (kept, rest) =>
      (needle.isPrefixOf? rest).toList.map fun behind => make kept behind).head? =
      (splitFirst? needle text).map fun (kept, behind) => make kept behind := by
  induction text generalizing make with
  | nil =>
    obtain ⟨d, needle, rfl⟩ := List.exists_cons_of_ne_nil hne
    rfl
  | cons c text ih =>
    have hlonger := ih fun kept => make (c :: kept)
    simp only [anything, Term.cuts] at hlonger ⊢
    rw [runs, splitFirst?]
    cases hneedle : needle.isPrefixOf? (c :: text) with
    | none => simpa [List.flatMap_map, Function.comp_def, hneedle] using hlonger
    | some after => simp [hneedle]

end Readings

/-- Reading a conditional finds its opening tag and then the first closing tag. -/
theorem head?_readings (text : Text) : (readings text).head? =
    (conditionTag? text).bind fun (path, body) =>
      (splitFirst? ifClose body).map fun (kept, behind) => (path, kept, behind) := by
  rw [readings, conditionTag?]
  cases ifOpen.isPrefixOf? text with
  | none => rfl
  | some rest =>
    rw [Option.toList_some, List.flatMap_singleton, flatMap_nonemptyRuns _
      fun front c rest hc => by simp [nonemptyRuns, isConditionChar_eq_false_of_isBlank hc]]
    dsimp only
    split
    · rfl
    rw [flatMap_nonemptyRuns _ fun front c rest hc => by
      have hne : '}' ≠ c := by
        rintro rfl
        exact absurd hc (by decide +kernel)
      simp [tagClose, List.isPrefixOf?, hne], pathAndClose?]
    cases (rest.dropWhile isBlank).takeWhile isConditionChar with
    | nil => rfl
    | cons c path =>
      cases tagClose.isPrefixOf? ((rest.dropWhile isBlank).dropWhile isConditionChar) with
      | none => rfl
      | some body =>
        simpa using head?_flatMap_anything (by decide)
          (fun kept behind => (c :: path, kept, behind)) body

theorem head?_readings_eq_some_iff : (readings text).head? = some (path, kept, behind) ↔
    ∃ body, conditionTag? text = some (path, body) ∧
      splitFirst? ifClose body = some (kept, behind) := by
  rw [head?_readings, Option.bind_eq_some_iff]
  simp

/-- What is read behind a conditional is shorter. -/
theorem length_lt_of_head?_readings (h : (readings text).head? = some (path, kept, behind)) :
    behind.length < text.length := by
  obtain ⟨body, htag, hcut⟩ := head?_readings_eq_some_iff.1 h
  exact (length_lt_of_splitFirst? (by decide) hcut).trans (length_lt_of_conditionTag? htag)

/-- The text with every conditional that the search finds replaced by what it keeps. -/
def replaceConditionals (holds : Text → Bool) (text : Text) : Text :=
  match text with
  | [] => []
  | c :: rest =>
    match _hread : (readings (c :: rest)).head? with
    | none => c :: replaceConditionals holds rest
    | some (path, kept, behind) =>
      (if holds path then kept else []) ++ replaceConditionals holds behind
termination_by text.length
decreasing_by
  · simp
  · exact length_lt_of_head?_readings _hread

/-- The pass replaces what the search finds. It does not look again behind an opening tag that
nothing closes, where the search finds nothing. -/
theorem replaceConditionals_eq (holds : Text → Bool) (text : Text) :
    replaceConditionals holds text = resolveConditionals holds text := by
  induction hlen : text.length using Nat.strong_induction_on generalizing text with
  | _ n ih =>
    subst hlen
    cases text with
    | nil => simp [replaceConditionals, resolveConditionals]
    | cons c text =>
      rw [replaceConditionals]
      split
      · next hread =>
        rw [ih _ (by simp) text rfl]
        cases htag : conditionTag? (c :: text) with
        | none => rw [resolveConditionals_cons htag]
        | some tag =>
          obtain ⟨path, body⟩ := tag
          have hopen : ¬ ifClose <:+: body := by
            rw [head?_readings, htag] at hread
            exact splitFirst?_eq_none_iff.1 (by simpa using hread)
          rw [resolveConditionals_of_unclosed htag hopen,
            resolveConditionals_eq_self fun back hback =>
              (conditionTag?_eq_some_iff.1 htag).not_begins hopen
                (hback.trans (List.suffix_cons c text))]
      · next path kept behind hread =>
        obtain ⟨body, htag, hcut⟩ := head?_readings_eq_some_iff.1 hread
        rw [ih _ (length_lt_of_head?_readings hread) behind rfl,
          resolveConditionals_of_conditionTag? htag hcut]

end Template

end SiteWeave
