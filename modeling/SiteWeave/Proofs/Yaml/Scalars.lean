import Mathlib.Data.List.Basic
import SiteWeave.Proofs.Json.Written
import SiteWeave.Yaml.Scalar

/-!
# JSON scalars in YAML

The strings of JSON are YAML's double-quoted scalars, and its words and numbers are plain scalars.
Both readers are followed from the front of a scalar to the text behind it. A line break in a string
is folded, and a code unit in four hexadecimal digits has to be a character of its own.

## Main definitions

* `Yaml.Cursor.Passes`: the text between two places.
* `Yaml.quoted?`: the text that YAML reads in a string, if there is one.
* `Yaml.Scans`: what the reader of a scalar comes to.

## Main results

* `Yaml.readQuotedFrom_scans`: a string is read as its text, or there is a fault.
* `Yaml.readPlain_word`: a word is read as itself, with the blanks behind it.
-/

namespace SiteWeave.Yaml

open JsonText

/-! ### Places -/

/-- A text that a cursor passes on its way to another place. -/
structure Cursor.Passes (front : Text) (a b : Cursor) : Prop where
  unread : a.unread = front ++ b.unread
  index : b.mark.index = a.mark.index + front.length
  line_le : a.mark.line ≤ b.mark.line
  line_lt_iff : a.mark.line < b.mark.line ↔ ∃ c ∈ front, isBreak c

namespace Cursor

variable {a b c : Cursor} {front behind : Text}

theorem Passes.refl (a : Cursor) : a.Passes [] a :=
  ⟨rfl, rfl, Nat.le_refl _, by simp⟩

theorem Passes.trans (h : a.Passes front b) (h' : b.Passes behind c) :
    a.Passes (front ++ behind) c where
  unread := by rw [h.unread, h'.unread, List.append_assoc]
  index := by rw [h'.index, h.index, List.length_append, Nat.add_assoc]
  line_le := Nat.le_trans h.line_le h'.line_le
  line_lt_iff := by
    have hle := h.line_le
    have hle' := h'.line_le
    have hlt : a.mark.line < c.mark.line ↔
        a.mark.line < b.mark.line ∨ b.mark.line < c.mark.line := by
      omega
    simp only [hlt, h.line_lt_iff, h'.line_lt_iff, List.mem_append, or_and_right, exists_or]

/-- Characters that do not break the line are passed in one go. -/
theorem passes_advance (front : Text) (h : a.unread = front ++ behind)
    (hbreak : ∀ c ∈ front, isBreak c = false) : a.Passes front (a.advance front.length) where
  unread := by simp [advance, h]
  index := rfl
  line_le := Nat.le_refl _
  line_lt_iff := by simpa [advance] using hbreak

theorem unread_advance (front : Text) (h : a.unread = front ++ behind) :
    (a.advance front.length).unread = behind := by
  simp [advance, h]

theorem passes_advance_one {c : Char} (h : a.unread = c :: behind) (hc : isBreak c = false) :
    a.Passes [c] a.advance :=
  passes_advance [c] h (by simpa using hc)

theorem unread_advance_one {c : Char} (h : a.unread = c :: behind) : a.advance.unread = behind :=
  unread_advance [c] h

/-- A line break is passed with the characters that make it. -/
theorem passes_nextLine (front : Text) (h : a.unread = front ++ behind)
    (hbreak : ∃ c ∈ front, isBreak c) : a.Passes front (a.nextLine front.length) where
  unread := by simp [nextLine, h]
  index := rfl
  line_le := Nat.le_succ _
  line_lt_iff := by simpa [nextLine] using hbreak

/-- What is unread behind a text that was passed. -/
theorem Passes.unread_eq (h : a.Passes front b) (hunread : a.unread = front ++ behind) :
    b.unread = behind :=
  List.append_cancel_left (h.unread.symm.trans hunread)

end Cursor

/-! ### Strings -/

/-- Whether a text starts with a line that starts or ends a document. -/
def startsMarker (text : Text) : Bool :=
  (text.take 3 = ['-', '-', '-'] || text.take 3 = ['.', '.', '.']) &&
    (text.drop 3).head?.all isSpacing

/-- The text that YAML reads in the quotes of a string. Blanks and line breaks are kept back as a
gap until the next character; `startsLine` says whether a line starts here. -/
def quotedFrom? (startsLine : Bool) (gap : Option Gap) : List Letter → Option Text
  | [] => some (Gap.fold gap).reverse
  | .plain c _ :: letters =>
    if isBlank c then quotedFrom? false (some (Gap.addBlank c gap)) letters
    else if isBreak c then
      quotedFrom? true (some (Gap.addBreak (if c = '\u0085' then '\n' else c) gap)) letters
    else if startsLine && startsMarker (c :: body letters ++ ['"']) then none
    else (quotedFrom? false none letters).map fun text => (Gap.fold gap).reverse ++ c :: text
  | .short _ c _ :: letters =>
    (quotedFrom? false none letters).map fun text => (Gap.fold gap).reverse ++ c :: text
  | .unit _ code _ :: letters =>
    (charOfCode? code).bind fun c =>
      (quotedFrom? false none letters).map fun text => (Gap.fold gap).reverse ++ c :: text

/-- The text that YAML reads in a string. -/
def quoted? (letters : List Letter) : Option Text :=
  quotedFrom? false none letters

/-- A scalar is read as a text up to behind `front`, or there is a fault. -/
def Scans (cursor : Cursor) (front : Text) (outcome : Except Fault ReadScalar) :
    Option Text → Prop
  | some text => ∃ scalar, outcome = .ok scalar ∧ scalar.text = text ∧
      cursor.Passes front scalar.cursor
  | none => ∃ fault, outcome = .error fault

theorem Scans.of_passes {cursor next : Cursor} {front behind : Text}
    {outcome : Except Fault ReadScalar} {text? : Option Text} (h : cursor.Passes front next)
    (hscan : Scans next behind outcome text?) : Scans cursor (front ++ behind) outcome text? := by
  cases text? with
  | none => exact hscan
  | some text =>
    obtain ⟨scalar, hok, htext, hpasses⟩ := hscan
    exact ⟨scalar, hok, htext, h.trans hpasses⟩

variable {cursor : Cursor} {rest : Text}

theorem startsMarker_append (text : Text) (rest : Text) :
    startsMarker (text ++ '"' :: rest) = startsMarker (text ++ ['"']) := by
  match text with
  | [] => simp [startsMarker]
  | [a] => simp [startsMarker]
  | [a, b] => simp [startsMarker]
  | a :: b :: c :: text => cases text <;> simp [startsMarker]

theorem atDocumentMarker_eq (cursor : Cursor) :
    cursor.atDocumentMarker = (decide (cursor.mark.column = 0) && startsMarker cursor.unread) := by
  simp only [Cursor.atDocumentMarker, Cursor.atMarker, startsMarker, Cursor.atSpacing, Cursor.peek?,
    Cursor.advance]
  grind

theorem isBreak_of_isBlank {c : Char} (h : isBlank c) : isBreak c = false := by
  simp only [isBlank, Bool.or_eq_true, decide_eq_true_eq] at h
  rcases h with rfl | rfl <;> rfl

theorem passBreak_of_not_isBreak {c : Char} (h : cursor.unread = c :: rest)
    (hc : isBreak c = false) : cursor.passBreak = (none, cursor) := by
  have hother : ¬ (c = '\n' ∨ c = '\r' ∨ c = '\u0085') := by
    rintro (rfl | rfl | rfl) <;> simp [isBreak] at hc
  unfold Cursor.passBreak
  split
  · cases h.symm.trans ‹cursor.unread = _›
    exact absurd hc (by decide)
  · cases h.symm.trans ‹cursor.unread = _›
    rw [if_neg hother, hc]
    rfl
  · rfl

theorem passBreak_of_isBreak {c : Char} (h : cursor.unread = c :: rest) (hc : isBreak c)
    (hcontrol : 0x20 ≤ c.toNat) :
    cursor.passBreak = (some (if c = '\u0085' then '\n' else c), cursor.nextLine 1) := by
  have hreturn : c ≠ '\r' := by rintro rfl; simp at hcontrol
  have hfeed : c ≠ '\n' := by rintro rfl; simp at hcontrol
  unfold Cursor.passBreak
  split
  · cases h.symm.trans ‹cursor.unread = _›
    exact absurd rfl hreturn
  · cases h.symm.trans ‹cursor.unread = _›
    simp only [hfeed, hreturn, false_or, hc, if_true]
    split <;> rfl
  · cases h.symm.trans ‹cursor.unread = _›

section Quoted

variable (start : Mark) (d : Char) (bound : Text) (gap : Option Gap) (acc : List Char)

theorem readQuotedFrom_blank {c : Char} (h : cursor.unread = c :: rest) (hc : isBlank c) :
    readQuotedFrom '"' start (d :: bound) gap acc cursor =
      readQuotedFrom '"' start bound (some (Gap.addBlank c gap)) acc cursor.advance := by
  simp only [readQuotedFrom, h, hc, if_true]

theorem readQuotedFrom_break {c : Char} (h : cursor.unread = c :: rest) (hblank : isBlank c = false)
    (hc : isBreak c) (hcontrol : 0x20 ≤ c.toNat) :
    readQuotedFrom '"' start (d :: bound) gap acc cursor =
      readQuotedFrom '"' start bound
        (some (Gap.addBreak (if c = '\u0085' then '\n' else c) gap)) acc (cursor.nextLine 1) := by
  simp only [readQuotedFrom, h, hblank, Bool.false_eq_true, if_false,
    passBreak_of_isBreak h hc hcontrol]

theorem readQuotedFrom_other {c : Char} (h : cursor.unread = c :: rest)
    (hc : isSpacing c = false) :
    readQuotedFrom '"' start (d :: bound) gap acc cursor =
      if cursor.atDocumentMarker then
        .error ⟨.documentMarker, cursor.mark, some (.quotedScalar, start)⟩
      else if c = '"' then .ok ⟨(Gap.fold gap ++ acc).reverse, cursor.advance, false⟩
      else if c = '\\' then
        match cursor.advance.passBreak with
        | (some _, next) =>
          readQuotedFrom '"' start bound (some (.lines none [])) (Gap.fold gap ++ acc) next
        | (none, _) =>
          match readEscape start cursor with
          | .error fault => .error fault
          | .ok (c, next) => readQuotedFrom '"' start bound none (c :: (Gap.fold gap ++ acc)) next
      else readQuotedFrom '"' start bound none (c :: (Gap.fold gap ++ acc)) cursor.advance := by
  rw [isSpacing, Bool.or_eq_false_iff] at hc
  rcases hbreak : cursor.advance.passBreak with ⟨_ | _, next⟩ <;>
    rcases hescape : readEscape start cursor with _ | ⟨_, _⟩ <;>
    simp only [readQuotedFrom, h, hc.1, Bool.false_eq_true, if_false, hbreak, hescape,
      passBreak_of_not_isBreak h hc.2, Char.reduceEq, decide_false, decide_true, Bool.false_and,
      Bool.and_true, decide_eq_true_eq]

end Quoted

/-- The escapes of JSON have the same meaning in YAML. -/
theorem escapeCode?_of_shortEscape? {c escaped : Char} (h : Reader.shortEscape? c = some escaped) :
    escapeCode? c = some (.char escaped) := by
  unfold Reader.shortEscape? at h
  split at h <;> cases h <;> rfl

theorem isBreak_of_shortEscape? {c escaped : Char} (h : Reader.shortEscape? c = some escaped) :
    isBreak c = false := by
  unfold Reader.shortEscape? at h
  split at h <;> cases h <;> rfl

theorem readEscape_short (start : Mark) {c escaped : Char}
    (h : cursor.unread = '\\' :: c :: rest) (hc : Reader.shortEscape? c = some escaped) :
    readEscape start cursor = .ok (escaped, cursor.advance 2) := by
  rw [readEscape, h]
  simp [escapeCode?_of_shortEscape? hc]

theorem isSome_digitValue?_of_foldlM {radix start code : Nat} {digits : Text}
    (h : digits.foldlM (fun value c => (digitValue? radix c).map fun d => value * radix + d) start =
      some code) : ∀ c ∈ digits, (digitValue? radix c).isSome := by
  induction digits generalizing start with
  | nil => simp
  | cons c digits ih =>
    rw [List.foldlM_cons] at h
    cases hc : digitValue? radix c with
    | none => simp [hc] at h
    | some d =>
      rw [hc] at h
      exact List.forall_mem_cons.2 ⟨by simp [hc], ih h⟩

theorem isSome_digitValue?_of_toNat? {radix code : Nat} {digits : Text}
    (h : Text.toNat? radix digits = some code) : ∀ c ∈ digits, (digitValue? radix c).isSome := by
  rw [Text.toNat?] at h
  split at h
  · contradiction
  · exact isSome_digitValue?_of_foldlM h

theorem isBreak_of_digitValue? {c : Char} (h : (digitValue? 16 c).isSome) : isBreak c = false := by
  by_contra hbreak
  simp only [isBreak, Bool.not_eq_false, Bool.or_eq_true, decide_eq_true_eq] at hbreak
  rcases hbreak with (((rfl | rfl) | rfl) | rfl) | rfl <;> exact absurd h (by decide)

theorem readEscape_unit (start : Mark) {digits : Text} {code : Nat}
    (h : cursor.unread = '\\' :: 'u' :: (digits ++ rest))
    (hcode : digits.length = 4 ∧ Text.toNat? 16 digits = some code) :
    match charOfCode? code with
    | none => ∃ fault, readEscape start cursor = .error fault
    | some c => readEscape start cursor = .ok (c, (cursor.advance 2).advance 4) := by
  have htake : (cursor.advance 2).unread.take 4 = digits := by
    simp [Cursor.advance, h, ← hcode.1]
  have hescape : ((cursor.unread.drop 1).head?.bind escapeCode?) = some (.digits 4) := by
    rw [h]; rfl
  simp only [readEscape, hescape, htake, hcode.1, Nat.lt_irrefl, if_false, hcode.2]
  cases charOfCode? code with
  | none => exact ⟨_, rfl⟩
  | some c => rfl

section Quoted

variable (start : Mark) (d : Char) (bound : Text) (gap : Option Gap) (acc : List Char)

theorem readQuotedFrom_escape {c : Char} (h : cursor.unread = '\\' :: c :: rest)
    (hc : isBreak c = false) :
    readQuotedFrom '"' start (d :: bound) gap acc cursor =
      match readEscape start cursor with
      | .error fault => .error fault
      | .ok (c, next) => readQuotedFrom '"' start bound none (c :: (Gap.fold gap ++ acc)) next := by
  have hbreak : cursor.advance.passBreak = (none, cursor.advance) :=
    passBreak_of_not_isBreak (Cursor.unread_advance_one h) hc
  rw [readQuotedFrom_other start d bound gap acc h rfl, atDocumentMarker_eq, h,
    if_neg (by simp [startsMarker]), if_neg (by decide), if_pos rfl, hbreak]

theorem readQuotedFrom_short {c escaped : Char} (h : cursor.unread = '\\' :: c :: rest)
    (hc : Reader.shortEscape? c = some escaped) :
    cursor.Passes ['\\', c] (cursor.advance 2) ∧
      readQuotedFrom '"' start (d :: bound) gap acc cursor =
        readQuotedFrom '"' start bound none (escaped :: (Gap.fold gap ++ acc))
          (cursor.advance 2) := by
  have hbreak := isBreak_of_shortEscape? hc
  refine ⟨Cursor.passes_advance ['\\', c] h (by simpa [isBreak] using hbreak), ?_⟩
  rw [readQuotedFrom_escape start d bound gap acc h hbreak, readEscape_short start h hc]

theorem readQuotedFrom_unit {digits : Text} {code : Nat}
    (h : cursor.unread = '\\' :: 'u' :: (digits ++ rest))
    (hcode : digits.length = 4 ∧ Text.toNat? 16 digits = some code) :
    cursor.Passes ('\\' :: 'u' :: digits) ((cursor.advance 2).advance 4) ∧
      match charOfCode? code with
      | none => ∃ fault, readQuotedFrom '"' start (d :: bound) gap acc cursor = .error fault
      | some c =>
        readQuotedFrom '"' start (d :: bound) gap acc cursor =
          readQuotedFrom '"' start bound none (c :: (Gap.fold gap ++ acc))
            ((cursor.advance 2).advance 4) := by
  constructor
  · have hdigits : ∀ d ∈ digits, isBreak d = false := fun d hd =>
      isBreak_of_digitValue? (isSome_digitValue?_of_toNat? hcode.2 d hd)
    have hmark := Cursor.passes_advance ['\\', 'u'] h (by simp [isBreak])
    have hunit := Cursor.passes_advance digits (hmark.unread_eq h) hdigits
    rw [hcode.1] at hunit
    exact hmark.trans hunit
  · rw [readQuotedFrom_escape start d bound gap acc h rfl]
    have hescape := readEscape_unit start h hcode
    cases hchar : charOfCode? code with
    | none =>
      obtain ⟨fault, hfault⟩ := hchar ▸ hescape
      exact ⟨fault, by simp only [hfault]⟩
    | some c =>
      rw [hchar] at hescape
      simp only [hescape]

end Quoted

section Letters

variable {start : Mark} {bound front : Text} {letters : List Letter}

/-- From every place behind `front`, the letters that follow it are read as their text. -/
def ScansBehind (start : Mark) (bound : Text) (cursor : Cursor) (front : Text)
    (letters : List Letter) : Prop :=
  ∀ next gap acc, cursor.Passes front next →
    Scans cursor (front ++ (body letters ++ ['"'])) (readQuotedFrom '"' start bound gap acc next)
      ((quotedFrom? (next.mark.column = 0) gap letters).map (acc.reverse ++ ·))

/-- A character that stands for itself joins the text, behind the gap in front of it. -/
theorem ScansBehind.push (h : ScansBehind start bound cursor front letters) {next : Cursor}
    (hpass : cursor.Passes front next) (hcolumn : next.mark.column ≠ 0) (gap : Option Gap)
    (acc : List Char) (c : Char) :
    Scans cursor (front ++ (body letters ++ ['"']))
      (readQuotedFrom '"' start bound none (c :: (Gap.fold gap ++ acc)) next)
      (((quotedFrom? false none letters).map fun text => (Gap.fold gap).reverse ++ c :: text).map
        (acc.reverse ++ ·)) := by
  have hscan := h next none (c :: (Gap.fold gap ++ acc)) hpass
  rw [decide_eq_false hcolumn] at hscan
  rw [Option.map_map]
  convert hscan using 2
  funext text
  simp

variable (d : Char) (gap : Option Gap) (acc : List Char)

theorem ScansBehind.scans_plain {c : Char} (hc : 0x20 ≤ c.toNat ∧ c ≠ '"' ∧ c ≠ '\\')
    (h : ScansBehind start bound cursor [c] letters)
    (hunread : cursor.unread = c :: (body letters ++ '"' :: rest)) :
    Scans cursor ([c] ++ (body letters ++ ['"']))
      (readQuotedFrom '"' start (d :: bound) gap acc cursor)
      ((quotedFrom? (cursor.mark.column = 0) gap (.plain c hc :: letters)).map
        (acc.reverse ++ ·)) := by
  have hpass (hbreak : isBreak c = false) : cursor.Passes [c] cursor.advance :=
    Cursor.passes_advance_one hunread hbreak
  by_cases hblank : isBlank c
  · rw [readQuotedFrom_blank start d bound gap acc hunread hblank, quotedFrom?, if_pos hblank]
    exact h cursor.advance _ acc (hpass (isBreak_of_isBlank hblank))
  rw [Bool.not_eq_true] at hblank
  by_cases hbreak : isBreak c
  · rw [readQuotedFrom_break start d bound gap acc hunread hblank hbreak hc.1, quotedFrom?,
      hblank, if_neg Bool.false_ne_true, if_pos hbreak]
    exact h (cursor.nextLine 1) _ acc (Cursor.passes_nextLine [c] hunread ⟨c, by simp, hbreak⟩)
  rw [Bool.not_eq_true] at hbreak
  have hspacing : isSpacing c = false := by rw [isSpacing, hblank, hbreak]; rfl
  rw [readQuotedFrom_other start d bound gap acc hunread hspacing, atDocumentMarker_eq,
    hunread, ← List.cons_append, startsMarker_append, quotedFrom?, hblank, hbreak,
    if_neg Bool.false_ne_true, if_neg Bool.false_ne_true]
  split
  · exact ⟨_, rfl⟩
  · rw [if_neg hc.2.1, if_neg hc.2.2]
    exact h.push (hpass hbreak) (Nat.succ_ne_zero _) gap acc c

theorem ScansBehind.scans_short {c escaped : Char} (hc : Reader.shortEscape? c = some escaped)
    (h : ScansBehind start bound cursor ['\\', c] letters)
    (hunread : cursor.unread = '\\' :: c :: rest) :
    Scans cursor (['\\', c] ++ (body letters ++ ['"']))
      (readQuotedFrom '"' start (d :: bound) gap acc cursor)
      ((quotedFrom? (cursor.mark.column = 0) gap (.short c escaped hc :: letters)).map
        (acc.reverse ++ ·)) := by
  obtain ⟨hpass, hread⟩ := readQuotedFrom_short start d bound gap acc hunread hc
  rw [hread]
  exact h.push hpass (Nat.succ_ne_zero _) gap acc escaped

theorem ScansBehind.scans_unit {digits : Text} {code : Nat}
    (hcode : digits.length = 4 ∧ Text.toNat? 16 digits = some code)
    (h : ScansBehind start bound cursor ('\\' :: 'u' :: digits) letters)
    (hunread : cursor.unread = '\\' :: 'u' :: (digits ++ rest)) :
    Scans cursor ('\\' :: 'u' :: digits ++ (body letters ++ ['"']))
      (readQuotedFrom '"' start (d :: bound) gap acc cursor)
      ((quotedFrom? (cursor.mark.column = 0) gap (.unit digits code hcode :: letters)).map
        (acc.reverse ++ ·)) := by
  obtain ⟨hpass, hread⟩ := readQuotedFrom_unit start d bound gap acc hunread hcode
  rw [quotedFrom?]
  cases hchar : charOfCode? code with
  | none =>
    rw [hchar] at hread
    exact hread
  | some c =>
    rw [hchar] at hread
    simp only [hread]
    exact h.push hpass (Nat.succ_ne_zero _) gap acc c

end Letters

/-- **Strings** are read in YAML as the text in their quotes. -/
theorem readQuotedFrom_scans (start : Mark) (letters : List Letter) (rest bound : Text)
    (gap : Option Gap) (acc : List Char) (cursor : Cursor)
    (hunread : cursor.unread = body letters ++ '"' :: rest)
    (hbound : cursor.unread.length ≤ bound.length) :
    Scans cursor (body letters ++ ['"']) (readQuotedFrom '"' start bound gap acc cursor)
      ((quotedFrom? (cursor.mark.column = 0) gap letters).map (acc.reverse ++ ·)) := by
  induction letters generalizing bound gap acc cursor with
  | nil =>
    rw [body_nil, List.nil_append] at hunread
    rw [hunread, List.length_cons] at hbound
    obtain ⟨d, bound, rfl⟩ := List.exists_cons_of_length_pos (Nat.lt_of_lt_of_le
      (Nat.succ_pos _) hbound)
    rw [readQuotedFrom_other start d bound gap acc hunread rfl, atDocumentMarker_eq, hunread]
    refine ⟨_, by simp [startsMarker]; rfl, by simp, ?_⟩
    exact Cursor.passes_advance_one hunread rfl
  | cons letter letters ih =>
    rw [body_cons, List.append_assoc] at hunread
    have hpos : 0 < letter.text.length := by cases letter <;> simp [Letter.text]
    rw [hunread, List.length_append] at hbound
    obtain ⟨d, bound, rfl⟩ := List.exists_cons_of_length_pos (Nat.lt_of_lt_of_le
      (Nat.add_pos_left hpos _) hbound)
    have hbehind : ScansBehind start bound cursor letter.text letters := by
      intro next gap acc hpass
      have hnext := hpass.unread_eq hunread
      refine (ih bound gap acc next hnext ?_).of_passes hpass
      rw [List.length_cons] at hbound
      rw [hnext]
      omega
    rw [body_cons, List.append_assoc]
    cases letter with
    | plain c hc => exact hbehind.scans_plain d gap acc hc hunread
    | short c escaped hc => exact hbehind.scans_short d gap acc hc hunread
    | unit digits code hcode => exact hbehind.scans_unit d gap acc hcode hunread

/-! ### Blanks and words -/

theorem passBreak_return (h : cursor.unread = '\r' :: rest) (hrest : rest.head? ≠ some '\n') :
    cursor.passBreak = (some '\n', cursor.nextLine 1) := by
  unfold Cursor.passBreak
  split
  · cases h.symm.trans ‹cursor.unread = _›
    exact absurd rfl hrest
  · cases h.symm.trans ‹cursor.unread = _›
    rfl
  · cases h.symm.trans ‹cursor.unread = _›

/-- A line break in a blank is passed together with the line feed behind it. -/
theorem passBreak_blank {c : Char} {blank : Text} (h : cursor.unread = c :: (blank ++ rest))
    (hc : c = '\n' ∨ c = '\r') (hrest : rest.head? ≠ some '\n') :
    ∃ front behind next, c :: blank = front ++ behind ∧ front ≠ [] ∧ (∀ c ∈ front, isBreak c) ∧
      cursor.passBreak = (some '\n', next) ∧ cursor.Passes front next := by
  rcases hc with rfl | rfl
  · have hpass := Cursor.passes_nextLine ['\n'] h ⟨'\n', by simp, rfl⟩
    exact ⟨['\n'], blank, _, rfl, by simp, by simp [isBreak],
      by simp [Cursor.passBreak, h], hpass⟩
  · by_cases hfeed : blank.head? = some '\n'
    · obtain ⟨behind, rfl⟩ := List.head?_eq_some_iff.1 hfeed
      have hpass := Cursor.passes_nextLine ['\r', '\n'] h ⟨'\n', by simp, rfl⟩
      exact ⟨['\r', '\n'], behind, _, rfl, by simp, by simp [isBreak],
      by simp [Cursor.passBreak, h], hpass⟩
    · have hpass := Cursor.passes_nextLine ['\r'] h ⟨'\r', by simp, rfl⟩
      have hhead : (blank ++ rest).head? ≠ some '\n' := by cases blank <;> simp_all
      exact ⟨['\r'], blank, _, rfl, by simp, by simp [isBreak],
        passBreak_return h hhead, hpass⟩

section Plain

variable (start : Mark) (b : Char) (bound : Text) (gap : Option Gap) (acc : List Char)

theorem readPlainFrom_space {c : Char} (h : cursor.unread = c :: rest) (hc : isBlank c) :
    readPlainFrom true 0 start (b :: bound) gap acc cursor =
      readPlainFrom true 0 start bound (some (Gap.addBlank c gap)) acc cursor.advance := by
  have hcolumn : decide ((cursor.mark.column : Int) < 0) = false := by simp
  simp only [readPlainFrom, h, hc, if_true, hcolumn, Bool.and_false, Bool.false_eq_true, if_false]

theorem readPlainFrom_break {c : Char} {next : Cursor} (h : cursor.unread = c :: rest)
    (hc : isBlank c = false) (hbreak : cursor.passBreak = (some '\n', next)) :
    readPlainFrom true 0 start (b :: bound) gap acc cursor =
      readPlainFrom true 0 start bound (some (Gap.addBreak '\n' gap)) acc next := by
  simp only [readPlainFrom, h, hc, Bool.false_eq_true, if_false, hbreak]

theorem readPlainFrom_flowMark {c : Char} (h : cursor.unread = c :: rest) (hc : isFlowMark c) :
    readPlainFrom true 0 start (b :: bound) gap acc cursor = .ok (endPlain gap acc cursor) := by
  have hmarker : cursor.atDocumentMarker = false := by
    rw [atDocumentMarker_eq, h]
    simp only [isFlowMark, Bool.or_eq_true, decide_eq_true_eq] at hc
    rcases hc with (((rfl | rfl) | rfl) | rfl) | rfl <;> simp [startsMarker]
  have hclass : isBlank c = false ∧ isBreak c = false ∧ c ≠ '#' ∧ c ≠ ':' := by
    simp only [isFlowMark, Bool.or_eq_true, decide_eq_true_eq] at hc
    rcases hc with (((rfl | rfl) | rfl) | rfl) | rfl <;> decide
  simp only [readPlainFrom, h, hclass, passBreak_of_not_isBreak h hclass.2.1, hmarker, hc,
    Bool.false_eq_true, if_false, Bool.not_true, Bool.false_and, decide_false, Bool.or_false,
    Bool.and_false, Bool.and_true, Bool.false_or, if_true]

theorem ne_of_isBare {c : Char} (hc : isBare c) (d : Char) (hd : isBare d = false) : c ≠ d := by
  rintro rfl
  exact absurd hc (by simp [hd])

theorem isBreak_of_isBare {c : Char} (hc : isBare c) : isBreak c = false := by
  have hne := ne_of_isBare hc
  simp [isBreak, hne '\n' rfl, hne '\r' rfl, hne '\u0085' rfl, hne '\u2028' rfl, hne '\u2029' rfl]

theorem readPlainFrom_bare {c : Char} (h : cursor.unread = c :: rest) (hc : isBare c) :
    readPlainFrom true 0 start (b :: bound) none acc cursor =
      readPlainFrom true 0 start bound none (c :: acc) cursor.advance := by
  have hne := ne_of_isBare hc
  have hclass : isBlank c = false ∧ isBreak c = false ∧ isFlowMark c = false ∧ c ≠ ':' := by
    simp [isBreak_of_isBare hc, isBlank, isFlowMark, hne ' ' rfl, hne '\t' rfl, hne ',' rfl,
      hne '[' rfl, hne ']' rfl, hne '\x7b' rfl, hne '\x7d' rfl, hne ':' rfl]
  simp only [readPlainFrom, h, hclass, passBreak_of_not_isBreak h hclass.2.1, Gap.fold,
    Bool.false_eq_true, if_false, Option.isSome_none, Bool.false_and, Bool.and_false, decide_false,
    Bool.or_false, List.nil_append]

end Plain

/-- A plain scalar in a flow collection goes on over blanks, up to the mark behind them. -/
theorem readPlainFrom_blank (start : Mark) {d : Char} (hd : isFlowMark d) (acc : List Char) :
    ∀ (bound : Text) (blank : Text) (gap : Option Gap) (cursor : Cursor),
      (∀ c ∈ blank, Reader.isSpace c) → cursor.unread = blank ++ d :: rest →
      blank.length ≤ bound.length →
      ∃ scalar, readPlainFrom true 0 start bound gap acc cursor = .ok scalar ∧
        scalar.text = acc.reverse ∧ cursor.Passes blank scalar.cursor
  | [], [], gap, cursor, _, _, _ => ⟨_, rfl, rfl, .refl _⟩
  | b :: bound, [], gap, cursor, _, hunread, _ =>
    ⟨_, readPlainFrom_flowMark start b bound gap acc hunread hd, rfl, .refl _⟩
  | b :: bound, c :: blank, gap, cursor, hspace, hunread, hbound => by
    rw [List.cons_append] at hunread
    rw [List.length_cons, List.length_cons] at hbound
    have hrest := (List.forall_mem_cons.1 hspace).2
    by_cases hblank : isBlank c
    · have hpass : cursor.Passes [c] cursor.advance :=
        Cursor.passes_advance_one hunread (isBreak_of_isBlank hblank)
      obtain ⟨scalar, hok, htext, hscalar⟩ := readPlainFrom_blank start hd acc bound blank
        (some (Gap.addBlank c gap)) cursor.advance hrest (Cursor.unread_advance_one hunread)
        (by omega)
      exact ⟨scalar, by rw [readPlainFrom_space start b bound gap acc hunread hblank, hok], htext,
        hpass.trans hscalar⟩
    · rw [Bool.not_eq_true] at hblank
      have hbreak : c = '\n' ∨ c = '\r' := by
        have hspace := hspace c (by simp)
        simp only [Reader.isSpace, isBlank, Bool.or_eq_true, decide_eq_true_eq,
          Bool.or_eq_false_iff, decide_eq_false_iff_not] at hspace hblank
        tauto
      have hmark : (d :: rest).head? ≠ some '\n' := by
        rintro ⟨⟩
        exact absurd hd (by decide)
      obtain ⟨front, behind, next, hsplit, hfront, -, hpassBreak, hpass⟩ :=
        passBreak_blank hunread hbreak hmark
      have hnext : next.unread = behind ++ d :: rest := by
        have h := hpass.unread.symm.trans hunread
        rw [← List.cons_append, hsplit, List.append_assoc] at h
        exact List.append_cancel_left h
      have hlength := congrArg List.length hsplit
      have hpos := List.length_pos_of_ne_nil hfront
      rw [List.length_cons, List.length_append] at hlength
      have hbehind : ∀ c ∈ behind, Reader.isSpace c := fun c hc =>
        hspace c (hsplit ▸ List.mem_append_right front hc)
      obtain ⟨scalar, hok, htext, hscalar⟩ := readPlainFrom_blank start hd acc bound behind
        (some (Gap.addBreak '\n' gap)) next hbehind hnext (by omega)
      have hread := readPlainFrom_break start b bound gap acc hunread hblank hpassBreak
      exact ⟨scalar, hread.trans hok, htext, hsplit ▸ hpass.trans hscalar⟩

theorem readPlainFrom_word (start : Mark) {d : Char} (hd : isFlowMark d) {blank : Text}
    (hblank : ∀ c ∈ blank, Reader.isSpace c) (word : Text) (hword : ∀ c ∈ word, isBare c)
    (bound acc : Text) (cursor : Cursor) (hunread : cursor.unread = word ++ (blank ++ d :: rest))
    (hbound : (word ++ blank).length ≤ bound.length) :
    ∃ scalar, readPlainFrom true 0 start bound none acc cursor = .ok scalar ∧
      scalar.text = acc.reverse ++ word ∧ cursor.Passes (word ++ blank) scalar.cursor := by
  induction word generalizing bound acc cursor with
  | nil =>
    simpa using readPlainFrom_blank start hd acc bound blank none cursor hblank hunread hbound
  | cons c word ih =>
    obtain ⟨b, bound, rfl⟩ := List.exists_cons_of_length_pos (Nat.lt_of_lt_of_le (by simp) hbound)
    rw [List.forall_mem_cons] at hword
    rw [List.cons_append] at hunread
    have hpass : cursor.Passes [c] cursor.advance :=
      Cursor.passes_advance_one hunread (isBreak_of_isBare hword.1)
    obtain ⟨scalar, hok, htext, hscalar⟩ := ih hword.2 bound (c :: acc) cursor.advance
      (Cursor.unread_advance_one hunread) (Nat.le_of_succ_le_succ hbound)
    exact ⟨scalar, by rw [readPlainFrom_bare start b bound acc hunread hword.1, hok],
      by simpa using htext, hpass.trans hscalar⟩

/-- **Words and numbers** are plain scalars, with the blanks behind them. -/
theorem readPlain_word (word : Word) (blank : Blank) {d : Char} (hd : isFlowMark d)
    (hunread : cursor.unread = word.text ++ (blank.text ++ d :: rest)) :
    ∃ scalar, readPlain true 0 cursor = .ok scalar ∧ scalar.text = word.text ∧
      cursor.Passes (word.text ++ blank.text) scalar.cursor :=
  readPlainFrom_word cursor.mark hd blank.isSpace word.text word.isBare_text cursor.unread [] cursor
    hunread (by simp [hunread])

end SiteWeave.Yaml
