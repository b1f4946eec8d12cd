import SiteWeave.Template
import SiteWeave.Proofs.Text.Tag

/-!
# The grammar of templates

A template of the grammar is a list of items: literals without opening braces, variables, and
conditionals around literals and variables. What it means is read off its items from the first to
the last.

The expansion does not know the items. It searches the written template twice: for conditionals,
and then, in what they leave, for variables. Both searches find the tags that were written and no
others, since every tag begins with two opening braces, and behind those that an item brings stands
a character that tells its tag from the others. This holds as well where an item that is dropped
brings its neighbours together.

## Main definitions

* `Text.NoStart`: no occurrence of a text begins in another one.
* `Template.Piece`, `Template.Item`: the items of templates.
* `Template.print`: the text of a template.
* `Template.evaluate`: what a template means in a context.
* `Template.keep`: the literals and variables that the conditionals of a template keep.

## Main results

* `Template.resolveConditionals_print`: the first pass keeps and drops bodies of conditionals.
* `Template.resolveVariables_print`: the second pass replaces variables.
* `Template.expand_print`: a written template is expanded to what it means.
-/

namespace SiteWeave

/-! ### Texts that nothing begins in -/

namespace Text

variable {needle left middle right : Text}

/-- No occurrence of `needle` begins in `left` where `right` goes on behind it. -/
def NoStart (needle left right : Text) : Prop :=
  ∀ back, back <:+ left → back ≠ [] → ¬ needle <+: back ++ right

theorem noStart_nil (needle right : Text) : NoStart needle [] right :=
  fun _ hback hne => absurd (List.suffix_nil.1 hback) hne

theorem noStart_cons_iff {c : Char} :
    NoStart needle (c :: left) right ↔
      ¬ needle <+: c :: (left ++ right) ∧ NoStart needle left right := by
  constructor
  · exact fun h => ⟨h (c :: left) List.suffix_rfl (List.cons_ne_nil c left),
      fun back hback => h back (hback.trans (List.suffix_cons c left))⟩
  · rintro ⟨hhead, hleft⟩ back hback hne
    rcases List.suffix_cons_iff.1 hback with rfl | hback
    · exact hhead
    · exact hleft back hback hne

theorem NoStart.append (hleft : NoStart needle left (middle ++ right))
    (hmiddle : NoStart needle middle right) : NoStart needle (left ++ middle) right := by
  induction left with
  | nil => exact hmiddle
  | cons c left ih =>
    obtain ⟨hhead, hrest⟩ := noStart_cons_iff.1 hleft
    refine noStart_cons_iff.2 ⟨?_, ih hrest⟩
    rwa [← List.append_assoc] at hhead

/-- A text without the first character of another one. -/
theorem noStart_of_notMem {c : Char} (h : c ∉ left) (inner right : Text) :
    NoStart (c :: inner) left right := by
  rintro (_ | ⟨d, back⟩) hback hne hbegins
  · exact hne rfl
  · obtain ⟨rfl, -⟩ := List.cons_prefix_cons.1 hbegins
    exact h (hback.subset List.mem_cons_self)

/-- The first occurrence is behind a text that none begins in. -/
theorem splitFirst?_append_of_noStart (h : NoStart needle left right) :
    splitFirst? needle (left ++ right) =
      (splitFirst? needle right).map fun (before, after) => (left ++ before, after) := by
  induction left with
  | nil => simp
  | cons c left ih =>
    obtain ⟨hhead, hleft⟩ := noStart_cons_iff.1 h
    rw [List.cons_append, splitFirst?, isPrefixOf?_eq_none_iff.2 hhead]
    simp only [ih hleft, Option.map_map]
    rfl

end Text

open Text

namespace Template

/-! ### Items -/

/-- What may stand in a template, and in the body of a conditional. -/
inductive Piece where
  /-- A text without opening braces. -/
  | literal (content : Text) (notMem : '{' ∉ content)
  /-- A variable with its path. -/
  | var (path : Text) (ne_nil : path ≠ []) (isPath : ∀ c ∈ path, isVariableChar c = true)

/-- An item of a template. -/
inductive Item where
  | piece (p : Piece)
  /-- A conditional, with the blanks in front of its path. -/
  | conditional (blanks path : Text) (body : List Piece)
      (blanks_ne_nil : blanks ≠ []) (isBlank : ∀ c ∈ blanks, isBlank c = true)
      (path_ne_nil : path ≠ []) (isPath : ∀ c ∈ path, isConditionChar c = true)

/-- The text of a literal or a variable. -/
def Piece.print : Piece → Text
  | literal content _ => content
  | var path _ _ => tagOpen ++ path ++ tagClose

/-- The text of literals and variables. -/
def printPieces (pieces : List Piece) : Text :=
  pieces.flatMap Piece.print

/-- The text of an item. -/
def Item.print : Item → Text
  | piece p => p.print
  | conditional blanks path body _ _ _ _ =>
    ifOpen ++ blanks ++ path ++ tagClose ++ printPieces body ++ ifClose

/-- The text of a template. -/
def print (items : List Item) : Text :=
  items.flatMap Item.print

/-- What a literal or a variable stands for: a variable whose value is absent or null stays as it is
written. -/
def Piece.evaluate (context : Json) : Piece → Text
  | literal content _ => content
  | var path _ _ =>
    match context.atPath? path with
    | none | some .null => tagOpen ++ path ++ tagClose
    | some value => value.display

/-- What an item stands for. -/
def Item.evaluate (context : Json) : Item → Text
  | piece p => p.evaluate context
  | conditional _ path body _ _ _ _ =>
    match context.atPath? path with
    | none => []
    | some value => if value.isTruthy then body.flatMap (Piece.evaluate context) else []

/-- What a template means in a context. -/
def evaluate (context : Json) (items : List Item) : Text :=
  items.flatMap (Item.evaluate context)

@[simp] theorem printPieces_nil : printPieces [] = [] := rfl

@[simp] theorem printPieces_cons (piece : Piece) (pieces : List Piece) :
    printPieces (piece :: pieces) = piece.print ++ printPieces pieces := rfl

@[simp] theorem printPieces_append (front back : List Piece) :
    printPieces (front ++ back) = printPieces front ++ printPieces back :=
  List.flatMap_append

@[simp] theorem print_nil : print [] = [] := rfl

@[simp] theorem print_cons (item : Item) (items : List Item) :
    print (item :: items) = item.print ++ print items := rfl

/-! ### The characters of paths -/

/-- Characters of disjoint ranges are different. -/
theorem inRanges_eq_false_of_disjoint {ranges others : List CodeRange}
    (h : ∀ range ∈ ranges, ∀ other ∈ others, range.2 < other.1 ∨ other.2 < range.1) {c : Char}
    (hc : inRanges ranges c = true) : inRanges others c = false := by
  simp only [inRanges, List.any_eq_true, Bool.and_eq_true, decide_eq_true_eq, Prod.exists] at hc
  obtain ⟨first, last, hmem, hfirst, hlast⟩ := hc
  rw [inRanges, List.any_eq_false]
  rintro ⟨otherFirst, otherLast⟩ hother hc
  have hdisjoint := h _ hmem _ hother
  simp only [Bool.and_eq_true, decide_eq_true_eq] at hc
  omega

theorem inRanges_of_isAsciiWord {c : Char} (h : isAsciiWord c = true) :
    inRanges [(0x30, 0x39), (0x41, 0x5A), (0x5F, 0x5F), (0x61, 0x7A)] c = true := by
  delta isAsciiWord Char.isAlphanum Char.isAlpha Char.isUpper Char.isLower Char.isDigit at h
  simp only [Bool.or_eq_true, Bool.and_eq_true, decide_eq_true_eq, ge_iff_le,
    UInt32.le_iff_toNat_le, Char.toNat_val] at h
  simp only [inRanges, List.any_cons, List.any_nil, Bool.or_false, Bool.or_eq_true,
    Bool.and_eq_true, decide_eq_true_eq]
  rcases h with ((⟨hfirst, hlast⟩ | ⟨hfirst, hlast⟩) | ⟨hfirst, hlast⟩) | rfl
  · exact Or.inr (Or.inl ⟨hfirst, hlast⟩)
  · exact Or.inr (Or.inr (Or.inr ⟨hfirst, hlast⟩))
  · exact Or.inl ⟨hfirst, hlast⟩
  · decide

/-- No blank is part of the path of a conditional. -/
theorem isConditionChar_eq_false_of_isBlank {c : Char} (h : isBlank c = true) :
    isConditionChar c = false := by
  have hword : inRanges wordRanges c = false := inRanges_eq_false_of_disjoint (by decide +kernel) h
  have hascii : isAsciiWord c = false := by
    have hranges : inRanges [(0x30, 0x39), (0x41, 0x5A), (0x5F, 0x5F), (0x61, 0x7A)] c = false :=
      inRanges_eq_false_of_disjoint (by decide +kernel) h
    exact Bool.eq_false_iff.2 fun hc => Bool.eq_false_iff.1 hranges (inRanges_of_isAsciiWord hc)
  have hdot : c ≠ '.' := by
    rintro rfl
    exact absurd h (by decide)
  simp [isConditionChar, isWord, hascii, hword, hdot]

/-! ### Tags -/

section Tags

variable {isPathChar : Char → Bool} {path text : Text}

/-- A path with the end of its tag is read up to that end. -/
theorem pathAndClose?_append (hclose : isPathChar '}' = false) (hne : path ≠ [])
    (hpath : ∀ c ∈ path, isPathChar c = true) (text : Text) :
    pathAndClose? isPathChar (path ++ (tagClose ++ text)) = some (path, text) := by
  have htake : (path ++ (tagClose ++ text)).takeWhile isPathChar = path := by
    change (path ++ '}' :: '}' :: text).takeWhile isPathChar = path
    rw [List.takeWhile_append_of_pos hpath, List.takeWhile_cons_of_neg (by simp [hclose]),
      List.append_nil]
  have hdrop : (path ++ (tagClose ++ text)).dropWhile isPathChar = tagClose ++ text := by
    change (path ++ '}' :: '}' :: text).dropWhile isPathChar = _
    rw [List.dropWhile_append_of_pos hpath, List.dropWhile_cons_of_neg (by simp [hclose])]
    rfl
  obtain ⟨c, inner, rfl⟩ := List.exists_cons_of_ne_nil hne
  rw [pathAndClose?, htake, hdrop, isPrefixOf?_eq_some_iff.2 rfl]

theorem variableTag?_append (hne : path ≠ []) (hpath : ∀ c ∈ path, isVariableChar c = true)
    (text : Text) : variableTag? (tagOpen ++ path ++ tagClose ++ text) = some (path, text) := by
  rw [List.append_assoc, List.append_assoc, variableTag?, isPrefixOf?_eq_some_iff.2 rfl]
  exact pathAndClose?_append (by decide) hne hpath text

theorem conditionTag?_append {blanks : Text} (hblanks_ne : blanks ≠ [])
    (hblanks : ∀ c ∈ blanks, isBlank c = true) (hne : path ≠ [])
    (hpath : ∀ c ∈ path, isConditionChar c = true) (text : Text) :
    conditionTag? (ifOpen ++ blanks ++ path ++ tagClose ++ text) = some (path, text) := by
  obtain ⟨c, inner, rfl⟩ := List.exists_cons_of_ne_nil hne
  have hc : isBlank c = false := by
    rw [← Bool.not_eq_true]
    intro hblank
    have hcond := hpath c List.mem_cons_self
    rw [isConditionChar_eq_false_of_isBlank hblank] at hcond
    exact absurd hcond (by decide)
  have htake (more : Text) : (blanks ++ c :: more).takeWhile isBlank = blanks := by
    rw [List.takeWhile_append_of_pos hblanks, List.takeWhile_cons_of_neg (by simp [hc]),
      List.append_nil]
  have hdrop (more : Text) : (blanks ++ c :: more).dropWhile isBlank = c :: more := by
    rw [List.dropWhile_append_of_pos hblanks, List.dropWhile_cons_of_neg (by simp [hc])]
  have htext : ifOpen ++ blanks ++ c :: inner ++ tagClose ++ text =
      ifOpen ++ (blanks ++ c :: (inner ++ (tagClose ++ text))) := by simp
  rw [htext, conditionTag?, isPrefixOf?_eq_some_iff.2 rfl]
  dsimp only
  rw [htake, hdrop, if_neg (by simpa using hblanks_ne)]
  exact pathAndClose?_append (by decide +kernel) hne hpath text

theorem conditionTag?_eq_none (h : ¬ ifOpen <+: text) : conditionTag? text = none := by
  rw [conditionTag?, isPrefixOf?_eq_none_iff.2 h]

theorem variableTag?_eq_none (h : ¬ tagOpen <+: text) : variableTag? text = none := by
  rw [variableTag?, isPrefixOf?_eq_none_iff.2 h]

/-- Behind the opening braces of a variable stands a character of its path. -/
theorem noStart_var (hne : path ≠ []) (hpath : ∀ c ∈ path, isVariableChar c = true) {c : Char}
    (hc : isVariableChar c = false) (inner right : Text) :
    NoStart ('{' :: '{' :: c :: inner) (tagOpen ++ path ++ tagClose) right := by
  obtain ⟨d, path, rfl⟩ := List.exists_cons_of_ne_nil hne
  have hd : isVariableChar d = true := hpath d List.mem_cons_self
  have hrest : '{' ∉ d :: path ++ tagClose := by
    rw [List.mem_append, not_or]
    exact ⟨fun hmem => absurd (hpath _ hmem) (by decide), by decide⟩
  change NoStart _ ('{' :: '{' :: (d :: path ++ tagClose)) right
  refine noStart_cons_iff.2 ⟨fun hbegins => ?_, noStart_cons_iff.2 ⟨fun hbegins => ?_,
    noStart_of_notMem hrest _ _⟩⟩
  · simp only [List.cons_append, List.cons_prefix_cons, true_and] at hbegins
    rw [hbegins.1, hd] at hc
    exact absurd hc (by decide)
  · simp only [List.cons_append, List.cons_prefix_cons, true_and] at hbegins
    rw [← hbegins.1] at hd
    exact absurd hd (by decide)

end Tags

/-- The tags of conditionals begin in no literal and in no variable. -/
theorem noStart_print (piece : Piece) {c : Char} (hc : isVariableChar c = false)
    (inner right : Text) : NoStart ('{' :: '{' :: c :: inner) piece.print right := by
  cases piece with
  | literal content notMem => exact noStart_of_notMem notMem _ right
  | var path ne_nil isPath => exact noStart_var ne_nil isPath hc inner right

theorem noStart_printPieces (pieces : List Piece) {c : Char} (hc : isVariableChar c = false)
    (inner right : Text) : NoStart ('{' :: '{' :: c :: inner) (printPieces pieces) right := by
  induction pieces with
  | nil => exact noStart_nil _ right
  | cons piece pieces ih => exact (noStart_print piece hc inner _).append ih

/-! ### The first pass -/

variable {holds : Text → Bool} {value : Text → Option Text} {left text path body inner after : Text}

theorem resolveConditionals_append (h : NoStart ifOpen left text) :
    resolveConditionals holds (left ++ text) = left ++ resolveConditionals holds text := by
  induction left with
  | nil => rfl
  | cons c left ih =>
    obtain ⟨hhead, hleft⟩ := noStart_cons_iff.1 h
    rw [List.cons_append, resolveConditionals]
    split
    · rw [ih hleft, List.cons_append]
    · next htag =>
      rw [conditionTag?_eq_none hhead] at htag
      exact absurd htag (by simp)

theorem resolveConditionals_of_conditionTag? (htag : conditionTag? text = some (path, body))
    (hclose : splitFirst? ifClose body = some (inner, after)) :
    resolveConditionals holds text =
      (if holds path then inner else []) ++ resolveConditionals holds after := by
  cases text with
  | nil => exact absurd (htag.symm.trans (conditionTag?_eq_none (by decide))) (by simp)
  | cons c text =>
    rw [resolveConditionals]
    split
    · next hnone => simp [htag] at hnone
    next path' body' hsome =>
    obtain ⟨rfl, rfl⟩ : path = path' ∧ body = body' := by simpa [htag] using hsome
    split
    · next hnone => simp [hclose] at hnone
    next inner' after' hsplit =>
    obtain ⟨rfl, rfl⟩ : inner = inner' ∧ after = after' := by simpa [hclose] using hsplit
    rfl

/-- The literals and variables that the conditionals of a template keep. -/
def keep (holds : Text → Bool) (items : List Item) : List Piece :=
  items.flatMap fun
    | .piece p => [p]
    | .conditional _ path body _ _ _ _ => if holds path then body else []

@[simp] theorem keep_nil : keep holds [] = [] := rfl

@[simp] theorem keep_cons_piece (piece : Piece) (items : List Item) :
    keep holds (.piece piece :: items) = piece :: keep holds items := rfl

/-- **The first pass.** What it leaves of a written template is the text of the literals and
variables that the conditionals keep. -/
theorem resolveConditionals_print (holds : Text → Bool) (items : List Item) :
    resolveConditionals holds (print items) = printPieces (keep holds items) := by
  induction items with
  | nil => simp [resolveConditionals]
  | cons item items ih =>
    cases item with
    | piece piece =>
      have hopen : NoStart ifOpen piece.print (print items) :=
        noStart_print piece (c := '#') (by decide) _ _
      rw [print_cons, Item.print, resolveConditionals_append hopen, ih, keep_cons_piece,
        printPieces_cons]
    | conditional blanks path body blanks_ne_nil isBlank path_ne_nil isPath =>
      have htag := conditionTag?_append blanks_ne_nil isBlank path_ne_nil isPath
        (printPieces body ++ (ifClose ++ print items))
      have hinner : NoStart ifClose (printPieces body) (ifClose ++ print items) :=
        noStart_printPieces body (c := '/') (by decide) _ _
      have hclose : splitFirst? ifClose (printPieces body ++ (ifClose ++ print items)) =
          some (printPieces body, print items) := by
        simp [splitFirst?_append_of_noStart hinner, splitFirst?_self_append]
      rw [print_cons, Item.print, List.append_assoc, List.append_assoc,
        resolveConditionals_of_conditionTag? htag hclose, ih]
      change _ = printPieces ((if holds path then body else []) ++ keep holds items)
      rw [printPieces_append, apply_ite printPieces, printPieces_nil]

/-! ### The second pass -/

theorem resolveVariables_append (h : NoStart tagOpen left text) :
    resolveVariables value (left ++ text) = left ++ resolveVariables value text := by
  induction left with
  | nil => rfl
  | cons c left ih =>
    obtain ⟨hhead, hleft⟩ := noStart_cons_iff.1 h
    rw [List.cons_append, resolveVariables]
    split
    · rw [ih hleft, List.cons_append]
    · next htag =>
      rw [variableTag?_eq_none hhead] at htag
      exact absurd htag (by simp)

theorem resolveVariables_of_variableTag? (htag : variableTag? text = some (path, after)) :
    resolveVariables value text =
      (value path).getD (tagOpen ++ path ++ tagClose) ++ resolveVariables value after := by
  cases text with
  | nil => exact absurd (htag.symm.trans (variableTag?_eq_none (by decide))) (by simp)
  | cons c text =>
    rw [resolveVariables]
    split
    · next hnone => simp [htag] at hnone
    next path' after' hsome =>
    obtain ⟨rfl, rfl⟩ : path = path' ∧ after = after' := by simpa [htag] using hsome
    rfl

theorem valueText?_getD (context : Json) (path : Text) (ne_nil : path ≠ [])
    (isPath : ∀ c ∈ path, isVariableChar c = true) :
    (valueText? context path).getD (tagOpen ++ path ++ tagClose) =
      (Piece.var path ne_nil isPath).evaluate context := by
  rw [valueText?, Piece.evaluate]
  split <;> simp_all

/-- **The second pass.** Of written literals and variables, it leaves what they stand for. -/
theorem resolveVariables_print (context : Json) (pieces : List Piece) :
    resolveVariables (valueText? context) (printPieces pieces) =
      pieces.flatMap (Piece.evaluate context) := by
  induction pieces with
  | nil => simp [resolveVariables]
  | cons piece pieces ih =>
    rw [printPieces_cons, List.flatMap_cons]
    cases piece with
    | literal content notMem =>
      have hopen : NoStart tagOpen content (printPieces pieces) := noStart_of_notMem notMem _ _
      rw [Piece.print, resolveVariables_append hopen, ih, Piece.evaluate]
    | var path ne_nil isPath =>
      rw [Piece.print, resolveVariables_of_variableTag? (variableTag?_append ne_nil isPath _), ih,
        valueText?_getD]

/-! ### Both passes -/

theorem expand_print_eq_flatMap_keep (items : List Item) (context : Json) :
    expand (print items) context =
      (keep (Template.holds context) items).flatMap (Piece.evaluate context) := by
  rw [expand, resolveConditionals_print, resolveVariables_print]

theorem flatMap_evaluate_keep (context : Json) (items : List Item) :
    (keep (Template.holds context) items).flatMap (Piece.evaluate context) =
      evaluate context items := by
  rw [keep, evaluate, List.flatMap_assoc]
  refine congrArg (fun f => items.flatMap f) (funext fun item => ?_)
  cases item with
  | piece piece => exact List.append_nil _
  | conditional blanks path body blanks_ne_nil isBlank path_ne_nil isPath =>
    change List.flatMap _ (if (context.atPath? path).any Json.isTruthy then body else []) = _
    rw [Item.evaluate]
    cases context.atPath? path with
    | none => rfl
    | some value => cases h : value.isTruthy <;> simp [h]

end Template

end SiteWeave
