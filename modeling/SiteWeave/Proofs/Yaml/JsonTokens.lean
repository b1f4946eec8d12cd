import SiteWeave.Proofs.Yaml.FlowTokens

/-!
# The tokens of JSON values in YAML

The tokens that YAML reads in a JSON text, by recursion on the value. The blanks around the tokens
play no part, except for the tabs in front of the first one and behind the last one.

## Main definitions

* `JsonText.Value.kinds`: the tokens of a value.
* `JsonText.Value.isReadable`: whether YAML reads all strings of a value.
* `JsonText.Document.HasTokens`: whether YAML reads tokens up to the end of a document.

## Main results

* `JsonText.Value.reads`: a value is read as its tokens, or its reading ends in a fault.
* `JsonText.Document.isReadAs_ofText`: the tokens of a document.
-/

namespace SiteWeave

namespace JsonText

open Yaml

mutual

/-- The tokens of a value. -/
def Value.kinds : Value → List TokenKind
  | .word word => [.scalar (String.ofList word.text) true]
  | .string letters => [.scalar (String.ofList ((quoted? letters).getD [])) false]
  | .array items _ => .flowSequenceStart :: (items.kinds true ++ [.flowSequenceEnd])
  | .object members _ => .flowMappingStart :: (members.kinds true ++ [.flowMappingEnd])

/-- The tokens of items; a comma stands in front of each but the first one. -/
def Items.kinds (isFirst : Bool) : Items → List TokenKind
  | .nil => []
  | .cons _ value _ items =>
    (if isFirst then [] else [.entry]) ++ (value.kinds ++ items.kinds false)

/-- The tokens of members. A key that is not simple has no token in front. -/
def Members.kinds (isFirst : Bool) : Members → List TokenKind
  | .nil => []
  | .cons _ key gap _ value _ members =>
    (if isFirst then [] else [.entry]) ++ ((if isSimpleKey key gap then [.key] else []) ++
      [.scalar (String.ofList ((quoted? key).getD [])) false, .value] ++
      (value.kinds ++ members.kinds false))

end

mutual

/-- Whether YAML reads all strings of a value. -/
def Value.isReadable : Value → Bool
  | .word _ => true
  | .string letters => (quoted? letters).isSome
  | .array items _ => items.isReadable
  | .object members _ => members.isReadable

/-- Whether YAML reads all strings of items. -/
def Items.isReadable : Items → Bool
  | .nil => true
  | .cons _ value _ items => value.isReadable && items.isReadable

/-- Whether YAML reads all strings of members. -/
def Members.isReadable : Members → Bool
  | .nil => true
  | .cons _ key _ _ value _ members =>
    (quoted? key).isSome && (value.isReadable && members.isReadable)

end

end JsonText

namespace Yaml

open JsonText

namespace ScanState

variable {σ : ScanState} {depth : Nat} {kinds : List TokenKind} {P : TokenStream → Prop}
  {rest text : Text}

/-- Whether a text is unread up to the blanks at its front. -/
def Sees (σ : ScanState) (text : Text) : Prop :=
  σ.cursor.unread.dropWhile Reader.isSpace = text.dropWhile Reader.isSpace

theorem sees_append {blank : Blank} : σ.Sees (blank.text ++ text) ↔ σ.Sees text := by
  rw [Sees, Sees, List.dropWhile_append_of_pos blank.isSpace]

theorem Sees.of_unread (h : σ.cursor.unread = text) : σ.Sees text :=
  congrArg _ h

/-- Reading on in a flow collection goes on behind the next token. -/
theorem IsAt.reads_of_sees (h : σ.IsAt (depth + 1) kinds) {c : Char} (hsees : σ.Sees (c :: rest))
    (hspace : Reader.isSpace c = false) (hstart : isSpacing c = false ∧ c ≠ '#' ∧ c ≠ '\ufeff')
    (hlead : ∀ next : ScanState, next.IsAt (depth + 1) kinds → next.cursor.unread = c :: rest →
      next.keyAllowed = σ.keyAllowed → next.Leads P) : σ.Reads P := by
  have hdrop : σ.cursor.unread.dropWhile Reader.isSpace = c :: rest := by
    rw [hsees, List.dropWhile_cons_of_neg (by simp [hspace])]
  have hunread : σ.cursor.unread = σ.cursor.unread.takeWhile Reader.isSpace ++ c :: rest := by
    rw [← hdrop, List.takeWhile_append_dropWhile]
  refine h.reads hunread (fun c hc => List.mem_takeWhile_imp hc)
    (by rintro _ ⟨⟩; exact hstart) (.inl (Nat.succ_pos _)) fun next key hpass hkey => ?_
  exact hlead _ (h.arrive next key) (hpass.unread_eq hunread) (hkey (Nat.succ_pos _))

/-- A comma is read in front of all entries but the first one. -/
theorem IsAt.reads_separator (h : σ.IsAt (depth + 1) kinds) {isFirst : Bool}
    (hkey : isFirst = true → σ.keyAllowed = true)
    (hsees : σ.Sees ((if isFirst then [] else [',']) ++ text))
    (hnext : ∀ next : ScanState, next.IsAt (depth + 1) (kinds ++ if isFirst then [] else [.entry]) →
      next.Sees text → next.keyAllowed = true → next.Reads P) : σ.Reads P := by
  cases isFirst with
  | true => exact hnext σ (by simpa using h) hsees (hkey rfl)
  | false =>
    refine h.reads_of_sees hsees rfl (by decide) fun next hat hunread _ => ?_
    exact hat.leads_entry hunread fun behind hbehind hunread hkey =>
      hnext behind hbehind (.of_unread hunread) hkey

end ScanState

end Yaml

namespace JsonText

open Yaml

variable {P : TokenStream → Prop}

theorem startsToken_of_startsWord {c : Char} {rest : Text} (h : startsWord c rest) :
    isSpacing c = false ∧ c ≠ '#' ∧ c ≠ '\ufeff' := by
  have hne (d : Char) (hd : (d.isAlphanum || d = '-') = false) : c ≠ d := ne_of_startsWord h hd
  simp [isSpacing, Yaml.isBlank, isBreak, hne ' ' rfl, hne '\t' rfl, hne '\n' rfl, hne '\r' rfl,
    hne '\u0085' rfl, hne '\u2028' rfl, hne '\u2029' rfl, hne '#' rfl, hne '\ufeff' rfl]

/-- The text behind an item goes on with a comma or the closing bracket. -/
theorem Items.exists_flowMark (items : Items) (inner : Blank) (rest : Text) :
    ∃ (blank : Blank) (d : Char) (more : Text), isFlowMark d ∧
      items.text false ++ (inner.text ++ ']' :: rest) = blank.text ++ d :: more := by
  cases items with
  | nil => exact ⟨inner, ']', rest, rfl, by rw [Items.text, List.nil_append]⟩
  | cons front value behind items => exact ⟨.empty, ',', _, rfl, by rw [Items.text]; rfl⟩

/-- The text behind a member goes on with a comma or the closing brace. -/
theorem Members.exists_flowMark (members : Members) (inner : Blank) (rest : Text) :
    ∃ (blank : Blank) (d : Char) (more : Text), isFlowMark d ∧
      members.text false ++ (inner.text ++ '\x7d' :: rest) = blank.text ++ d :: more := by
  cases members with
  | nil => exact ⟨inner, '\x7d', rest, rfl, by rw [Members.text, List.nil_append]⟩
  | cons => exact ⟨.empty, ',', _, rfl, by rw [Members.text]; rfl⟩

mutual

/-- **A value is read as its tokens**, or its reading ends in a fault. -/
theorem Value.reads (value : Value) {σ : ScanState} {depth : Nat} {kinds : List TokenKind}
    {blank : Blank} {d : Char} {rest : Text} (hat : σ.IsAt (depth + 1) kinds) (hd : isFlowMark d)
    (hsees : σ.Sees (value.text ++ (blank.text ++ d :: rest)))
    (hbroken : value.isReadable = false → ∀ stream : TokenStream, stream.IsBroken → P stream)
    (hnext : value.isReadable = true → ∀ next : ScanState,
      next.IsAt (depth + 1) (kinds ++ value.kinds) → next.Sees (d :: rest) → next.Reads P) :
    σ.Reads P := by
  cases value with
  | word word =>
    obtain ⟨c, more, htext, hc⟩ := word.text_eq_cons
    rw [Value.text_word, htext, List.cons_append] at hsees
    refine hat.reads_of_sees hsees (not_isSpace_of_startsValue (startsValue_of_startsWord hc))
      (startsToken_of_startsWord hc) fun next hat hunread _ => ?_
    rw [← List.cons_append, ← htext] at hunread
    refine hat.leads_word hd hunread fun next hat hunread => ?_
    exact hnext (by rw [Value.isReadable]) next (by rwa [Value.kinds]) (.of_unread hunread)
  | string letters =>
    rw [Value.text_string, List.cons_append] at hsees
    simp only [Value.isReadable, Value.kinds] at hbroken hnext
    refine hat.reads_of_sees hsees rfl (by decide) fun next hat hunread _ => ?_
    refine hat.leads_string hunread (fun h => hbroken (by simp [h]))
      fun text htext next hat hunread => ?_
    rw [htext] at hnext
    exact hnext rfl next hat (ScanState.sees_append.1 (.of_unread hunread))
  | array items inner =>
    rw [Value.text_array, List.cons_append] at hsees
    simp only [Value.isReadable, Value.kinds] at hbroken hnext
    refine hat.reads_of_sees hsees rfl (by decide) fun next hat hunread _ => ?_
    refine hat.leads_flowStart hunread (.inl ⟨rfl, rfl⟩) fun next hat hunread hkey => ?_
    rw [List.append_assoc, List.append_assoc] at hunread
    refine items.reads hat (fun _ => hkey) (.of_unread hunread) hbroken
      fun hreadable next hat hsees => ?_
    refine hat.reads_of_sees hsees rfl (by decide) fun next hat hunread _ => ?_
    refine hat.leads_flowEnd hunread (.inl ⟨rfl, rfl⟩) fun next hat hunread hkey => ?_
    refine hnext hreadable next (by simpa using hat) ?_
    exact ScanState.sees_append.1 (.of_unread hunread)
  | object members inner =>
    rw [Value.text_object, List.cons_append] at hsees
    simp only [Value.isReadable, Value.kinds] at hbroken hnext
    refine hat.reads_of_sees hsees rfl (by decide) fun next hat hunread _ => ?_
    refine hat.leads_flowStart hunread (.inr ⟨rfl, rfl⟩) fun next hat hunread hkey => ?_
    rw [List.append_assoc, List.append_assoc] at hunread
    refine members.reads hat (fun _ => hkey) (.of_unread hunread) hbroken
      fun hreadable next hat hsees => ?_
    refine hat.reads_of_sees hsees rfl (by decide) fun next hat hunread _ => ?_
    refine hat.leads_flowEnd hunread (.inr ⟨rfl, rfl⟩) fun next hat hunread hkey => ?_
    refine hnext hreadable next (by simpa using hat) ?_
    exact ScanState.sees_append.1 (.of_unread hunread)

/-- Items are read as their tokens. -/
theorem Items.reads (items : Items) {σ : ScanState} {depth : Nat} {kinds : List TokenKind}
    {isFirst : Bool} {inner : Blank} {rest : Text} (hat : σ.IsAt (depth + 1) kinds)
    (hkey : isFirst = true → σ.keyAllowed = true)
    (hsees : σ.Sees (items.text isFirst ++ (inner.text ++ ']' :: rest)))
    (hbroken : items.isReadable = false → ∀ stream : TokenStream, stream.IsBroken → P stream)
    (hnext : items.isReadable = true → ∀ next : ScanState,
      next.IsAt (depth + 1) (kinds ++ items.kinds isFirst) → next.Sees (']' :: rest) →
      next.Reads P) : σ.Reads P := by
  cases items with
  | nil =>
    rw [Items.text, List.nil_append, ScanState.sees_append] at hsees
    exact hnext rfl σ (by simpa [Items.kinds] using hat) hsees
  | cons front value behind items =>
    obtain ⟨gap, d, more, hd, hmore⟩ := items.exists_flowMark inner rest
    simp only [Items.text, List.append_assoc, hmore] at hsees
    simp only [Items.isReadable, Items.kinds, Bool.and_eq_true, Bool.and_eq_false_iff]
      at hbroken hnext
    refine hat.reads_separator hkey hsees fun next hat hsees _ => ?_
    rw [ScanState.sees_append, ← List.append_assoc behind.text, ← Blank.text_append] at hsees
    refine value.reads hat hd hsees (fun h => hbroken (.inl h)) fun hvalue next hat hsees => ?_
    have hrest : next.Sees (items.text false ++ (inner.text ++ ']' :: rest)) := by
      rw [hmore]
      exact ScanState.sees_append.2 hsees
    refine items.reads hat (fun h => absurd h Bool.false_ne_true) hrest (fun h => hbroken (.inr h))
      fun hitems next hat hsees => ?_
    exact hnext ⟨hvalue, hitems⟩ next (by simpa using hat) hsees

/-- Members are read as their tokens. -/
theorem Members.reads (members : Members) {σ : ScanState} {depth : Nat} {kinds : List TokenKind}
    {isFirst : Bool} {inner : Blank} {rest : Text} (hat : σ.IsAt (depth + 1) kinds)
    (hkey : isFirst = true → σ.keyAllowed = true)
    (hsees : σ.Sees (members.text isFirst ++ (inner.text ++ '\x7d' :: rest)))
    (hbroken : members.isReadable = false → ∀ stream : TokenStream, stream.IsBroken → P stream)
    (hnext : members.isReadable = true → ∀ next : ScanState,
      next.IsAt (depth + 1) (kinds ++ members.kinds isFirst) → next.Sees ('\x7d' :: rest) →
      next.Reads P) : σ.Reads P := by
  cases members with
  | nil =>
    rw [Members.text, List.nil_append, ScanState.sees_append] at hsees
    exact hnext rfl σ (by simpa [Members.kinds] using hat) hsees
  | cons front key gap between value behind members =>
    obtain ⟨blank, d, more, hd, hmore⟩ := members.exists_flowMark inner rest
    simp only [Members.text, List.append_assoc, List.cons_append, hmore] at hsees
    simp only [Members.isReadable, Members.kinds, Bool.and_eq_true, Bool.and_eq_false_iff]
      at hbroken hnext
    refine hat.reads_separator hkey hsees fun next hat hsees hkey => ?_
    rw [ScanState.sees_append, inQuotes, List.cons_append] at hsees
    refine hat.reads_of_sees hsees rfl (by decide) fun next hat hunread hsame => ?_
    refine hat.leads_key (hsame.trans hkey) hunread (fun h => hbroken (.inl (by simp [h])))
      fun text htext next hat hunread => ?_
    rw [htext] at hbroken hnext
    have hsees := ScanState.sees_append.1 (.of_unread hunread)
    rw [← List.append_assoc behind.text, ← Blank.text_append] at hsees
    refine value.reads hat hd hsees (fun h => hbroken (.inr (.inl h)))
      fun hvalue next hat hsees => ?_
    have hrest : next.Sees (members.text false ++ (inner.text ++ '\x7d' :: rest)) := by
      rw [hmore]
      exact ScanState.sees_append.2 hsees
    refine members.reads hat (fun h => absurd h Bool.false_ne_true) hrest
      (fun h => hbroken (.inr (.inr h))) fun hmembers next hat hsees => ?_
    exact hnext ⟨rfl, hvalue, hmembers⟩ next (by simpa using hat) hsees

end

/-- Whether YAML reads tokens up to the end of a document: no character is refused, no tab stands
where a block could be indented, and all strings can be read. -/
structure Document.HasTokens (document : Document) : Prop where
  isAllowed : document.text.all TokenStream.isAllowed
  front : hasStrayTab true document.front.text = false
  behind : hasStrayTab false document.behind.text = false
  isReadable : document.members.isReadable

/-- What YAML reads in a document: the tokens of its object, or a fault. -/
structure Document.IsReadAs (document : Document) (stream : TokenStream) : Prop where
  tokens_eq : document.HasTokens → stream.fault = none ∧ stream.tokens.map Token.kind =
    (Value.object document.members document.inner).kinds ++ [.streamEnd]
  isBroken : ¬ document.HasTokens → stream.IsBroken

theorem Document.isReadAs_of_isBroken {document : Document} (h : ¬ document.HasTokens)
    (stream : TokenStream) (hstream : stream.IsBroken) : document.IsReadAs stream :=
  ⟨fun h' => absurd h' h, fun _ => hstream⟩

/-- Behind the object of a document the text ends, unless a tab is stray. -/
theorem Document.reads_behind {document : Document}
    (hallowed : document.text.all TokenStream.isAllowed)
    (hfront : hasStrayTab true document.front.text = false)
    (hreadable : document.members.isReadable) {σ : ScanState}
    (hat : σ.IsAt 0 (Value.object document.members document.inner).kinds)
    (hunread : σ.cursor.unread = document.behind.text) (hkey : σ.keyAllowed = false) :
    σ.Reads document.IsReadAs := by
  by_cases htab : hasStrayTab false document.behind.text
  · refine hat.reads_of_hasStrayTab (by rw [hunread, List.append_nil]) document.behind.isSpace
      (by rintro _ ⟨⟩) (by rwa [hkey]) (isReadAs_of_isBroken fun h => ?_)
    exact absurd htab (by simp [h.behind])
  · rw [Bool.not_eq_true] at htab
    refine hat.reads_end hunread (by rwa [hkey]) fun tokens htokens =>
      ⟨fun _ => ⟨rfl, htokens⟩, fun h => ?_⟩
    exact absurd ⟨hallowed, hfront, htab, hreadable⟩ h

/-- **The tokens of a document** in YAML are those of its object, or there is a fault. -/
theorem Document.isReadAs_ofText (document : Document) :
    document.IsReadAs (TokenStream.ofText document.text) := by
  rw [TokenStream.ofText]
  split
  · rename_i hallowed
    suffices hreads : ScanState.Reads { cursor := ⟨document.text, {}⟩ } document.IsReadAs from
      hreads _ (Nat.lt_succ_self _)
    have hat : ScanState.IsAt { cursor := ⟨document.text, {}⟩ } 0 [] :=
      ⟨rfl, by simp [ScanState.IsOptional], rfl, rfl, by simp⟩
    have hunread : document.text = document.front.text ++ '\x7b' :: (document.members.text true ++
        (document.inner.text ++ '\x7d' :: document.behind.text)) := by
      rw [Document.text, Value.text_object]
      simp
    have hstart : ScanState.StartsToken ('\x7b' :: (document.members.text true ++
        (document.inner.text ++ '\x7d' :: document.behind.text))) := by
      rintro c ⟨⟩
      decide
    by_cases hfront : hasStrayTab true document.front.text
    · exact hat.reads_of_hasStrayTab hunread document.front.isSpace hstart hfront
        (isReadAs_of_isBroken fun h => absurd hfront (by simp [h.front]))
    rw [Bool.not_eq_true] at hfront
    refine hat.reads hunread document.front.isSpace hstart (.inr hfront) fun next key hpass _ => ?_
    refine (hat.arrive next key).leads_flowStart (hpass.unread_eq hunread) (.inr ⟨rfl, rfl⟩)
      fun next hat hunread hkey => ?_
    refine document.members.reads hat (fun _ => hkey) (.of_unread hunread)
      (fun h => isReadAs_of_isBroken fun h' => absurd h'.isReadable (by simp [h]))
      fun hreadable next hat hsees => ?_
    refine hat.reads_of_sees hsees rfl (by decide) fun next hat hunread _ => ?_
    refine hat.leads_flowEnd hunread (.inr ⟨rfl, rfl⟩) fun next hat hunread hkey => ?_
    exact reads_behind hallowed hfront hreadable (by rw [Value.kinds]; simpa using hat) hunread hkey
  · rename_i hallowed
    exact isReadAs_of_isBroken (fun h => hallowed h.isAllowed) _ ⟨rfl, by simp⟩

end JsonText

end SiteWeave
