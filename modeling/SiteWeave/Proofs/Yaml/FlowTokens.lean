import SiteWeave.Proofs.Yaml.Spacing

/-!
# Tokens of flow collections in YAML

Each token of a JSON text is read in YAML from the blanks in front of it to the text behind it. What
is read from a state on is described by the streams of tokens that it may come to, so that a fault
ends the description at once.

## Main definitions

* `Yaml.isSimpleKey`: whether a string may be a key in YAML.
* `Yaml.TokenStream.IsBroken`: a stream that ends in a fault.
* `Yaml.ScanState.IsAt`: a state by its depth and the tokens in front of it.
* `Yaml.ScanState.Reads`, `Yaml.ScanState.Leads`: what reading on comes to, from a state and from a
  token.

## Main results

* `Yaml.ScanState.IsAt.reads`: reading on goes on behind the next token.
* `Yaml.ScanState.IsAt.leads_flowStart`, `Yaml.ScanState.IsAt.leads_string`,
  `Yaml.ScanState.IsAt.leads_key` and their like: one token each.
* `Yaml.ScanState.IsAt.reads_end`: the end of the text.
-/

namespace SiteWeave.Yaml

open JsonText

/-- Whether a key and the blanks behind it stand on one line and are not too long. -/
def isSimpleKey (key : List Letter) (gap : Blank) : Bool :=
  (inQuotes key ++ gap.text).all (fun c => !isBreak c) && (inQuotes key ++ gap.text).length ≤ 1024

/-- A stream of tokens that ends in a fault and not at the end of the text. -/
structure TokenStream.IsBroken (stream : TokenStream) : Prop where
  fault : stream.fault.isSome
  noEnd : ∀ token ∈ stream.tokens, token.kind ≠ .streamEnd

namespace ScanState

variable {σ : ScanState} {rest : Text}

/-! ### Candidates for keys -/

/-- The state with the candidates that are still keys at a place. -/
def refresh (σ : ScanState) (mark : Mark) : ScanState :=
  { σ with
    candidates := σ.candidates.map fun c => c.filter fun candidate => !candidate.isStale mark }

/-- No candidate has to be a key. -/
def IsOptional (σ : ScanState) : Prop :=
  ∀ candidate, some candidate ∈ σ.candidates → candidate.required = false

theorem IsOptional.refresh (h : σ.IsOptional) (mark : Mark) : (σ.refresh mark).IsOptional := by
  intro candidate hmem
  obtain ⟨c, hc, heq⟩ := List.mem_map.1 hmem
  obtain ⟨rfl, -⟩ := Option.filter_eq_some_iff.1 heq
  exact h candidate hc

theorem dropStale_eq_ok (h : σ.IsOptional) : σ.dropStale = .ok (σ.refresh σ.cursor.mark) := by
  unfold dropStale
  dsimp only
  split
  · rename_i hnone
    have hfresh : (σ.candidates.map fun c => c.filter fun candidate =>
        !candidate.isStale σ.cursor.mark) = σ.candidates := by
      refine (List.map_congr_left fun c hc => ?_).trans (List.map_id _)
      have hstale := List.filterMap_eq_nil_iff.1 (List.isEmpty_iff.1 hnone) c hc
      cases c with
      | none => rfl
      | some candidate => simpa [Option.filter] using hstale
    rw [refresh, hfresh]
  · rw [List.find?_eq_none.2]
    · rfl
    · intro candidate hcandidate
      obtain ⟨c, hc, heq⟩ := List.mem_filterMap.1 hcandidate
      obtain ⟨rfl, -⟩ := Option.filter_eq_some_iff.1 heq
      simp [h candidate hc]

/-- A candidate that is no key at a place is none further on. -/
theorem refresh_refresh {a b : Mark} (hline : a.line ≤ b.line) (hindex : a.index ≤ b.index) :
    (σ.refresh a).refresh b = σ.refresh b := by
  have hfilter (c : Option KeyCandidate) :
      (c.filter fun candidate => !candidate.isStale a).filter
          (fun candidate => !candidate.isStale b) =
        c.filter fun candidate => !candidate.isStale b := by
    cases c with
    | none => rfl
    | some candidate =>
      by_cases ha : candidate.isStale a
      · have hb : candidate.isStale b := by
          simp only [KeyCandidate.isStale, Bool.or_eq_true, decide_eq_true_eq] at ha ⊢
          omega
        simp [Option.filter, ha, hb]
      · simp [Option.filter, ha]
  simp only [refresh, List.map_map, Function.comp_def, hfilter]

theorem unindent_eq (h : σ.indents = []) (column : Int) : σ.unindent column = σ := by
  unfold unindent
  split
  · rfl
  · rw [h]
    simp only [closeBlocks]
    rw [← h]

theorem skipOrderMark_eq (h : σ.cursor.unread.head? ≠ some '\ufeff') : σ.skipOrderMark = σ := by
  simp [skipOrderMark, Cursor.peek?, h]

/-! ### Reading on -/

/-- A state at `depth` open flow collections and outside of blocks, whose tokens are known by their
kinds and in which no candidate has to be a key. -/
structure IsAt (σ : ScanState) (depth : Nat) (kinds : List TokenKind) : Prop where
  length : σ.candidates.length = depth + 1
  isOptional : σ.IsOptional
  indents : σ.indents = []
  kinds_eq : σ.tokens.reverse.map Token.kind = kinds
  noEnd : .streamEnd ∉ kinds

variable {depth : Nat} {kinds : List TokenKind} {P : TokenStream → Prop}

theorem IsAt.inFlow_eq (h : σ.IsAt depth kinds) : σ.inFlow = decide (0 < depth) := by
  have hlength := h.length
  unfold inFlow
  split
  · rename_i heq
    rw [heq] at hlength
    simp at hlength
    simp; omega
  · rename_i hne
    match hcandidates : σ.candidates with
    | [] => simp [hcandidates] at hlength
    | [_] => simp [hcandidates] at hlength; simp [← hlength]
    | _ :: _ :: _ => exact absurd hcandidates (hne _ _ _)

theorem IsAt.refresh (h : σ.IsAt depth kinds) (mark : Mark) :
    (σ.refresh mark).IsAt depth kinds where
  length := by rw [ScanState.refresh, List.length_map, h.length]
  isOptional := h.isOptional.refresh mark
  indents := h.indents
  kinds_eq := h.kinds_eq
  noEnd := h.noEnd

theorem IsAt.moved (h : σ.IsAt depth kinds) (cursor : Cursor) (keyAllowed : Bool) :
    ({ σ with cursor := cursor, keyAllowed := keyAllowed } : ScanState).IsAt depth kinds :=
  ⟨h.length, h.isOptional, h.indents, h.kinds_eq, h.noEnd⟩

/-- What reading on from a state gives, with enough fuel. -/
def Reads (σ : ScanState) (P : TokenStream → Prop) : Prop :=
  ∀ fuel, σ.cursor.unread.length + 1 < fuel → P (TokenStream.readFrom fuel σ)

/-- What reading on from a token gives, which takes a part of the unread text. -/
def Leads (σ : ScanState) (P : TokenStream → Prop) : Prop :=
  match σ.readToken with
  | .ok next => next.cursor.unread.length < σ.cursor.unread.length ∧ next.Reads P
  | .error _ => ∀ stream : TokenStream, stream.IsBroken → P stream

theorem mem_tokens_of_mem_final {token : Token} (h : token ∈ σ.final) : token ∈ σ.tokens := by
  unfold final at h
  split at h
  · exact List.mem_reverse.1 (List.mem_of_mem_take h)
  · exact List.mem_reverse.1 h

theorem IsAt.kind_ne (h : σ.IsAt depth kinds) (token : Token) (hmem : token ∈ σ.tokens) :
    token.kind ≠ .streamEnd := by
  intro hkind
  exact h.noEnd (h.kinds_eq ▸ List.mem_map.2 ⟨token, List.mem_reverse.2 hmem, hkind⟩)

theorem IsAt.isBroken_final (h : σ.IsAt depth kinds) (fault : Fault) :
    (⟨σ.final, some fault⟩ : TokenStream).IsBroken :=
  ⟨rfl, fun token hmem => h.kind_ne token (mem_tokens_of_mem_final hmem)⟩

theorem IsAt.readFrom_succ (h : σ.IsAt depth kinds) (fuel : Nat) :
    TokenStream.readFrom (fuel + 1) σ =
      match (σ.refresh σ.cursor.mark).step with
      | .error fault => ⟨(σ.refresh σ.cursor.mark).final, some fault⟩
      | .ok next => TokenStream.readFrom fuel next := by
  rw [TokenStream.readFrom, dropStale_eq_ok h.isOptional]
  dsimp only
  split
  · rename_i heq
    change σ.tokens = _ at heq
    exact absurd rfl (h.kind_ne ⟨.streamEnd, _, _⟩ (heq ▸ List.mem_cons_self))
  · rfl

/-- The state at the next token. -/
def arrive (σ : ScanState) (cursor : Cursor) (keyAllowed : Bool) : ScanState :=
  ({ σ with cursor := cursor, keyAllowed := keyAllowed } : ScanState).refresh cursor.mark

theorem IsAt.arrive (h : σ.IsAt depth kinds) (cursor : Cursor) (keyAllowed : Bool) :
    (σ.arrive cursor keyAllowed).IsAt depth kinds :=
  (h.moved cursor keyAllowed).refresh cursor.mark

/-- No token starts with a tab. -/
theorem readToken_tab (h : σ.cursor.peek? = some '\t') : ∃ fault, σ.readToken = .error fault := by
  obtain ⟨rest, hrest⟩ := List.head?_eq_some_iff.1 h
  exact ⟨_, by simp [readToken, hrest, Cursor.atMarker, startsPlain, isSpacing, isBlank]; rfl⟩

theorem IsAt.step_eq_readToken (h : σ.IsAt depth kinds)
    (hmark : σ.cursor.unread.head? ≠ some '\ufeff') {next : Cursor} {key : Bool}
    (hskip : skipSpacing σ.cursor.unread σ = { σ with cursor := next, keyAllowed := key }) :
    σ.step = (σ.arrive next key).readToken := by
  have hmoved := h.moved next key
  rw [step, skipOrderMark_eq hmark, hskip]
  simp only [dropStale_eq_ok hmoved.isOptional]
  exact congrArg readToken (unindent_eq (hmoved.refresh next.mark).indents _)

theorem arrive_refresh {mark : Mark} {next : Cursor} (hline : mark.line ≤ next.mark.line)
    (hindex : mark.index ≤ next.mark.index) (key : Bool) :
    (σ.refresh mark).arrive next key = σ.arrive next key :=
  refresh_refresh (σ := { σ with cursor := next, keyAllowed := key }) hline hindex

theorem head?_ne_orderMark {blank : Text} (hblank : ∀ c ∈ blank, Reader.isSpace c)
    (hrest : StartsToken rest) : (blank ++ rest).head? ≠ some '\ufeff' := by
  cases blank with
  | nil => exact fun h => (hrest _ h).2.2 rfl
  | cons c blank =>
    rintro ⟨⟩
    exact absurd (hblank _ List.mem_cons_self) (by decide)

/-- **The next token** is read behind the blanks in front of it. -/
theorem IsAt.step_refresh (h : σ.IsAt depth kinds) {blank : Text}
    (hunread : σ.cursor.unread = blank ++ rest) (hblank : ∀ c ∈ blank, Reader.isSpace c)
    (hrest : StartsToken rest) :
    ((0 < depth ∨ hasStrayTab σ.keyAllowed blank = false) →
      ∃ next key, σ.cursor.Passes blank next ∧ (0 < depth → key = σ.keyAllowed) ∧
        (σ.refresh σ.cursor.mark).step = (σ.arrive next key).readToken) ∧
    (depth = 0 → hasStrayTab σ.keyAllowed blank = true →
      ∃ fault, (σ.refresh σ.cursor.mark).step = .error fault) := by
  have hrefresh := h.refresh σ.cursor.mark
  have hmark : (σ.refresh σ.cursor.mark).cursor.unread.head? ≠ some '\ufeff' :=
    (congrArg List.head? hunread).trans_ne (head?_ne_orderMark hblank hrest)
  have hskips := skips_skipSpacing σ.cursor.unread blank rest (σ.refresh σ.cursor.mark)
    hunread hblank hrest (by rw [hunread, List.length_append]; omega)
  have hstray : (σ.refresh σ.cursor.mark).isStray blank =
      (!decide (0 < depth) && hasStrayTab σ.keyAllowed blank) := by
    rw [isStray, hrefresh.inFlow_eq]
    rfl
  constructor
  · intro htab
    obtain ⟨next, key, hskip, hpass, hkey⟩ := hskips.passed (by
      rw [hstray]
      rcases htab with hdepth | htab
      · simp [hdepth]
      · rw [htab, Bool.and_false])
    rw [hrefresh.inFlow_eq] at hkey
    refine ⟨next, key, hpass, fun hdepth => hkey (by simpa using hdepth), ?_⟩
    rw [hrefresh.step_eq_readToken hmark hskip]
    exact congrArg readToken (arrive_refresh hpass.line_le
      (hpass.index ▸ Nat.le_add_right _ _) key)
  · rintro rfl htab
    obtain ⟨next, hskip, hpeek⟩ := hskips.stopped (by rw [hstray, htab]; rfl)
    rw [hrefresh.step_eq_readToken hmark hskip]
    exact readToken_tab hpeek

/-- Reading on from a state goes on behind the next token. -/
theorem IsAt.reads (h : σ.IsAt depth kinds) {blank : Text}
    (hunread : σ.cursor.unread = blank ++ rest) (hblank : ∀ c ∈ blank, Reader.isSpace c)
    (hrest : StartsToken rest) (htab : 0 < depth ∨ hasStrayTab σ.keyAllowed blank = false)
    (hlead : ∀ next key, σ.cursor.Passes blank next → (0 < depth → key = σ.keyAllowed) →
      (σ.arrive next key).Leads P) : σ.Reads P := by
  intro fuel hfuel
  obtain ⟨fuel, rfl⟩ := Nat.exists_eq_add_one_of_ne_zero (n := fuel) (by omega)
  obtain ⟨next, key, hpass, hkey, hstep⟩ := (h.step_refresh hunread hblank hrest).1 htab
  have hnext := hlead next key hpass hkey
  have hlength := congrArg List.length hpass.unread
  rw [List.length_append] at hlength
  rw [h.readFrom_succ, hstep]
  unfold Leads at hnext
  cases hread : (σ.arrive next key).readToken with
  | error fault =>
    rw [hread] at hnext
    exact hnext _ ((h.refresh _).isBroken_final fault)
  | ok behind =>
    rw [hread] at hnext
    obtain ⟨hlt, hreads⟩ := hnext
    change behind.cursor.unread.length < next.unread.length at hlt
    exact hreads fuel (by omega)

/-- A tab where a block could be indented ends in a fault. -/
theorem IsAt.reads_of_hasStrayTab (h : σ.IsAt 0 kinds) {blank : Text}
    (hunread : σ.cursor.unread = blank ++ rest) (hblank : ∀ c ∈ blank, Reader.isSpace c)
    (hrest : StartsToken rest) (htab : hasStrayTab σ.keyAllowed blank)
    (hbroken : ∀ stream : TokenStream, stream.IsBroken → P stream) : σ.Reads P := by
  intro fuel hfuel
  obtain ⟨fuel, rfl⟩ := Nat.exists_eq_add_one_of_ne_zero (n := fuel) (by omega)
  obtain ⟨fault, hstep⟩ := (h.step_refresh hunread hblank hrest).2 rfl htab
  rw [h.readFrom_succ, hstep]
  exact hbroken _ ((h.refresh _).isBroken_final fault)

/-! ### Marks of flow collections -/

theorem IsAt.push (h : σ.IsAt depth kinds) {behind : Nat}
    (candidates : List (Option KeyCandidate)) (hlength : candidates.length = behind + 1)
    (hoptional : ∀ candidate, some candidate ∈ candidates → candidate.required = false)
    {kind : TokenKind} (hkind : kind ≠ .streamEnd) (keyAllowed : Bool) (start : Mark)
    (cursor : Cursor) :
    (({ σ with candidates := candidates, keyAllowed := keyAllowed } : ScanState).push kind start
      cursor).IsAt behind (kinds ++ [kind]) where
  length := hlength
  isOptional := hoptional
  indents := h.indents
  kinds_eq := by simp [ScanState.push, ← h.kinds_eq]
  noEnd := by simpa [hkind.symm] using h.noEnd

theorem IsAt.candidates (h : σ.IsAt depth kinds) {candidates : List (Option KeyCandidate)}
    (hlength : candidates.length = depth + 1)
    (hoptional : ∀ candidate, some candidate ∈ candidates → candidate.required = false) :
    ({ σ with candidates := candidates } : ScanState).IsAt depth kinds :=
  ⟨hlength, hoptional, h.indents, h.kinds_eq, h.noEnd⟩

theorem IsAt.dropCandidate (h : σ.IsAt depth kinds) :
    ∃ candidates, σ.dropCandidate = .ok { σ with candidates := candidates } ∧
      ({ σ with candidates := candidates } : ScanState).IsAt depth kinds ∧
      candidates.drop 1 = σ.candidates.drop 1 := by
  unfold ScanState.dropCandidate
  split
  · rename_i candidate rest heq
    rw [h.isOptional candidate (heq ▸ List.mem_cons_self)]
    refine ⟨none :: rest, rfl, h.candidates ?_ ?_, by rw [heq]; rfl⟩
    · simpa [heq] using h.length
    · intro other hother
      exact h.isOptional other (heq ▸ List.mem_cons_of_mem _ (by simpa using hother))
  · exact ⟨σ.candidates, rfl, h, rfl⟩

/-- The node at the cursor becomes a candidate that need not be a key. -/
theorem IsAt.addCandidate (h : σ.IsAt depth kinds) :
    ∃ candidates, σ.addCandidate = .ok { σ with candidates := candidates } ∧
      ({ σ with candidates := candidates } : ScanState).IsAt depth kinds ∧
      (σ.keyAllowed →
        ∃ rest, candidates = some ⟨σ.tokens.length, false, σ.cursor.mark⟩ :: rest) := by
  unfold ScanState.addCandidate
  split
  · rename_i hkey
    exact ⟨σ.candidates, rfl, h, fun h => absurd hkey (by simp [h])⟩
  · obtain ⟨candidates, hdrop, hat, htail⟩ := h.dropCandidate
    have hrequired : (!σ.inFlow && decide (σ.indent = σ.cursor.mark.column)) = false := by
      rw [indent, h.indents]
      simp
    rw [hdrop]
    refine ⟨some ⟨σ.tokens.length, false, σ.cursor.mark⟩ :: candidates.drop 1, ?_, ?_,
      fun _ => ⟨_, rfl⟩⟩
    · rw [hrequired]
      rfl
    · have hlength := hat.length
      refine h.candidates ?_ ?_
      · simp at hlength ⊢; omega
      · rintro other (_ | ⟨_, hother⟩)
        · rfl
        · exact hat.isOptional other (List.mem_of_mem_drop hother)

theorem leads_of_readToken {next : ScanState} (hread : σ.readToken = .ok next) {c : Char}
    (hunread : σ.cursor.unread = c :: rest) (hnext : next.cursor = σ.cursor.advance)
    (hreads : next.Reads P) : σ.Leads P := by
  unfold Leads
  rw [hread]
  exact ⟨by simp [hnext, Cursor.advance, hunread], hreads⟩

/-- A flow collection is opened. -/
theorem IsAt.leads_flowStart (h : σ.IsAt depth kinds) {c : Char} {kind : TokenKind}
    (hunread : σ.cursor.unread = c :: rest)
    (hc : c = '[' ∧ kind = .flowSequenceStart ∨ c = '\x7b' ∧ kind = .flowMappingStart)
    (hnext : ∀ next : ScanState, next.IsAt (depth + 1) (kinds ++ [kind]) →
      next.cursor.unread = rest → next.keyAllowed = true → next.Reads P) : σ.Leads P := by
  have hread : σ.readToken = σ.readFlowStart kind := by
    rcases hc with ⟨rfl, rfl⟩ | ⟨rfl, rfl⟩ <;> simp [readToken, hunread, Cursor.atMarker]
  have hkind : kind ≠ .streamEnd := by rcases hc with ⟨-, rfl⟩ | ⟨-, rfl⟩ <;> simp
  obtain ⟨candidates, hadd, hat, -⟩ := h.addCandidate
  rw [readFlowStart, hadd] at hread
  refine leads_of_readToken hread hunread rfl (hnext _ ?_ (Cursor.unread_advance_one hunread) rfl)
  exact hat.push (none :: candidates) (by simpa using hat.length)
    (fun other hother => hat.isOptional other (by simpa using hother)) hkind _ _ _

/-- A flow collection is closed. -/
theorem IsAt.leads_flowEnd (h : σ.IsAt (depth + 1) kinds) {c : Char} {kind : TokenKind}
    (hunread : σ.cursor.unread = c :: rest)
    (hc : c = ']' ∧ kind = .flowSequenceEnd ∨ c = '\x7d' ∧ kind = .flowMappingEnd)
    (hnext : ∀ next : ScanState, next.IsAt depth (kinds ++ [kind]) →
      next.cursor.unread = rest → next.keyAllowed = false → next.Reads P) : σ.Leads P := by
  have hread : σ.readToken = σ.readFlowEnd kind := by
    rcases hc with ⟨rfl, rfl⟩ | ⟨rfl, rfl⟩ <;> simp [readToken, hunread, Cursor.atMarker]
  have hkind : kind ≠ .streamEnd := by rcases hc with ⟨-, rfl⟩ | ⟨-, rfl⟩ <;> simp
  obtain ⟨candidates, hdrop, hat, -⟩ := h.dropCandidate
  have hflow := hat.inFlow_eq
  rw [decide_eq_true (Nat.succ_pos depth)] at hflow
  rw [readFlowEnd, hdrop] at hread
  simp only [bind, Except.bind, pure, Except.pure, hflow, if_true] at hread
  have hlength := hat.length
  refine leads_of_readToken hread hunread rfl (hnext _ ?_ (Cursor.unread_advance_one hunread) rfl)
  exact hat.push (candidates.drop 1)
    (by rw [List.length_drop]; exact Nat.sub_eq_of_eq_add hlength)
    (fun other hother => hat.isOptional other (List.mem_of_mem_drop hother)) hkind _ _ _

/-- A comma stands between two entries. -/
theorem IsAt.leads_entry (h : σ.IsAt depth kinds) (hunread : σ.cursor.unread = ',' :: rest)
    (hnext : ∀ next : ScanState, next.IsAt depth (kinds ++ [.entry]) →
      next.cursor.unread = rest → next.keyAllowed = true → next.Reads P) : σ.Leads P := by
  have hread : σ.readToken = σ.readEntry := by simp [readToken, hunread, Cursor.atMarker]
  obtain ⟨candidates, hdrop, hat, -⟩ := h.dropCandidate
  rw [readEntry, hdrop] at hread
  exact leads_of_readToken hread hunread rfl (hnext _
    (hat.push _ hat.length hat.isOptional (by simp) _ _ _) (Cursor.unread_advance_one hunread) rfl)

/-! ### Scalars -/

/-- A scalar is read with the blanks that it takes. -/
theorem IsAt.leads_scalar (h : σ.IsAt depth kinds) {isPlain : Bool}
    {read : Cursor → Except Fault ReadScalar} (hread : σ.readToken = σ.readScalar isPlain read)
    {front : Text} (hfront : front ≠ []) {text? : Option Text}
    (hscan : Scans σ.cursor front (read σ.cursor) text?)
    (hnone : text? = none → ∀ stream : TokenStream, stream.IsBroken → P stream)
    (hsome : ∀ text, text? = some text → ∀ next : ScanState,
      next.IsAt depth (kinds ++ [.scalar (String.ofList text) isPlain]) →
      σ.cursor.Passes front next.cursor →
      (σ.keyAllowed →
        ∃ rest, next.candidates = some ⟨σ.tokens.length, false, σ.cursor.mark⟩ :: rest) →
      (∃ token, next.tokens = token :: σ.tokens ∧
        token.kind = .scalar (String.ofList text) isPlain) → next.Reads P) : σ.Leads P := by
  obtain ⟨candidates, hadd, hat, hcandidate⟩ := h.addCandidate
  rw [readScalar, hadd] at hread
  unfold Leads
  rw [hread]
  cases text? with
  | none =>
    obtain ⟨fault, hfault⟩ := hscan
    simp only [bind, Except.bind, hfault]
    exact hnone rfl
  | some text =>
    obtain ⟨scalar, hok, rfl, hpass⟩ := hscan
    simp only [bind, Except.bind, hok]
    have hlength := congrArg List.length hpass.unread
    have hpos := List.length_pos_of_ne_nil hfront
    rw [List.length_append] at hlength
    refine ⟨?_, hsome scalar.text rfl _ ?_ hpass hcandidate ⟨_, rfl, rfl⟩⟩
    · change scalar.cursor.unread.length < _
      omega
    · exact hat.push _ hat.length hat.isOptional (by simp) _ _ _

theorem readToken_quoted (h : σ.cursor.unread = '"' :: rest) :
    σ.readToken = σ.readScalar false (readQuoted '"') := by
  simp [readToken, h, Cursor.atMarker]

theorem scans_readQuoted {letters : List Letter} {cursor : Cursor}
    (h : cursor.unread = inQuotes letters ++ rest) :
    Scans cursor (inQuotes letters) (readQuoted '"' cursor) (quoted? letters) := by
  have hquote : cursor.unread = '"' :: (body letters ++ '"' :: rest) := by
    rw [h, inQuotes, List.cons_append, List.append_assoc, List.singleton_append]
  have hscan := readQuotedFrom_scans cursor.mark letters rest cursor.unread none [] cursor.advance
    (Cursor.unread_advance_one hquote) (by simp [Cursor.advance])
  rw [List.reverse_nil, List.nil_append_fun, Option.map_id] at hscan
  exact hscan.of_passes (Cursor.passes_advance_one hquote rfl)

/-- A string is a scalar. -/
theorem IsAt.leads_string (h : σ.IsAt depth kinds) {letters : List Letter}
    (hunread : σ.cursor.unread = inQuotes letters ++ rest)
    (hnone : quoted? letters = none → ∀ stream : TokenStream, stream.IsBroken → P stream)
    (hsome : ∀ text, quoted? letters = some text → ∀ next : ScanState,
      next.IsAt depth (kinds ++ [.scalar (String.ofList text) false]) →
      next.cursor.unread = rest → next.Reads P) : σ.Leads P := by
  exact h.leads_scalar (readToken_quoted hunread) (by simp [inQuotes]) (scans_readQuoted hunread)
    hnone fun text htext next hnext hpass _ _ =>
      hsome text htext next hnext (hpass.unread_eq hunread)

theorem startsWord_append {c : Char} {text : Text} (h : startsWord c text) (rest : Text) :
    startsWord c (text ++ rest) := by
  cases text with
  | nil => simpa [startsWord] using .inl (by simpa [startsWord] using h)
  | cons d text => exact h

theorem readToken_word {c : Char} (h : σ.cursor.unread = c :: rest) (hc : startsWord c rest) :
    σ.readToken = σ.readScalar true (readPlain σ.inFlow (σ.indent + 1)) := by
  simp only [startsWord, Bool.or_eq_true, Bool.and_eq_true, decide_eq_true_eq] at hc
  rcases hc with hc | ⟨rfl, hdigit⟩
  · have hne (d : Char) (hd : d.isAlphanum = false) : c ≠ d := by
      rintro rfl
      exact absurd hc (by simp [hd])
    simp [readToken, h, Cursor.atMarker, startsPlain, isSpacing, isBlank, isBreak, hne '%' rfl,
      hne '-' rfl, hne '.' rfl, hne '[' rfl, hne '\x7b' rfl, hne ']' rfl, hne '\x7d' rfl,
      hne ',' rfl, hne '?' rfl, hne ':' rfl, hne '*' rfl, hne '&' rfl, hne '!' rfl, hne '|' rfl,
      hne '>' rfl,
      hne '\'' rfl, hne '"' rfl, hne ' ' rfl, hne '\t' rfl, hne '\n' rfl, hne '\r' rfl,
      hne '\u0085' rfl, hne '\u2028' rfl, hne '\u2029' rfl, hne '#' rfl, hne '@' rfl,
      hne '\x60' rfl]
  · obtain ⟨d, hd, hdigit⟩ := (Option.any_eq_true _ _).1 hdigit
    obtain ⟨rest, rfl⟩ := List.head?_eq_some_iff.1 hd
    have hne (e : Char) (he : e.isDigit = false) : d ≠ e := by
      rintro rfl
      exact absurd hdigit (by simp [he])
    simp [readToken, h, Cursor.atMarker, startsPlain, isSpacing, isBlank, isBreak, hne '-' rfl,
      hne ' ' rfl, hne '\t' rfl, hne '\n' rfl, hne '\r' rfl, hne '\u0085' rfl, hne '\u2028' rfl,
      hne '\u2029' rfl]

/-- A word is a scalar, which takes the blanks behind it. -/
theorem IsAt.leads_word (h : σ.IsAt (depth + 1) kinds) {word : Word} {blank : Blank} {d : Char}
    (hd : isFlowMark d) (hunread : σ.cursor.unread = word.text ++ (blank.text ++ d :: rest))
    (hnext : ∀ next : ScanState,
      next.IsAt (depth + 1) (kinds ++ [.scalar (String.ofList word.text) true]) →
      next.cursor.unread = d :: rest → next.Reads P) : σ.Leads P := by
  obtain ⟨c, more, htext, hstart⟩ := word.text_eq_cons
  have hfirst : σ.cursor.unread = c :: (more ++ (blank.text ++ d :: rest)) := by
    rw [hunread, htext, List.cons_append]
  have hread : σ.readToken = σ.readScalar true (readPlain true 0) := by
    rw [readToken_word hfirst (startsWord_append hstart _), h.inFlow_eq, indent, h.indents]
    rfl
  have hscan : Scans σ.cursor (word.text ++ blank.text) (readPlain true 0 σ.cursor)
      (some word.text) := readPlain_word word blank hd hunread
  refine h.leads_scalar hread (by simp [htext]) hscan (by simp)
    fun text heq next hat hpass _ _ => ?_
  cases heq
  exact hnext next hat (hpass.unread_eq (by rw [hunread, List.append_assoc]))

theorem isStale_eq {a b : Cursor} {key : List Letter} {gap : Blank}
    (h : a.Passes (inQuotes key ++ gap.text) b) (position : Nat) (required : Bool) :
    KeyCandidate.isStale ⟨position, required, a.mark⟩ b.mark = !isSimpleKey key gap := by
  have hline := h.line_lt_iff
  have hindex := h.index
  rw [KeyCandidate.isStale, isSimpleKey, Bool.not_and, hindex, KeyCandidate.maxLength]
  congr 1
  · rw [Bool.eq_iff_iff, decide_eq_true_eq, hline, Bool.not_eq_true', List.all_eq_false]
    simp
  · rw [Bool.eq_iff_iff]
    simp

/-- The colon behind a candidate makes it a key. -/
theorem readToken_colon (hflow : σ.inFlow) (h : σ.cursor.unread = ':' :: rest) :
    σ.readToken = σ.readValue := by
  simp [readToken, h, Cursor.atMarker, hflow]

theorem IsAt.leads_value {kind : TokenKind} (h : σ.IsAt (depth + 1) (kinds ++ [kind]))
    (hunread : σ.cursor.unread = ':' :: rest) {token : Token} {tokens : List Token}
    (htokens : σ.tokens = token :: tokens) {isKey : Bool} {mark : Mark}
    (hcandidate : σ.candidates.head? =
      some (if isKey then some ⟨tokens.length, false, mark⟩ else none))
    (hnext : ∀ next : ScanState,
      next.IsAt (depth + 1) (kinds ++ (if isKey then [.key] else []) ++ [kind, .value]) →
      next.cursor.unread = rest → next.Reads P) : σ.Leads P := by
  have hflow : σ.inFlow := h.inFlow_eq.trans (by simp)
  obtain ⟨more, hcandidates⟩ := List.head?_eq_some_iff.1 hcandidate
  have hread := readToken_colon hflow hunread
  have hlength := h.length
  have hoptional := h.isOptional
  obtain ⟨htokensKinds, htoken⟩ : (tokens.reverse.map Token.kind) = kinds ∧ token.kind = kind := by
    have hkinds := h.kinds_eq
    rw [htokens, List.reverse_cons, List.map_append] at hkinds
    simpa using List.append_inj' hkinds rfl
  have hnoEnd := h.noEnd
  rw [List.mem_append, List.mem_singleton, not_or] at hnoEnd
  rw [IsOptional, hcandidates] at hoptional
  rw [hcandidates] at hlength
  rw [readValue, hcandidates] at hread
  cases isKey with
  | true =>
    have hbehind : σ.tokens.length - tokens.length = 1 := by simp [htokens]
    have hopen : (σ.insert 1 .key mark).openBlock mark.column 2 .blockMappingStart mark =
        σ.insert 1 .key mark := by
      rw [openBlock, show (σ.insert 1 .key mark).inFlow = true from hflow]
      rfl
    simp only [if_true, hbehind, Nat.reduceAdd, hopen] at hread
    refine leads_of_readToken hread hunread rfl (hnext _ ?_ (Cursor.unread_advance_one hunread))
    have hmore (other : KeyCandidate) (hother : some other ∈ none :: more) :
        other.required = false :=
      hoptional other (List.mem_cons_of_mem _ ((List.mem_cons.1 hother).resolve_left (by simp)))
    exact ⟨hlength, hmore, h.indents,
      by simp [readIndicator, ScanState.push, ScanState.insert, htokens, ← htokensKinds, ← htoken],
      by simpa using hnoEnd⟩
  | false =>
    simp only [startBlock, hflow, if_true] at hread
    refine leads_of_readToken hread hunread rfl (hnext _ ?_ (Cursor.unread_advance_one hunread))
    exact ⟨h.length, h.isOptional, h.indents,
      by simp [readIndicator, ScanState.push, htokens, ← htokensKinds, ← htoken],
      by simpa using hnoEnd⟩

/-- A key is read with its colon. It stays a candidate up to there if it is simple. -/
theorem IsAt.leads_key (h : σ.IsAt (depth + 1) kinds) (hkey : σ.keyAllowed) {key : List Letter}
    {gap : Blank} (hunread : σ.cursor.unread = inQuotes key ++ (gap.text ++ ':' :: rest))
    (hnone : quoted? key = none → ∀ stream : TokenStream, stream.IsBroken → P stream)
    (hsome : ∀ text, quoted? key = some text → ∀ next : ScanState,
      next.IsAt (depth + 1) (kinds ++ (if isSimpleKey key gap then [.key] else []) ++
        [.scalar (String.ofList text) false, .value]) →
      next.cursor.unread = rest → next.Reads P) : σ.Leads P := by
  have hquoted : σ.cursor.unread = '"' :: (body key ++ ['"'] ++ (gap.text ++ ':' :: rest)) :=
    hunread
  refine h.leads_scalar (readToken_quoted hquoted) (by simp [inQuotes]) (scans_readQuoted hunread)
    hnone fun text htext mid hmid hpass hcandidate htoken => ?_
  obtain ⟨token, htokens, -⟩ := htoken
  obtain ⟨more, hcandidates⟩ := hcandidate hkey
  have hgap := hpass.unread_eq hunread
  refine hmid.reads hgap gap.isSpace (by rintro c ⟨⟩; decide) (.inl (Nat.succ_pos _))
    fun next keyAllowed hnext _ => ?_
  have hhead : (mid.arrive next keyAllowed).candidates.head? =
      some (if isSimpleKey key gap then some ⟨σ.tokens.length, false, σ.cursor.mark⟩
        else none) := by
    simp only [ScanState.arrive, ScanState.refresh, hcandidates, List.map_cons, List.head?_cons,
      Option.filter, isStale_eq (hpass.trans hnext), Bool.not_not]
  exact (hmid.arrive next keyAllowed).leads_value (hnext.unread_eq hgap) htokens hhead
    (hsome text htext)

/-! ### The end of the text -/

theorem IsAt.readEnd_eq_ok (h : σ.IsAt depth kinds) :
    ∃ next token, σ.readEnd = .ok next ∧ next.IsOptional ∧ next.tokens = token :: σ.tokens ∧
      token.kind = .streamEnd := by
  unfold readEnd
  dsimp only
  generalize (if σ.cursor.mark.column = 0 then σ.cursor.mark else
    ⟨σ.cursor.mark.index, σ.cursor.mark.line + 1, 0⟩ : Mark) = mark
  have hmoved := h.moved { σ.cursor with mark := mark } σ.keyAllowed
  rw [unindent_eq hmoved.indents]
  obtain ⟨candidates, hdrop, hat, -⟩ := hmoved.dropCandidate
  rw [hdrop]
  exact ⟨_, _, rfl, hat.isOptional, rfl, rfl⟩

theorem readToken_nil (h : σ.cursor.unread = []) : σ.readToken = σ.readEnd := by
  simp [readToken, h]

/-- Outside of collections the text may end behind blanks. -/
theorem IsAt.reads_end (h : σ.IsAt 0 kinds) {blank : Blank} (hunread : σ.cursor.unread = blank.text)
    (htab : hasStrayTab σ.keyAllowed blank.text = false)
    (hend : ∀ tokens : List Token, tokens.map Token.kind = kinds ++ [.streamEnd] →
      P ⟨tokens, none⟩) : σ.Reads P := by
  intro fuel hfuel
  obtain ⟨fuel, rfl⟩ : ∃ n, fuel = n + 1 + 1 := ⟨fuel - 2, by omega⟩
  rw [← List.append_nil blank.text] at hunread
  obtain ⟨next, key, hpass, -, hstep⟩ :=
    (h.step_refresh hunread blank.isSpace (by rintro _ ⟨⟩)).1 (.inr htab)
  have hnil := hpass.unread_eq hunread
  have hread : (σ.arrive next key).readToken = _ := readToken_nil hnil
  obtain ⟨last, token, hlast, hoptional, htokens, hkind⟩ := (h.arrive next key).readEnd_eq_ok
  rw [h.readFrom_succ, hstep, hread, hlast]
  dsimp only
  rw [TokenStream.readFrom, dropStale_eq_ok hoptional]
  dsimp only [ScanState.refresh]
  obtain ⟨kind, start, stop⟩ := token
  cases hkind
  rw [htokens]
  refine hend _ ?_
  rw [List.reverse_cons, List.map_append, ← h.kinds_eq]
  rfl

end ScanState

end SiteWeave.Yaml
