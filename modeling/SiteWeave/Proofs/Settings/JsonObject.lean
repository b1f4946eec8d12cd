import SiteWeave.Proofs.Settings.Record

/-!
# Settings in JSON

The reader of settings is followed through a JSON text, from the front of each value to the text
behind it. It comes to the settings that the object of the text writes, or stops where there are
none.

## Main results

* `Reader.readTextFrom_yields`: a string is read as the text it stands for.
* `Reader.readString_yields`, `Reader.readList_yields`: texts and lists of texts.
* `Reader.readFields_yields`: the members of an object are read one after another.
* `Settings.ofJson?_text`: the settings of a JSON text.
-/

namespace SiteWeave

open JsonText

namespace Reader

variable {α β : Type} {text rest : Text}

/-! ### Readers on a text -/

theorem bind_apply (x : Reader α) (f : α → Reader β) :
    (x >>= f) text = (x text).bind fun run => f run.1 run.2 := rfl

theorem seqRight_apply (x : Reader α) (y : Reader β) :
    (x *> y) text = (x text).bind fun run => y run.2 := rfl

theorem map_apply (f : α → β) (x : Reader α) :
    (f <$> x) text = (x text).bind fun run => .ok (f run.1, run.2) := rfl

theorem pure_apply (result : α) : (pure result : Reader α) text = .ok (result, text) := rfl

theorem ok_bind {ε γ δ : Type} (result : γ) (f : γ → Except ε δ) :
    (Except.ok result).bind f = f result := rfl

theorem bind_bind {ε γ δ η : Type} (x : Except ε γ) (f : γ → Except ε δ) (g : δ → Except ε η) :
    (x.bind f).bind g = x.bind fun result => (f result).bind g := by
  cases x <;> rfl

theorem get_apply : (get : Reader Text) text = .ok (text, text) := rfl

theorem set_apply : (set rest : Reader PUnit) text = .ok ((), rest) := rfl

theorem advance_apply : advance text = .ok ((), text.tail) := rfl

theorem peek?_apply : peek? text = .ok (text.head?, text) := rfl

theorem peekToken?_apply :
    peekToken? text = .ok ((text.dropWhile isSpace).head?, text.dropWhile isSpace) := rfl

/-! ### Strings -/

theorem length_le_foldl_utf8Size (text : Text) (count : Nat) :
    count + text.length ≤ text.foldl (fun count c => count + c.utf8Size) count := by
  induction text generalizing count with
  | nil => simp
  | cons c text ih =>
    have := c.utf8Size_pos
    have := ih (count + c.utf8Size)
    simp only [List.length_cons, List.foldl_cons]
    omega

theorem length_le_byteCount (text : Text) : text.length ≤ Text.byteCount text := by
  simpa [Text.byteCount] using length_le_foldl_utf8Size text 0

theorem readHex_append {digits : Text} {code : Nat}
    (h : digits.length = 4 ∧ Text.toNat? 16 digits = some code) (rest : Text) :
    readHex (digits ++ rest) = .ok (code, rest) := by
  have htake : (digits ++ rest).take 4 = digits := by simp [← h.1]
  have hdrop : (digits ++ rest).drop 4 = rest := by simp [← h.1]
  have hcount : ¬ Text.byteCount digits < 4 := by have := length_le_byteCount digits; omega
  simp only [readHex, bind_apply, get_apply, Except.bind, htake, if_neg hcount, if_pos h.1, h.2,
    seqRight_apply, set_apply, hdrop, pure_apply]

theorem readEscape_short {c escaped : Char} (h : shortEscape? c = some escaped) :
    readEscape (c :: rest) = .ok (escaped, rest) := by
  have hu : c ≠ 'u' := by rintro rfl; simp [shortEscape?] at h
  simp only [readEscape, bind_apply, peek?_apply, Except.bind, List.head?_cons, h, seqRight_apply,
    advance_apply, List.tail_cons, pure_apply]

theorem readEscape_unit : readEscape ('u' :: rest) = readUnicode rest := rfl

theorem readPairMark_apply (mark c : Char) :
    readPairMark mark (c :: rest) =
      if c = mark then .ok ((), rest) else .error ⟨.unfinishedSurrogate, c :: rest, 1⟩ := by
  simp only [readPairMark, bind_apply, peek?_apply, Except.bind, List.head?_cons]
  split <;> rfl

theorem readTextFrom_plain {c : Char} (h : 0x20 ≤ c.toNat ∧ c ≠ '"' ∧ c ≠ '\\') (d : Char)
    (bound : Text) :
    readTextFrom (d :: bound) (c :: rest) =
      (readTextFrom bound rest).bind fun run => .ok (c :: run.1, run.2) := by
  have hnot : ¬ c.toNat < 0x20 := by omega
  rw [readTextFrom, bind_apply, peek?_apply, ok_bind]
  refine congrFun (g := (do advance; return c :: (← readTextFrom bound) :
    Reader (List Char))) ?_ (c :: rest)
  dsimp only [List.head?_cons]
  split
  · contradiction
  · exact absurd (Option.some.inj ‹_›) h.2.1
  · exact absurd (Option.some.inj ‹_›) h.2.2
  · cases ‹some c = some _›
    rw [if_neg hnot]

theorem readTextFrom_escape (d : Char) (bound : Text) :
    readTextFrom (d :: bound) ('\\' :: rest) =
      (readEscape rest).bind fun run =>
        (readTextFrom bound run.2).bind fun more => .ok (run.1 :: more.1, more.2) := rfl

theorem readUnicode_append {digits : Text} {code : Nat}
    (h : digits.length = 4 ∧ Text.toNat? 16 digits = some code) :
    readUnicode (digits ++ rest) =
      if isLow code then .error ⟨.loneSurrogate, rest, 0⟩
      else if isHigh code then
        ((readPairMark '\\' rest).bind fun run => readPairMark 'u' run.2).bind fun run =>
          (readHex run.2).bind fun run =>
            if isLow run.1 then
              .ok (Char.ofNat (0x10000 + (code - 0xD800) * 0x400 + (run.1 - 0xDC00)), run.2)
            else .error ⟨.loneSurrogate, run.2, 0⟩
      else .ok (Char.ofNat code, rest) := by
  rw [readUnicode, bind_apply, readHex_append h, ok_bind]
  simp only [isLow, isHigh, Bool.and_eq_true, decide_eq_true_eq]
  split
  · rfl
  · split
    · simp only [bind_apply]
      cases readPairMark '\\' rest with
      | error stop => rfl
      | ok run =>
        rw [ok_bind, ok_bind]
        congr! 4 with run run
        split <;> split <;> first | rfl | omega
    · rfl

/-- Half a pair of surrogates is refused where the text goes on otherwise. -/
theorem readPairMark_body_eq_error {letters : List Letter} (rest : Text)
    (h : ∀ digits code hcode rest, letters ≠ .unit digits code hcode :: rest) :
    ∃ error, ((readPairMark '\\' (body letters ++ '"' :: rest)).bind fun run =>
      readPairMark 'u' run.2) = .error error := by
  match letters with
  | [] => exact ⟨_, rfl⟩
  | .plain c hc :: _ =>
    rw [body_cons, Letter.text, List.append_assoc, List.cons_append, readPairMark_apply,
      if_neg hc.2.2]
    exact ⟨_, rfl⟩
  | .short c _ hc :: _ =>
    have hu : c ≠ 'u' := by rintro rfl; simp [shortEscape?] at hc
    rw [body_cons, Letter.text, List.append_assoc, List.cons_append, readPairMark_apply,
      if_pos rfl, ok_bind, List.cons_append, readPairMark_apply, if_neg hu]
    exact ⟨_, rfl⟩
  | .unit digits code hcode :: rest => exact absurd rfl (h digits code hcode rest)

/-- **Strings** are read as the text they stand for. -/
theorem readTextFrom_yields (letters : List Letter) (rest bound : Text)
    (h : (body letters).length < bound.length) :
    Yields (readTextFrom bound (body letters ++ '"' :: rest)) (decode? letters) (· = rest) := by
  fun_induction decode? letters generalizing bound with
  | case1 =>
    obtain ⟨d, bound, rfl⟩ := List.exists_cons_of_length_pos (Nat.zero_lt_of_lt h)
    exact .ok rfl
  | case2 c hc letters ih =>
    obtain ⟨d, bound, rfl⟩ := List.exists_cons_of_length_pos (Nat.zero_lt_of_lt h)
    simp only [body_cons, Letter.text, List.cons_append, List.nil_append, List.length_cons] at h ⊢
    rw [readTextFrom_plain hc]
    exact (ih bound (by omega)).map
  | case3 c escaped hc letters ih =>
    obtain ⟨d, bound, rfl⟩ := List.exists_cons_of_length_pos (Nat.zero_lt_of_lt h)
    simp only [body_cons, Letter.text, List.cons_append, List.nil_append, List.length_cons] at h ⊢
    rw [readTextFrom_escape, readEscape_short hc, ok_bind]
    exact (ih bound (by omega)).map
  | case4 digits code hcode letters hlow =>
    obtain ⟨d, bound, rfl⟩ := List.exists_cons_of_length_pos (Nat.zero_lt_of_lt h)
    simp only [body_cons, Letter.text, List.append_assoc, List.cons_append]
    rw [readTextFrom_escape, readEscape_unit, readUnicode_append hcode, if_pos hlow]
    exact .error
  | case5 digits code hcode hlow hhigh digits' low hlowcode letters hlow' ih =>
    obtain ⟨d, bound, rfl⟩ := List.exists_cons_of_length_pos (Nat.zero_lt_of_lt h)
    simp only [body_cons, Letter.text, List.append_assoc, List.cons_append, List.length_cons,
      List.length_append] at h ⊢
    rw [readTextFrom_escape, readEscape_unit, readUnicode_append hcode, if_neg hlow, if_pos hhigh,
      readPairMark_apply, if_pos rfl, ok_bind, readPairMark_apply, if_pos rfl, ok_bind,
      readHex_append hlowcode, ok_bind, if_pos hlow', ok_bind]
    generalize Char.ofNat _ = c
    exact (ih bound (by omega)).map
  | case6 digits code hcode hlow hhigh digits' low hlowcode letters hlow' =>
    obtain ⟨d, bound, rfl⟩ := List.exists_cons_of_length_pos (Nat.zero_lt_of_lt h)
    simp only [body_cons, Letter.text, List.append_assoc, List.cons_append]
    rw [readTextFrom_escape, readEscape_unit, readUnicode_append hcode, if_neg hlow, if_pos hhigh,
      readPairMark_apply, if_pos rfl, ok_bind, readPairMark_apply, if_pos rfl, ok_bind,
      readHex_append hlowcode, ok_bind, if_neg hlow']
    exact .error
  | case7 digits code hcode letters hlow hhigh hother =>
    obtain ⟨d, bound, rfl⟩ := List.exists_cons_of_length_pos (Nat.zero_lt_of_lt h)
    obtain ⟨error, herror⟩ := readPairMark_body_eq_error rest hother
    simp only [body_cons, Letter.text, List.append_assoc, List.cons_append]
    rw [readTextFrom_escape, readEscape_unit, readUnicode_append hcode, if_neg hlow, if_pos hhigh,
      herror]
    exact .error
  | case8 digits code hcode letters hlow hhigh ih =>
    obtain ⟨d, bound, rfl⟩ := List.exists_cons_of_length_pos (Nat.zero_lt_of_lt h)
    simp only [body_cons, Letter.text, List.append_assoc, List.cons_append, List.length_cons,
      List.length_append] at h ⊢
    rw [readTextFrom_escape, readEscape_unit, readUnicode_append hcode, if_neg hlow, if_neg hhigh,
      ok_bind]
    exact (ih bound (by omega)).map

/-- The text of a string, as a value of a record. -/
theorem readText_yields (letters : List Letter) (rest : Text) :
    Yields (readText (body letters ++ '"' :: rest)) ((decode? letters).map String.ofList)
      (· = rest) :=
  (readTextFrom_yields letters rest _ (by simp)).map

/-! ### Blanks and values -/

theorem dropWhile_isSpace_append (blank : Blank) (text : Text) :
    (blank.text ++ text).dropWhile isSpace = text.dropWhile isSpace := by
  exact List.dropWhile_append_of_pos blank.isSpace

theorem peekToken?_append (blank : Blank) (text : Text) :
    peekToken? (blank.text ++ text) = peekToken? text := by
  rw [peekToken?_apply, peekToken?_apply, dropWhile_isSpace_append]

theorem peekToken?_of_not_isSpace (blank : Blank) {c : Char} (h : isSpace c = false) :
    peekToken? (blank.text ++ c :: rest) = .ok (some c, c :: rest) := by
  rw [peekToken?_apply, dropWhile_isSpace_append, List.dropWhile_cons_of_neg (by simp [h])]
  rfl

/-- A run that goes on to a stop is stopped. -/
theorem bind_eq_error {x : Reader α} {f : α → Reader β}
    (h : ∀ result rest, ∃ stop, f result rest = .error stop) :
    ∃ stop, (x >>= f) text = .error stop := by
  rw [bind_apply]
  cases x text with
  | error stop => exact ⟨stop, rfl⟩
  | ok run => exact h run.1 run.2

theorem seqRight_eq_error {x : Reader α} {y : Reader β}
    (h : ∀ rest, ∃ stop, y rest = .error stop) : ∃ stop, (x *> y) text = .error stop :=
  bind_eq_error fun _ rest => h rest

theorem wrongType_eq_error (found : Found) (expected : String) :
    ∃ stop, (wrongType found expected : Reader α) text = .error stop :=
  ⟨_, rfl⟩

theorem mismatch_eq_error (expected : String) :
    ∃ stop, (mismatch expected : Reader α) text = .error stop := by
  refine bind_eq_error fun peeked rest => ?_
  split
  · exact seqRight_eq_error fun _ => wrongType_eq_error _ _
  · exact seqRight_eq_error fun _ => wrongType_eq_error _ _
  · exact seqRight_eq_error fun _ => wrongType_eq_error _ _
  · exact bind_eq_error fun _ _ => bind_eq_error fun _ _ => wrongType_eq_error _ _
  · exact bind_eq_error fun _ _ => bind_eq_error fun _ _ => wrongType_eq_error _ _
  · exact wrongType_eq_error _ _
  · exact wrongType_eq_error _ _
  · split
    · exact bind_eq_error fun _ _ => wrongType_eq_error _ _
    · exact ⟨_, rfl⟩
  · exact ⟨_, rfl⟩

/-! ### Texts and lists of texts -/

/-- What `mismatch` reads is no result. -/
theorem mismatch_yields (expected : String) (left : Text → Prop) :
    Yields ((mismatch expected : Reader α) text) none left :=
  mismatch_eq_error expected

theorem readString_of_ne (blank : Blank) {c : Char} (h : isSpace c = false) (hc : c ≠ '"') :
    readString (blank.text ++ c :: rest) = mismatch "a string" (c :: rest) := by
  rw [readString, bind_apply, peekToken?_of_not_isSpace blank h, ok_bind]
  refine congrFun ?_ (c :: rest)
  dsimp only
  split
  · exact absurd (Option.some.inj ‹_›) hc
  · rfl

theorem readString_yields (blank : Blank) (value : Value) (rest : Text) :
    Yields (readString (blank.text ++ (value.text ++ rest)))
      (value.string?.map .string) (· = rest) := by
  cases value with
  | string letters =>
    rw [Value.text_string, List.cons_append, readString, bind_apply,
      peekToken?_of_not_isSpace blank rfl, ok_bind, List.append_assoc]
    exact (readText_yields letters rest).map
  | word word =>
    obtain ⟨c, front, htext, hc⟩ := word.text_eq_cons
    rw [Value.text_word, htext, List.cons_append,
      readString_of_ne blank (not_isSpace_of_startsValue (startsValue_of_startsWord hc))
        (ne_of_startsWord hc rfl)]
    exact mismatch_eq_error _
  | array items inner =>
    rw [Value.text_array, List.cons_append, readString_of_ne blank rfl (by decide)]
    exact mismatch_eq_error _
  | object members inner =>
    rw [Value.text_object, List.cons_append, readString_of_ne blank rfl (by decide)]
    exact mismatch_eq_error _

theorem nextItem_close (isFirst : Bool) (blank inner : Blank) (rest : Text) :
    nextItem isFirst (blank.text ++ (inner.text ++ ']' :: rest)) = .ok (false, ']' :: rest) := by
  rw [nextItem, bind_apply, peekToken?_append, peekToken?_of_not_isSpace inner rfl]
  rfl

theorem nextItem_first (blank front : Blank) {c : Char} (h : startsValue c) :
    nextItem true (blank.text ++ (front.text ++ c :: rest)) = .ok (true, c :: rest) := by
  rw [nextItem, bind_apply, peekToken?_append,
    peekToken?_of_not_isSpace front (not_isSpace_of_startsValue h), ok_bind]
  refine congrFun (g := (pure true : Reader Bool)) ?_ (c :: rest)
  dsimp only
  split
  · contradiction
  · exact absurd (Option.some.inj ‹_›) (ne_of_startsValue h rfl)
  · exact absurd (Option.some.inj ‹_›) (ne_of_startsValue h rfl)
  · rfl

theorem nextItem_comma (blank front : Blank) {c : Char} (h : startsValue c) :
    nextItem false (blank.text ++ ',' :: (front.text ++ c :: rest)) = .ok (true, c :: rest) := by
  rw [nextItem, bind_apply, peekToken?_of_not_isSpace blank rfl, ok_bind]
  simp only [Bool.false_eq_true, if_false, bind_apply, advance_apply, ok_bind, List.tail_cons,
    peekToken?_of_not_isSpace front (not_isSpace_of_startsValue h)]
  refine congrFun (g := (pure true : Reader Bool)) ?_ (c :: rest)
  split
  · contradiction
  · exact absurd (Option.some.inj ‹_›) (ne_of_startsValue h rfl)
  · rfl

/-- Items other than the first one have a comma in front. -/
theorem nextItem_separator (isFirst : Bool) (blank front : Blank) {c : Char} (h : startsValue c)
    (rest : Text) :
    nextItem isFirst
        (blank.text ++ ((if isFirst then [] else [',']) ++ (front.text ++ c :: rest))) =
      .ok (true, c :: rest) := by
  cases isFirst with
  | true => exact nextItem_first blank front h
  | false => exact nextItem_comma blank front h

theorem readItems_cons {item : Reader α} (isFirst : Bool) (d : Char) (bound : Text) :
    readItems item (d :: bound) isFirst text =
      (nextItem isFirst text).bind fun run =>
        if run.1 then
          (item run.2).bind fun run =>
            (readItems item bound false run.2).bind fun more => .ok (run.1 :: more.1, more.2)
        else .ok ([], run.2) := by
  rw [readItems, bind_apply]
  congr! 2 with run
  split <;> rfl

/-- The texts of a list are read one after another. -/
theorem readItems_yields (inner : Blank) (rest : Text) :
    ∀ (items : Items) (isFirst : Bool) (blank : Blank) (bound : Text),
      (items.text isFirst).length < bound.length →
      Yields (readItems readString bound isFirst
          (blank.text ++ (items.text isFirst ++ (inner.text ++ ']' :: rest))))
        (items.toList.mapM fun value => value.string?.map Json.string) (· = ']' :: rest)
  | .nil, isFirst, blank, bound, h => by
    obtain ⟨d, bound, rfl⟩ := List.exists_cons_of_length_pos (Nat.zero_lt_of_lt h)
    rw [readItems_cons, Items.text, List.nil_append, nextItem_close]
    exact .ok rfl
  | .cons front value behind items, isFirst, blank, bound, h => by
    obtain ⟨d, bound, rfl⟩ := List.exists_cons_of_length_pos (Nat.zero_lt_of_lt h)
    obtain ⟨c, more, htext, hc⟩ := value.text_eq_cons
    have hnext := nextItem_separator isFirst blank front hc
      (more ++ (behind.text ++ (items.text false ++ (inner.text ++ ']' :: rest))))
    have hlength : (items.text false).length < bound.length := by
      simp only [Items.text, htext, List.length_append, List.length_cons] at h
      omega
    rw [readItems_cons, Items.text]
    simp only [List.append_assoc, htext, List.cons_append, hnext, ok_bind, if_true]
    rw [← List.cons_append, ← htext, Items.toList, List.mapM_cons]
    refine (readString_yields .empty value _).bind fun text _ _ hrest => ?_
    subst hrest
    exact (readItems_yields inner rest items false behind bound hlength).bind
      fun _ _ _ hrest => .ok hrest

theorem readList_of_ne {item : Nat → Reader α} (depth : Nat) (blank : Blank) {c : Char}
    (h : isSpace c = false) (hc : c ≠ '[') :
    readList depth item (blank.text ++ c :: rest) = mismatch "a sequence" (c :: rest) := by
  rw [readList, bind_apply, peekToken?_of_not_isSpace blank h, ok_bind]
  refine congrFun ?_ (c :: rest)
  dsimp only
  split
  · exact absurd (Option.some.inj ‹_›) hc
  · rfl

/-- A list of texts. -/
theorem readList_yields {depth : Nat} (hdepth : 1 < depth) (blank : Blank) (value : Value)
    (rest : Text) :
    Yields (readList depth (fun _ => readString) (blank.text ++ (value.text ++ rest)))
      ((Settings.texts? Value.string? value).map fun texts => texts.map .string) (· = rest) := by
  cases value with
  | array items inner =>
    have hread := readItems_yields inner rest items true .empty
      (items.text true ++ (inner.text ++ ']' :: rest)) (by
        simp only [List.length_append, List.length_cons]
        omega)
    rw [Value.text_array, List.cons_append, readList, bind_apply,
      peekToken?_of_not_isSpace blank rfl, ok_bind]
    simp only [if_neg (Nat.not_le.2 hdepth), bind_apply, advance_apply, ok_bind, List.tail_cons,
      get_apply, List.append_assoc, List.cons_append, List.nil_append]
    rw [Settings.texts?, ← Settings.mapM_map, ← Option.bind_fun_some (List.mapM _ _)]
    refine hread.bind fun texts _ _ hrest => ?_
    subst hrest
    exact .ok rfl
  | string letters =>
    rw [Value.text_string, List.cons_append, readList_of_ne depth blank rfl (by decide)]
    exact mismatch_eq_error _
  | word word =>
    obtain ⟨c, front, htext, hc⟩ := word.text_eq_cons
    rw [Value.text_word, htext, List.cons_append,
      readList_of_ne depth blank (not_isSpace_of_startsValue (startsValue_of_startsWord hc))
        (ne_of_startsWord hc rfl)]
    exact mismatch_eq_error _
  | object members inner =>
    rw [Value.text_object, List.cons_append, readList_of_ne depth blank rfl (by decide)]
    exact mismatch_eq_error _

theorem nextKey_close (isFirst : Bool) (blank inner : Blank) (rest : Text) :
    nextKey isFirst (blank.text ++ (inner.text ++ '\x7d' :: rest)) =
      .ok (none, '\x7d' :: rest) := by
  rw [nextKey, bind_apply, peekToken?_append, peekToken?_of_not_isSpace inner rfl]
  rfl

/-- Members other than the first one have a comma in front of their key. -/
theorem nextKey_separator (isFirst : Bool) (blank front : Blank) :
    nextKey isFirst
        (blank.text ++ ((if isFirst then [] else [',']) ++ (front.text ++ '"' :: rest))) =
      (readText rest).bind fun run => .ok (some run.1, run.2) := by
  have hfront : peekToken? (front.text ++ '"' :: rest) = .ok (some '"', '"' :: rest) :=
    peekToken?_of_not_isSpace front rfl
  cases isFirst with
  | true =>
    rw [if_pos rfl, List.nil_append, nextKey, bind_apply, peekToken?_append, hfront]
    rfl
  | false =>
    rw [if_neg Bool.false_ne_true, List.singleton_append, nextKey, bind_apply,
      peekToken?_of_not_isSpace blank rfl, ok_bind]
    simp only [Bool.false_eq_true, if_false, bind_apply, advance_apply, ok_bind, List.tail_cons,
      hfront]
    rfl

theorem colon_apply (blank : Blank) : colon (blank.text ++ ':' :: rest) = .ok ((), rest) := by
  rw [colon, bind_apply, peekToken?_of_not_isSpace blank rfl]
  rfl

/-- The value of a field of settings. -/
theorem readField_yields {depth : Nat} (hdepth : 1 < depth) {key : String} {field : Field}
    (hfield : Settings.recordType.field? key = some field) (blank : Blank) (value : Value)
    (rest : Text) :
    Yields (readField depth field.kind (blank.text ++ (value.text ++ rest)))
      (Settings.fieldValue? Value.string? field.kind value) (· = rest) := by
  have hkind : field.kind = .text ∨ field.kind = .textList := by
    have hmem := List.mem_of_find?_eq_some hfield
    simp only [Settings.recordType, List.mem_cons, List.not_mem_nil, or_false] at hmem
    rcases hmem with rfl | rfl | rfl <;> simp
  rcases hkind with hkind | hkind
  · rw [hkind]
    exact readString_yields blank value rest
  · rw [hkind]
    have hread := (readList_yields hdepth blank value rest).map (f := Json.array)
    rwa [Option.map_map] at hread

theorem missing?_recordType (keys : List String) : Settings.recordType.missing? keys = none := by
  simp [RecordType.missing?, Settings.recordType]

/-- **The members of an object** are read one after another. -/
theorem readFields_yields {depth : Nat} (hdepth : 1 < depth) (inner : Blank) (rest : Text) :
    ∀ (members : JsonText.Members) (isFirst : Bool) (seen : SiteWeave.Members) (blank : Blank)
      (bound : Text), (members.text isFirst).length < bound.length →
      Yields (readFields Settings.recordType depth bound isFirst seen
          (blank.text ++ (members.text isFirst ++ (inner.text ++ '\x7d' :: rest))))
        (Settings.fieldsFrom? Value.string? seen members.toList) (· = '\x7d' :: rest)
  | .nil, isFirst, seen, blank, bound, h => by
    obtain ⟨d, bound, rfl⟩ := List.exists_cons_of_length_pos (Nat.zero_lt_of_lt h)
    rw [readFields, JsonText.Members.text, List.nil_append, bind_apply, nextKey_close, ok_bind]
    simp only [missing?_recordType]
    exact .ok rfl
  | .cons front key gap between value behind members, isFirst, seen, blank, bound, h => by
    obtain ⟨d, bound, rfl⟩ := List.exists_cons_of_length_pos (Nat.zero_lt_of_lt h)
    have hlength : (members.text false).length < bound.length := by
      simp only [JsonText.Members.text, List.length_append, List.length_cons] at h
      omega
    rw [readFields, JsonText.Members.text, JsonText.Members.toList, Settings.fieldsFrom?, inQuotes]
    simp only [List.append_assoc, List.cons_append, List.nil_append]
    rw [bind_apply, nextKey_separator, bind_bind]
    refine (readText_yields key _).bind fun key _ _ hrest => ?_
    subst hrest
    rw [ok_bind]
    cases hfield : Settings.recordType.field? key with
    | none => exact ⟨_, by simp only [hfield]; rfl⟩
    | some field =>
      simp only [hfield, Option.bind_some]
      split
      · exact ⟨_, rfl⟩
      · rw [bind_apply, colon_apply, ok_bind, bind_apply]
        refine (readField_yields hdepth hfield between value _).bind fun value _ _ hrest => ?_
        subst hrest
        exact readFields_yields hdepth inner rest members false _ behind bound hlength

/-- The record of a whole text. -/
theorem readRecord_yields (document : Document) :
    Yields (readRecord Settings.recordType maxDepth document.text)
      (Settings.fieldsFrom? Value.string? [] document.members.toList)
      (· = document.behind.text) := by
  have hread := readFields_yields (show 1 < maxDepth - 1 by decide) document.inner
    document.behind.text document.members true [] .empty
    (document.members.text true ++ (document.inner.text ++ '\x7d' :: document.behind.text))
    (by
      simp only [List.length_append, List.length_cons]
      omega)
  rw [Document.text, Value.text_object, List.append_assoc, List.cons_append, readRecord, bind_apply,
    peekToken?_of_not_isSpace document.front rfl, ok_bind,
    ← Option.bind_fun_some (Settings.fieldsFrom? ..)]
  simp only [List.append_assoc, List.cons_append, List.nil_append]
  refine Yields.bind hread fun members _ _ hrest => ?_
  subst hrest
  exact .ok rfl

theorem atEnd_text (blank : Blank) : atEnd blank.text = .ok ((), []) := by
  have hpeek : peekToken? blank.text = .ok (none, []) := by
    have h := dropWhile_isSpace_append blank []
    rw [List.append_nil] at h
    rw [peekToken?_apply, h]
    rfl
  rw [atEnd, bind_apply, hpeek]
  rfl

end Reader

namespace Settings

open Reader

/-- **A JSON text is settings if and only if its object writes settings**, where texts are strings.
-/
theorem ofJson?_text (document : Document) :
    ofJson? document.text =
      (fieldsFrom? Value.string? [] document.members.toList).map ofMembers := by
  have hrun : Yields ((readRecord recordType maxDepth <* atEnd) document.text)
      (fieldsFrom? Value.string? [] document.members.toList) (· = []) := by
    rw [← Option.bind_fun_some (fieldsFrom? ..)]
    refine (readRecord_yields document).bind fun members _ _ hrest => ?_
    subst hrest
    change Yields ((atEnd document.behind.text).bind fun run => .ok (members, run.2)) _ _
    rw [atEnd_text]
    exact .ok rfl
  unfold ofJson? run
  cases h : fieldsFrom? Value.string? [] document.members.toList with
  | none =>
    obtain ⟨stop, hstop⟩ := h ▸ hrun
    rw [StateT.run, hstop]
    rfl
  | some members =>
    obtain ⟨rest, hok, -⟩ := h ▸ hrun
    rw [StateT.run, hok]
    rfl

end Settings

end SiteWeave
