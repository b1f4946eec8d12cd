import SiteWeave.Proofs.Settings.JsonObject
import SiteWeave.Proofs.Yaml.JsonDocument

/-!
# Settings in JSON texts

A text is read as JSON first and as YAML where that fails. Nearly every JSON text is a YAML text
too, so that both readers decide what a JSON text means as settings. YAML takes words and numbers as
texts besides, as they are written, and it folds the line breaks of its own that stand in strings.

## Main definitions

* `Settings.IsYaml`: the layout that a JSON text has to have in YAML.

## Main results

* `Settings.ofYaml_text_eq_ok_iff`: the settings of a JSON text that is read as YAML.
* `Settings.parse_text_eq_ok_iff`: the settings of a JSON text.
-/

namespace SiteWeave.Settings

open JsonText Yaml NodeReader

variable {document : Yaml.Document} {unread : Unread} {parts rest : List NodePart}

/-! ### Settings in YAML -/

/-- The value of a field is read as far as its kind allows. -/
theorem readField_yields (kind : FieldKind) (path : String) {value : JsonText.Value}
    (hvalue : value.isReadable) (h : unread.Holds (value.parts ++ rest)) :
    Yields (readField kind path document unread) (fieldValue? Value.yamlText? kind value)
      (·.Holds rest) := by
  cases kind with
  | textList => exact (texts_yields path hvalue h).map
  | _ => exact (text_yields path hvalue h).map

variable (document) in
theorem readFields_end (since : Mark) (fuel : Nat) (seen : SiteWeave.Members)
    (h : unread.Holds (.mappingEnd :: rest)) :
    ∃ left, left.Holds rest ∧
      readFields since (fuel + 1) seen document unread = .ok (seen.reverse, left) := by
  obtain ⟨piece, hcontent, hpeek⟩ := peek_eq document h
  obtain ⟨last, left, -, hleft, hnext⟩ := next_eq document h
  refine ⟨left, hleft, ?_⟩
  rw [readFields, bind_apply, hpeek, Except.bind]
  dsimp only
  rw [hcontent]
  change ((next document unread).bind fun run => .ok (seen.reverse, run.2)) = _
  rw [hnext]
  rfl

/-- Members are read one after another up to the end of their mapping. -/
theorem readFields_yields (since : Mark) : ∀ (members : JsonText.Members) (fuel : Nat)
    (seen : SiteWeave.Members) {unread : Unread}, members.isReadable →
    members.parts.length < fuel → unread.Holds (members.parts ++ .mappingEnd :: rest) →
    Yields (readFields since fuel seen document unread)
      (fieldsFrom? Value.yamlText? seen members.toList) (·.Holds rest)
  | .nil, fuel + 1, seen, unread, _, _, h => by
    rw [JsonText.Members.parts, List.nil_append] at h
    obtain ⟨left, hleft, hend⟩ := readFields_end document since fuel seen h
    rw [hend]
    exact .ok hleft
  | .cons front key gap between value behind members, fuel + 1, seen, unread, hreadable, hfuel,
      h => by
    obtain ⟨hkey, hvalue, hmembers⟩ := by
      simpa only [JsonText.Members.isReadable, Bool.and_eq_true] using hreadable
    obtain ⟨text, htext⟩ := Option.isSome_iff_exists.1 hkey
    rw [JsonText.Members.parts, htext, List.cons_append, List.append_assoc, Option.getD_some] at h
    have hlength : members.parts.length < fuel := by
      simp only [JsonText.Members.parts, List.length_append, List.length_cons] at hfuel
      omega
    have hyaml : Value.yamlText? (.string key) = some (String.ofList text) := by
      rw [Value.yamlText?, htext, Option.map_some]
    rw [JsonText.Members.toList, fieldsFrom?, hyaml, Option.bind_some]
    obtain ⟨piece, hcontent, hpeek⟩ := peek_eq document h
    obtain ⟨mark, left, hleft, hread⟩ :=
      placedText_scalar document "" "field identifier" h
    rw [readFields, bind_apply, hpeek, Except.bind]
    dsimp only
    rw [hcontent]
    dsimp only [NodePart.content]
    rw [bind_apply, hread, Except.bind]
    dsimp only
    cases hfield : recordType.field? (String.ofList text) with
    | none => exact .error
    | some field =>
      rw [Option.bind_some]
      cases hseen : (Json.find? (String.ofList text) seen).isSome with
      | true => exact .error
      | false =>
        simp only [Bool.false_eq_true, if_false, bind_apply]
        refine (readField_yields field.kind _ hvalue hleft).bind fun value left _ hleft => ?_
        exact readFields_yields since members fuel _ hmembers hlength hleft

/-- The settings of an object are read from its parts. -/
theorem readSettings_yields {document : JsonText.Document} {whole : Yaml.Document} {unread : Unread}
    (hreadable : document.members.isReadable) (h : unread.Holds document.object.parts) :
    Yields (readSettings whole unread)
      ((fieldsFrom? Value.yamlText? [] document.members.toList).map ofMembers) (·.Holds []) := by
  rw [JsonText.Document.object, JsonText.Value.parts] at h
  obtain ⟨piece, left, hcontent, hleft, hnode⟩ := throughAlias_eq whole h
  have hlength : document.members.parts.length < left.pieces.length + 1 := by
    have hlength := congrArg List.length hleft
    simp only [List.length_map, List.length_append] at hlength
    omega
  rw [readSettings, hnode, hcontent]
  exact (readFields_yields piece.mark document.members (left.pieces.length + 1) [] hreadable
    hlength hleft).map

/-- **A JSON text is settings in YAML** if and only if YAML reads it up to its end and its object
writes settings, where words are texts. -/
theorem ofYaml_text_eq_ok_iff {document : JsonText.Document} {settings : Settings} :
    ofYaml document.text = .ok settings ↔ document.HasEvents ∧
      (fieldsFrom? Value.yamlText? [] document.members.toList).map ofMembers = some settings := by
  by_cases hevents : document.HasEvents
  · obtain ⟨hpieces, herror, hnext⟩ := document.pieces_ofText hevents
    have hread : Yields (readSettings (Yaml.Document.ofText document.text) ⟨_, 0⟩) _ _ :=
      readSettings_yields hevents.hasTokens.isReadable hpieces
    cases hresult : (fieldsFrom? Value.yamlText? [] document.members.toList).map ofMembers with
    | none =>
      obtain ⟨error, hstop⟩ := hresult ▸ hread
      simp [ofYaml, run_of_error hstop]
    | some written =>
      obtain ⟨left, hok, -⟩ := hresult ▸ hread
      simp [ofYaml, run_of_ok hok herror hnext, hevents]
  · obtain ⟨error, hrefused⟩ := run_of_fault (document.events_ofText.2 hevents) readSettings
    simp [ofYaml, hrefused, hevents]

/-! ### Layout -/

/-- A text can be read and has no keys in it. -/
theorem isReadable_of_isSome_yamlText? {value : JsonText.Value} (h : value.yamlText?.isSome) :
    value.isReadable ∧ value.hasSimpleKeys := by
  cases value with
  | word word => simp [Value.isReadable, Value.hasSimpleKeys]
  | string letters => simpa [Value.isReadable, Value.hasSimpleKeys, Value.yamlText?] using h
  | _ => cases h

/-- The texts of a list can be read and have no keys in them. -/
theorem isReadable_of_isSome_mapM : ∀ {items : Items},
    (items.toList.mapM Value.yamlText?).isSome → items.isReadable ∧ items.hasSimpleKeys
  | .nil, _ => ⟨rfl, rfl⟩
  | .cons _ value _ items, h => by
    rw [Items.toList, List.mapM_cons] at h
    obtain ⟨_, hread⟩ := Option.isSome_iff_exists.1 h
    obtain ⟨text, htext, hread⟩ := Option.bind_eq_some_iff.1 hread
    obtain ⟨texts, htexts, -⟩ := Option.bind_eq_some_iff.1 hread
    obtain ⟨hvalue, hvalue'⟩ := isReadable_of_isSome_yamlText? (Option.isSome_of_eq_some htext)
    obtain ⟨hitems, hitems'⟩ := isReadable_of_isSome_mapM (Option.isSome_of_eq_some htexts)
    simp [Items.isReadable, Items.hasSimpleKeys, hvalue, hvalue', hitems, hitems']

/-- The value of a field can be read and has no keys in it. -/
theorem isReadable_of_isSome_fieldValue? {kind : FieldKind} {value : JsonText.Value}
    (h : (fieldValue? Value.yamlText? kind value).isSome) :
    value.isReadable ∧ value.hasSimpleKeys := by
  have htext (h : (value.yamlText?.map Json.string).isSome) :
      value.isReadable ∧ value.hasSimpleKeys :=
    isReadable_of_isSome_yamlText? (by rwa [Option.isSome_map] at h)
  cases kind with
  | textList =>
    rw [fieldValue?, Option.isSome_map] at h
    cases value with
    | array items inner =>
      rw [JsonText.Value.isReadable, JsonText.Value.hasSimpleKeys]
      exact isReadable_of_isSome_mapM h
    | _ => cases h
  | _ => exact htext h

/-- Members that are settings can be read, and there are no keys but their own. -/
theorem isReadable_of_fieldsFrom?_eq_some : ∀ {members : JsonText.Members}
    {seen result : SiteWeave.Members},
    fieldsFrom? Value.yamlText? seen members.toList = some result → members.isReadable ∧
      (members.hasSimpleKeys ↔ ∀ member ∈ members.toList, isSimpleKey member.key member.gap)
  | .nil, _, _, _ => ⟨rfl, by simp [JsonText.Members.hasSimpleKeys, JsonText.Members.toList]⟩
  | .cons _ key gap _ value _ members, seen, result, h => by
    rw [JsonText.Members.toList] at h ⊢
    obtain ⟨text, field, hkey, -, hfield, h⟩ := fieldsFrom?_cons_eq_some.1 h
    obtain ⟨known, -, hvalue⟩ := Option.bind_eq_some_iff.1 hfield
    obtain ⟨_, hvalue, -⟩ := Option.map_eq_some_iff.1 hvalue
    obtain ⟨hvalue, hvalue'⟩ := isReadable_of_isSome_fieldValue? (Option.isSome_of_eq_some hvalue)
    obtain ⟨hmembers, hmembers'⟩ := isReadable_of_fieldsFrom?_eq_some h
    have hkey := (isReadable_of_isSome_yamlText? (Option.isSome_of_eq_some hkey)).1
    rw [JsonText.Value.isReadable] at hkey
    constructor
    · simp [JsonText.Members.isReadable, hkey, hvalue, hmembers]
    · simp [JsonText.Members.hasSimpleKeys, hvalue', hmembers']

/-- **The layout that a JSON text has to have in YAML**, beyond its strings: no character is
refused, no tab stands where a block could be indented, and each key stands on one line with its
colon and is not too long. -/
structure IsYaml (document : JsonText.Document) : Prop where
  isAllowed : document.text.all TokenStream.isAllowed
  front : hasStrayTab true document.front.text = false
  behind : hasStrayTab false document.behind.text = false
  isSimpleKey : ∀ member ∈ document.members.toList, isSimpleKey member.key member.gap

/-- Where an object writes settings, YAML reads its text up to its end if and only if the text has
the right layout. -/
theorem hasEvents_iff {document : JsonText.Document} {result : SiteWeave.Members}
    (h : fieldsFrom? Value.yamlText? [] document.members.toList = some result) :
    document.HasEvents ↔ IsYaml document := by
  obtain ⟨hreadable, hkeys⟩ := isReadable_of_fieldsFrom?_eq_some h
  constructor
  · rintro ⟨⟨hallowed, hfront, hbehind, -⟩, hsimple⟩
    exact ⟨hallowed, hfront, hbehind, hkeys.1 hsimple⟩
  · rintro ⟨hallowed, hfront, hbehind, hsimple⟩
    exact ⟨⟨hallowed, hfront, hbehind, hreadable⟩, hkeys.2 hsimple⟩

/-! ### Either format -/

/-- **The settings of a JSON text** are those that its object writes with strings as texts. Only
where it writes none, and where the layout is one of YAML, are words taken as texts too, and strings
as YAML reads them; all other texts are refused. -/
theorem parse_text_eq_ok_iff (document : JsonText.Document) (settings : Settings) :
    parse document.text = .ok settings ↔
      IsWritten Value.string? document.members.toList settings ∨
        (¬ ∃ strict, IsWritten Value.string? document.members.toList strict) ∧
          IsYaml document ∧ IsWritten Value.yamlText? document.members.toList settings := by
  have hyaml : ofYaml document.text = .ok settings ↔
      IsYaml document ∧ IsWritten Value.yamlText? document.members.toList settings := by
    rw [ofYaml_text_eq_ok_iff, ← map_ofMembers_fieldsFrom?]
    refine and_congr_left fun h => ?_
    obtain ⟨result, hresult, -⟩ := Option.map_eq_some_iff.1 h
    exact hasEvents_iff hresult
  have hstrict (strict : Settings) : ofJson? document.text = some strict ↔
      IsWritten Value.string? document.members.toList strict := by
    rw [ofJson?_text, map_ofMembers_fieldsFrom?]
  rw [parse]
  cases hjson : ofJson? document.text with
  | none =>
    have hnone : ¬ ∃ strict, IsWritten Value.string? document.members.toList strict := by
      rintro ⟨strict, h⟩
      exact absurd (hjson.symm.trans ((hstrict strict).2 h)) nofun
    have hnot : ¬ IsWritten Value.string? document.members.toList settings := fun h =>
      hnone ⟨settings, h⟩
    simp only [hyaml, hnone, hnot, false_or, not_false_eq_true, true_and]
  | some strict =>
    have hwritten := (hstrict strict).1 hjson
    have hnot : ¬ ¬ ∃ strict, IsWritten Value.string? document.members.toList strict :=
      not_not.2 ⟨strict, hwritten⟩
    rw [← hstrict, hjson]
    simp [hnot]

/-- An object that writes a number as the image. -/
def imageNumber : JsonText.Document where
  front := .empty
  members := .cons .empty
    [.plain 'o' (by decide), .plain 'g' (by decide), .plain '_' (by decide),
      .plain 'i' (by decide), .plain 'm' (by decide), .plain 'a' (by decide),
      .plain 'g' (by decide), .plain 'e' (by decide)]
    .empty ⟨[' '], by simp [Reader.isSpace]⟩
    (.word (.number ⟨false, ['5'], none, none, ⟨by simp, by simp⟩, by simp, by simp⟩))
    .empty .nil
  inner := .empty
  behind := .empty

/-- Strings are not all that is taken as a text: a number is too, where an object with strings only
would be refused. -/
theorem not_forall_parse_imageNumber_iff :
    imageNumber.text = "\x7b\"og_image\": 5\x7d".toList ∧
      ¬ ∀ settings : Settings, parse imageNumber.text = .ok settings ↔
        IsWritten Value.string? imageNumber.members.toList settings := by
  refine ⟨by decide, fun h => ?_⟩
  have hyaml : parse imageNumber.text = .ok { ogImage := "5" } := by
    rfl
  have hjson := map_ofMembers_fieldsFrom?.2 ((h _).1 hyaml)
  exact absurd hjson (by decide)

end SiteWeave.Settings
