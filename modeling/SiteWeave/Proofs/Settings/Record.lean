import Mathlib.Data.List.Basic
import SiteWeave.Proofs.Json.Object
import SiteWeave.Proofs.Json.Written
import SiteWeave.Settings.Reading

/-!
# Settings as the members of an object

What it means that settings are written as an object, whatever counts as a text in it. The readers
of both formats go through the members one after another and stop at the first that does not fit;
this is compared with the members as a whole.

## Main definitions

* `Settings.IsWritten`: the settings that the members of an object write, by a reading of texts.
* `Settings.fieldsFrom?`: the members read one after another.
* `Yields`: a run of a reader that may stop, with what it leaves.

## Main results

* `Settings.map_ofMembers_fieldsFrom?`: the members are read if and only if they write settings.
-/

namespace SiteWeave

/-- A run that comes to a result and leaves what is expected, or stops where there is no result. -/
def Yields {ε α σ : Type} (outcome : Except ε (α × σ)) (result? : Option α) (left : σ → Prop) :
    Prop :=
  match result? with
  | some result => ∃ rest, outcome = .ok (result, rest) ∧ left rest
  | none => ∃ error, outcome = .error error

namespace Yields

variable {ε α β σ τ : Type} {outcome : Except ε (α × σ)} {result? : Option α} {left : σ → Prop}

theorem ok {result : α} {rest : σ} (h : left rest) :
    Yields (.ok (result, rest) : Except ε (α × σ)) (some result) left :=
  ⟨rest, rfl, h⟩

theorem error {error : ε} : Yields (.error error : Except ε (α × σ)) none left :=
  ⟨error, rfl⟩

theorem bind {f : α × σ → Except ε (β × τ)} {g : α → Option β} {onward : τ → Prop}
    (h : Yields outcome result? left)
    (hf : ∀ result rest, result? = some result → left rest →
      Yields (f (result, rest)) (g result) onward) :
    Yields (outcome.bind f) (result?.bind g) onward := by
  cases result? with
  | none =>
    obtain ⟨error, rfl⟩ := h
    exact ⟨error, rfl⟩
  | some result =>
    obtain ⟨rest, rfl, hrest⟩ := h
    exact hf result rest rfl hrest

theorem map {f : α → β} (h : Yields outcome result? left) :
    Yields (outcome.bind fun run => .ok (f run.1, run.2)) (result?.map f) left := by
  rw [Option.map_eq_bind]
  exact h.bind fun _ _ _ hrest => ok hrest

end Yields

namespace Settings

open JsonText

variable (text? : Value → Option String)

/-- The texts of a list. -/
def texts? : Value → Option (List String)
  | .array items _ => items.toList.mapM text?
  | _ => none

/-- The members of an object with their keys as texts. -/
def keyed? (members : List Member) : Option (List (String × Value)) :=
  members.mapM fun member => (text? (.string member.key)).map (·, member.value)

/-- Whether a setting has the value that is written, or its default where none is written. -/
def IsSet {α : Type} (read : Value → Option α) (written : Option Value) (standard value : α) :
    Prop :=
  match written with
  | none => value = standard
  | some written => read written = some value

/-- **Settings that an object writes**: each member has a key of its own that is known, two settings
are texts and one a list of texts, and what is not written has its default. -/
def IsWritten (members : List Member) (settings : Settings) : Prop :=
  ∃ keyed, keyed? text? members = some keyed ∧
    (keyed.map Prod.fst).Nodup ∧
    (∀ key ∈ keyed.map Prod.fst, key ∈ ["blog_description", "og_image", "exclude"]) ∧
    IsSet text? (keyed.lookup "blog_description") ({} : Settings).blogDescription
      settings.blogDescription ∧
    IsSet text? (keyed.lookup "og_image") ({} : Settings).ogImage settings.ogImage ∧
    IsSet (texts? text?) (keyed.lookup "exclude") ({} : Settings).exclude settings.exclude

/-- The value of a field. -/
def fieldValue? (kind : FieldKind) (value : Value) : Option Json :=
  match kind with
  | .textList => (texts? text? value).map fun texts => .array (texts.map .string)
  | _ => (text? value).map .string

/-- A member as a member of a record. -/
def field? (member : String × Value) : Option (String × Json) :=
  (recordType.field? member.1).bind fun field =>
    (fieldValue? text? field.kind member.2).map (member.1, ·)

/-- The members one after another, with those read before, the last one first. -/
def fieldsFrom? : SiteWeave.Members → List Member → Option SiteWeave.Members
  | seen, [] => some seen.reverse
  | seen, member :: members =>
    (text? (.string member.key)).bind fun key =>
      (recordType.field? key).bind fun field =>
        if (Json.find? key seen).isSome then none
        else
          (fieldValue? text? field.kind member.value).bind fun value =>
            fieldsFrom? ((key, value) :: seen) members

variable {text?}

theorem mapM_map {α β γ : Type} (read : α → Option β) (f : β → γ) (values : List α) :
    values.mapM (fun value => (read value).map f) = (values.mapM read).map (List.map f) := by
  induction values with
  | nil => rfl
  | cons value values ih =>
    rw [List.mapM_cons, List.mapM_cons, ih]
    cases read value with
    | none => rfl
    | some text => cases values.mapM read <;> rfl

theorem keyed?_cons (member : Member) (members : List Member) :
    keyed? text? (member :: members) =
      (text? (.string member.key)).bind fun key =>
        (keyed? text? members).map ((key, member.value) :: ·) := by
  rw [keyed?, List.mapM_cons]
  cases text? (.string member.key) with
  | none => rfl
  | some key => exact (Option.map_eq_bind ..).symm

theorem fst_of_field?_eq_some {member : String × Value} {field : String × Json}
    (h : field? text? member = some field) : field.1 = member.1 := by
  simp only [field?, Option.bind_eq_some_iff, Option.map_eq_some_iff] at h
  obtain ⟨_, _, _, _, rfl⟩ := h
  rfl

theorem fieldsFrom?_cons_eq_some {seen result : SiteWeave.Members} {member : Member}
    {members : List Member} :
    fieldsFrom? text? seen (member :: members) = some result ↔
      ∃ key field, text? (.string member.key) = some key ∧ Json.find? key seen = none ∧
        field? text? (key, member.value) = some field ∧
        fieldsFrom? text? (field :: seen) members = some result := by
  rw [fieldsFrom?]
  constructor
  · intro h
    obtain ⟨key, hkey, field, hfield, h⟩ := by simpa only [Option.bind_eq_some_iff] using h
    split_ifs at h with hseen
    obtain ⟨value, hvalue, h⟩ := Option.bind_eq_some_iff.1 h
    exact ⟨key, (key, value), hkey, Option.not_isSome_iff_eq_none.1 hseen,
      by simp [field?, hfield, hvalue], h⟩
  · rintro ⟨key, field, hkey, hseen, hfield, h⟩
    simp only [field?, Option.bind_eq_some_iff, Option.map_eq_some_iff] at hfield
    obtain ⟨_, hknown, value, hvalue, rfl⟩ := hfield
    simp [hkey, hknown, hseen, hvalue, h]

/-- Members are read if and only if all have texts as keys, no two the same and none that was read
before, and values that their fields may hold. -/
theorem fieldsFrom?_eq_some {seen result : SiteWeave.Members} {members : List Member} :
    fieldsFrom? text? seen members = some result ↔
      ∃ keyed, keyed? text? members = some keyed ∧ (keyed.map Prod.fst).Nodup ∧
        (∀ member ∈ keyed, (field? text? member).isSome ∧ Json.find? member.1 seen = none) ∧
        seen.reverse ++ keyed.filterMap (field? text?) = result := by
  induction members generalizing seen with
  | nil => simp [fieldsFrom?, keyed?]
  | cons member members ih =>
    rw [fieldsFrom?_cons_eq_some, keyed?_cons]
    have hfresh {field : String × Json} {key : String} :
        Json.find? key (field :: seen) = none ↔ field.1 ≠ key ∧ Json.find? key seen = none := by
      rcases field with ⟨name, value⟩
      by_cases h : key = name <;> simp [Json.find?, h, Ne.symm]
    constructor
    · rintro ⟨key, field, hkey, hseen, hfield, h⟩
      obtain ⟨keyed, hkeyed, hnodup, hmem, rfl⟩ := ih.1 h
      have hfst := fst_of_field?_eq_some hfield
      refine ⟨(key, member.value) :: keyed, by simp [hkey, hkeyed], ?_, ?_, by simp [hfield]⟩
      · rw [List.map_cons, List.nodup_cons]
        refine ⟨fun h => ?_, hnodup⟩
        obtain ⟨other, hother, heq⟩ := List.mem_map.1 h
        exact (hfresh.1 (hmem other hother).2).1 (hfst.trans heq.symm)
      · rintro other (_ | ⟨_, hother⟩)
        · exact ⟨by simp [hfield], hseen⟩
        · exact ⟨(hmem other hother).1, (hfresh.1 (hmem other hother).2).2⟩
    · rintro ⟨_, h, hnodup, hmem, rfl⟩
      obtain ⟨key, hkey, h⟩ := Option.bind_eq_some_iff.1 h
      obtain ⟨keyed, hkeyed, rfl⟩ := Option.map_eq_some_iff.1 h
      rw [List.forall_mem_cons] at hmem
      obtain ⟨⟨hfield, hseen⟩, hmem⟩ := hmem
      obtain ⟨field, hfield⟩ := Option.isSome_iff_exists.1 hfield
      rw [List.map_cons, List.nodup_cons] at hnodup
      refine ⟨key, field, hkey, hseen, hfield, ih.2 ⟨keyed, hkeyed, hnodup.2, ?_, by simp [hfield]⟩⟩
      refine fun other hother => ⟨(hmem other hother).1, hfresh.2 ⟨fun h => hnodup.1 ?_,
        (hmem other hother).2⟩⟩
      exact List.mem_map.2 ⟨other, hother, h.symm.trans (fst_of_field?_eq_some hfield)⟩

theorem lookup_eq_some_iff_mem {keyed : List (String × Value)}
    (h : (keyed.map Prod.fst).Nodup) {key : String} {value : Value} :
    keyed.lookup key = some value ↔ (key, value) ∈ keyed := by
  induction keyed with
  | nil => simp
  | cons member keyed ih =>
    obtain ⟨name, other⟩ := member
    rw [List.map_cons, List.nodup_cons] at h
    rw [List.lookup_cons, List.mem_cons, Prod.mk.injEq, ← ih h.2]
    by_cases hkey : key = name
    · subst hkey
      have hnone : keyed.lookup key ≠ some value := fun hsome =>
        h.1 (List.mem_map.2 ⟨_, (ih h.2).1 hsome, rfl⟩)
      simp [hnone, eq_comm]
    · simp [hkey, beq_false_of_ne hkey]

theorem find?_filterMap_field? {keyed : List (String × Value)}
    (h : (keyed.map Prod.fst).Nodup) (key : String) :
    Json.find? key (keyed.filterMap (field? text?)) =
      (keyed.lookup key).bind fun value => (field? text? (key, value)).map Prod.snd := by
  induction keyed with
  | nil => rfl
  | cons member keyed ih =>
    obtain ⟨name, value⟩ := member
    rw [List.map_cons, List.nodup_cons] at h
    rw [List.lookup_cons, List.filterMap_cons]
    by_cases hkey : key = name
    · subst hkey
      have hnone : keyed.lookup key = none :=
        Option.eq_none_iff_forall_not_mem.2 fun value hvalue =>
          h.1 (List.mem_map.2 ⟨_, (lookup_eq_some_iff_mem h.2).1 hvalue, rfl⟩)
      cases hfield : field? text? (key, value) with
      | none => simp [ih h.2, hnone, hfield]
      | some field =>
        obtain ⟨_, field⟩ := field
        cases fst_of_field?_eq_some hfield
        simp [Json.find?, hfield]
    · cases hfield : field? text? (name, value) with
      | none => simp [ih h.2, beq_false_of_ne hkey]
      | some field =>
        obtain ⟨_, field⟩ := field
        cases fst_of_field?_eq_some hfield
        simp [Json.find?, ih h.2, hkey, beq_false_of_ne hkey]

theorem isSet_iff {α : Type} {read : Value → Option α} {written : Option Value}
    {standard value : α} :
    IsSet read written standard value ↔
      (∀ text ∈ written, (read text).isSome) ∧ (written.bind read).getD standard = value := by
  cases written with
  | none => exact ⟨fun h => ⟨by simp, h.symm⟩, fun h => h.2.symm⟩
  | some text => cases h : read text <;> simp [IsSet, h]

theorem field?_blogDescription (value : Value) :
    field? text? ("blog_description", value) =
      (text? value).map fun text => ("blog_description", .string text) := by
  simp [field?, recordType, RecordType.field?, fieldValue?, Function.comp_def]

theorem field?_ogImage (value : Value) :
    field? text? ("og_image", value) =
      (text? value).map fun text => ("og_image", .string text) := by
  simp [field?, recordType, RecordType.field?, fieldValue?, Function.comp_def]

theorem field?_exclude (value : Value) :
    field? text? ("exclude", value) =
      (texts? text? value).map fun texts => ("exclude", .array (texts.map .string)) := by
  simp [field?, recordType, RecordType.field?, fieldValue?, Function.comp_def]

theorem known_of_isSome_field? {member : String × Value} (h : (field? text? member).isSome) :
    member.1 ∈ ["blog_description", "og_image", "exclude"] := by
  obtain ⟨field, hfield⟩ := Option.isSome_iff_exists.1 h
  obtain ⟨known, hknown, -⟩ := Option.bind_eq_some_iff.1 hfield
  have hkey := List.find?_some hknown
  have hmem := List.mem_of_find?_eq_some hknown
  simp only [recordType, List.mem_cons, List.not_mem_nil, or_false] at hmem
  rcases hmem with rfl | rfl | rfl <;> simp_all [eq_comm]

theorem textOrNull?_eq (members : SiteWeave.Members) (key : String) :
    members.textOrNull? key = (Json.find? key members).bind fun
      | .string value => some value
      | _ => none := by
  unfold SiteWeave.Members.textOrNull?
  cases Json.find? key members with
  | none => rfl
  | some value => cases value <;> rfl

theorem texts?_eq (members : SiteWeave.Members) (key : String) :
    members.texts? key = (Json.find? key members).bind fun
      | .array items => some (items.filterMap fun
        | .string value => some value
        | _ => none)
      | _ => none := by
  unfold SiteWeave.Members.texts?
  cases Json.find? key members with
  | none => rfl
  | some value => cases value <;> rfl

/-- The settings of members, from the members themselves. -/
theorem ofMembers_filterMap_field? {keyed : List (String × Value)}
    (h : (keyed.map Prod.fst).Nodup) :
    ofMembers (keyed.filterMap (field? text?)) =
      { blogDescription :=
          ((keyed.lookup "blog_description").bind text?).getD ({} : Settings).blogDescription
        ogImage := ((keyed.lookup "og_image").bind text?).getD ({} : Settings).ogImage
        exclude :=
          ((keyed.lookup "exclude").bind (texts? text?)).getD ({} : Settings).exclude } := by
  have htext (key : String) (hkey : ∀ value, field? text? (key, value) =
      (text? value).map fun text => (key, .string text)) :
      SiteWeave.Members.textOrNull? (keyed.filterMap (field? text?)) key =
        (keyed.lookup key).bind text? := by
    rw [textOrNull?_eq, find?_filterMap_field? h]
    cases keyed.lookup key with
    | none => rfl
    | some value => cases hvalue : text? value <;> simp [hkey, hvalue]
  have htexts : SiteWeave.Members.texts? (keyed.filterMap (field? text?)) "exclude" =
      (keyed.lookup "exclude").bind (texts? text?) := by
    rw [texts?_eq, find?_filterMap_field? h]
    cases keyed.lookup "exclude" with
    | none => rfl
    | some value =>
      cases hvalue : texts? text? value <;> simp [field?_exclude, hvalue]
  rw [ofMembers, htext _ field?_blogDescription, htext _ field?_ogImage, htexts]

/-- All members are members of the record if and only if their keys are known and the values under
the three keys can be read. -/
theorem forall_isSome_field?_iff {keyed : List (String × Value)} (h : (keyed.map Prod.fst).Nodup) :
    (∀ member ∈ keyed, (field? text? member).isSome) ↔
      (∀ key ∈ keyed.map Prod.fst, key ∈ ["blog_description", "og_image", "exclude"]) ∧
      (∀ value ∈ keyed.lookup "blog_description", (text? value).isSome) ∧
      (∀ value ∈ keyed.lookup "og_image", (text? value).isSome) ∧
      ∀ value ∈ keyed.lookup "exclude", (texts? text? value).isSome := by
  simp only [Option.mem_def, lookup_eq_some_iff_mem h]
  constructor
  · intro hmem
    refine ⟨fun key hkey => ?_, fun value hvalue => ?_, fun value hvalue => ?_,
      fun value hvalue => ?_⟩
    · obtain ⟨member, hmember, rfl⟩ := List.mem_map.1 hkey
      exact known_of_isSome_field? (hmem member hmember)
    · simpa [field?_blogDescription] using hmem _ hvalue
    · simpa [field?_ogImage] using hmem _ hvalue
    · simpa [field?_exclude] using hmem _ hvalue
  · rintro ⟨hknown, hdescription, himage, hexclude⟩ ⟨key, value⟩ hmember
    have hkey := hknown key (List.mem_map.2 ⟨_, hmember, rfl⟩)
    simp only [List.mem_cons, List.not_mem_nil, or_false] at hkey
    rcases hkey with rfl | rfl | rfl
    · simpa [field?_blogDescription] using hdescription _ hmember
    · simpa [field?_ogImage] using himage _ hmember
    · simpa [field?_exclude] using hexclude _ hmember

/-- **The members of an object are read if and only if they write settings.** -/
theorem map_ofMembers_fieldsFrom? {members : List Member} {settings : Settings} :
    (fieldsFrom? text? [] members).map ofMembers = some settings ↔
      IsWritten text? members settings := by
  rw [Option.map_eq_some_iff]
  constructor
  · rintro ⟨_, h, rfl⟩
    obtain ⟨keyed, hkeyed, hnodup, hmem, rfl⟩ := fieldsFrom?_eq_some.1 h
    obtain ⟨hknown, hdescription, himage, hexclude⟩ :=
      (forall_isSome_field?_iff hnodup).1 fun member hmember => (hmem member hmember).1
    rw [List.reverse_nil, List.nil_append, ofMembers_filterMap_field? hnodup]
    exact ⟨keyed, hkeyed, hnodup, hknown, isSet_iff.2 ⟨hdescription, rfl⟩,
      isSet_iff.2 ⟨himage, rfl⟩, isSet_iff.2 ⟨hexclude, rfl⟩⟩
  · rintro ⟨keyed, hkeyed, hnodup, hknown, hdescription, himage, hexclude⟩
    rw [isSet_iff] at hdescription himage hexclude
    have hfield := (forall_isSome_field?_iff hnodup).2
      ⟨hknown, hdescription.1, himage.1, hexclude.1⟩
    refine ⟨_, fieldsFrom?_eq_some.2 ⟨keyed, hkeyed, hnodup, fun member hmember =>
      ⟨hfield member hmember, rfl⟩, rfl⟩, ?_⟩
    rw [List.reverse_nil, List.nil_append, ofMembers_filterMap_field? hnodup, hdescription.2,
      himage.2, hexclude.2]

end Settings

end SiteWeave
