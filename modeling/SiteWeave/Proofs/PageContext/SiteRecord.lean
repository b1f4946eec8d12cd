import SiteWeave.Json.Record
import SiteWeave.Proofs.PageContext.Expansion

/-!
# The record of a site in the pages

An object is the record of a site exactly if it has the five texts that every page uses. Such a
record is taken apart into these texts and the other members, and put together again in the context
of every page. Nothing is lost on the way, and nothing in the context gets in the way: at a path
behind `site` every page finds what the object has there.

## Main results

* `Json.toRecord_eq_ok_iff`: which objects are records of texts that keep their other members.
* `Site.get?_toJson_ofMembers`: the record of a site has the members that it was read from.
* `PageContext.atPath?_site`: every page finds the record of the site as it was written.
-/

namespace SiteWeave

theorem RecordType.mem_keys_iff {type : RecordType} {key : String} :
    key ∈ type.keys ↔ (type.field? key).isSome := by
  simp [keys, field?]

namespace Json

variable {type : RecordType} {members record : Members} {value other : Json}

/-- Whether every member that is a field of a record holds a text. -/
def HasTexts (type : RecordType) (members : Members) : Prop :=
  ∀ member ∈ members, member.1 ∈ type.keys → ∃ text, member.2 = .string text

/-- A member of a record of texts is taken as it is. -/
theorem toMember_eq_ok_iff (hothers : type.others = .kept)
    (hkinds : ∀ field ∈ type.fields, field.kind = .text) {key : String}
    {member? : Option (String × Json)} : toMember type key value = .ok member? ↔
      member? = some (key, value) ∧ (key ∈ type.keys → ∃ text, value = .string text) := by
  rw [toMember, hothers, RecordType.mem_keys_iff]
  cases hfield : type.field? key with
  | none => simp [eq_comm]
  | some field =>
    simp only [toField, hkinds field (List.mem_of_find?_eq_some hfield)]
    cases value <;> simp [toText, Functor.map, Except.map, eq_comm]

/-- The members of a record of texts are taken as they are. -/
theorem filterMapM_toMember_eq_ok_iff (hothers : type.others = .kept)
    (hkinds : ∀ field ∈ type.fields, field.kind = .text) :
    (members.filterMapM fun (key, value) => toMember type key value) = .ok record ↔
      record = members ∧ HasTexts type members := by
  induction members generalizing record with
  | nil => simp [HasTexts, pure, Except.pure, eq_comm]
  | cons member members ih =>
    rw [List.filterMapM_cons, HasTexts, List.forall_mem_cons, ← HasTexts]
    cases hmember : toMember type member.1 member.2 with
    | error error =>
      have hfault : ¬ (member.1 ∈ type.keys → ∃ text, member.2 = .string text) := fun htext =>
        nomatch hmember.symm.trans ((toMember_eq_ok_iff hothers hkinds).2 ⟨rfl, htext⟩)
      exact iff_of_false (by simp [bind, Except.bind, hmember]) fun h => hfault h.2.1
    | ok member? =>
      obtain ⟨rfl, htext⟩ := (toMember_eq_ok_iff hothers hkinds).1 hmember
      cases hrest : members.filterMapM fun (key, value) => toMember type key value with
      | error error =>
        have hfault : ¬ HasTexts type members := fun htexts =>
          nomatch hrest.symm.trans (ih.2 ⟨rfl, htexts⟩)
        exact iff_of_false (by simp [bind, Except.bind, hmember]) fun h => hfault h.2.2
      | ok rest =>
        obtain ⟨rfl, htexts⟩ := ih.1 hrest
        simpa [bind, Except.bind, pure, Except.pure, hmember, htexts, eq_comm] using fun _ => htext

/-- **Records of texts.** An object is a record of texts that keeps its other members if its
members are texts at all fields, and every required field is there; it is taken as it is. -/
theorem toRecord_eq_ok_iff (hothers : type.others = .kept)
    (hkinds : ∀ field ∈ type.fields, field.kind = .text) :
    (object members).toRecord type = .ok record ↔
      record = members ∧ HasTexts type members ∧
        ∀ field ∈ type.fields, field.required → field.key ∈ members.map Prod.fst := by
  have hmissing : type.missing? (members.map Prod.fst) = none ↔
      ∀ field ∈ type.fields, field.required → field.key ∈ members.map Prod.fst := by
    simp [RecordType.missing?, List.find?_eq_none]
  rw [toRecord, ← hmissing]
  cases hrest : members.filterMapM fun (key, value) => toMember type key value with
  | error error =>
    have hfault : ¬ HasTexts type members := fun htexts =>
      nomatch hrest.symm.trans ((filterMapM_toMember_eq_ok_iff hothers hkinds).2 ⟨rfl, htexts⟩)
    exact iff_of_false (by simp [bind, Except.bind]) fun h => hfault h.2.1
  | ok rest =>
    obtain ⟨rfl, htexts⟩ := (filterMapM_toMember_eq_ok_iff hothers hkinds).1 hrest
    simp only [bind, Except.bind]
    cases type.missing? (rest.map Prod.fst) <;> simp [pure, Except.pure, eq_comm, htexts]

end Json

namespace Site

variable {members record : Members} {key : String}

/-- **An object is the record of a site** exactly if it has the five texts. -/
theorem exists_toRecord_eq_ok_iff (hkeys : (members.map Prod.fst).Nodup) :
    (∃ record, (Json.object members).toRecord recordType = .ok record) ↔
      ∀ key ∈ recordType.keys, ∃ text, (Json.object members).get? key = some (.string text) := by
  have hread (record : Members) : (Json.object members).toRecord recordType = .ok record ↔
      record = members ∧ Json.HasTexts recordType members ∧
        ∀ field ∈ recordType.fields, field.required → field.key ∈ members.map Prod.fst :=
    Json.toRecord_eq_ok_iff rfl (by decide)
  simp only [hread, exists_eq_left]
  constructor
  · rintro ⟨htexts, hrequired⟩ key hkey
    obtain ⟨field, hfield, rfl⟩ := List.mem_map.1 hkey
    obtain ⟨member, hmember, hname⟩ := List.mem_map.1 (hrequired field hfield
      ((by decide : ∀ field ∈ recordType.fields, field.required = true) field hfield))
    obtain ⟨text, htext⟩ := htexts member hmember (hname ▸ hkey)
    exact ⟨text, by rw [Json.get?, ← hname, Json.find?_of_mem _ hkeys hmember, htext]⟩
  · intro htexts
    refine ⟨fun member hmember hkey => ?_, fun field hfield _ => ?_⟩
    · obtain ⟨text, htext⟩ := htexts member.1 hkey
      rw [Json.get?, Json.find?_of_mem _ hkeys hmember] at htext
      exact ⟨text, Option.some.inj htext⟩
    · obtain ⟨text, htext⟩ := htexts field.key (List.mem_map_of_mem hfield)
      exact List.mem_map_of_mem (Json.mem_of_find?_eq_some _ _ _ htext)

/-- The other members of a record stay with the site. -/
theorem get?_extra_ofMembers (hkeys : (members.map Prod.fst).Nodup) :
    (Json.ofMembers (ofMembers members).extra).get? key =
      if key ∈ recordType.keys then none else Json.find? key members := by
  have hsorted : ((ofMembers members).extra.map Prod.fst).Pairwise (· < ·) :=
    Json.pairwise_foldl_insertMember _ _ .nil
  have hnodup : ((ofMembers members).extra.map Prod.fst).Nodup := hsorted.imp ne_of_lt
  have hfiltered : ((members.filter fun member => !recordType.keys.contains member.1).map
      Prod.fst).Nodup := (List.filter_sublist.map Prod.fst).nodup hkeys
  rw [Json.get?_ofMembers_of_nodup _ _ hnodup, ofMembers, Json.find?_foldl_insertMember, Json.find?,
    Option.or_none, Json.find?_reverse _ _ hfiltered,
    Json.find?_filter key members fun key => !recordType.keys.contains key]
  simp

/-- **The record of a site has the members that it was read from.** -/
theorem get?_toJson_ofMembers (hkeys : (members.map Prod.fst).Nodup)
    (hread : (Json.object members).toRecord recordType = .ok record) :
    (ofMembers record).toJson.get? key = (Json.object members).get? key := by
  obtain rfl : record = members := ((Json.toRecord_eq_ok_iff rfl (by decide)).1 hread).1
  by_cases hkey : key ∈ recordType.keys
  · obtain ⟨text, htext⟩ := (exists_toRecord_eq_ok_iff hkeys).1 ⟨_, hread⟩ key hkey
    have hmember : (key, Json.string (record.text key)) ∈ (ofMembers record).textMembers :=
      List.mem_map_of_mem (f := fun key => (key, Json.string (record.text key))) hkey
    have hfind : Json.find? key record = some (.string text) := htext
    rw [get?_toJson_of_mem (hasOwnKeys_ofMembers record) hmember, htext, Members.text, hfind]
  · change (Json.ofMembers
      ((ofMembers record).textMembers ++ (ofMembers record).extra)).get? key = _
    rw [Json.get?_ofMembers_append, get?_extra_ofMembers hkeys, if_neg hkey,
      (Json.get?_ofMembers_eq_none_iff _ (ofMembers record).textMembers).2 hkey, Option.or_none]
    rfl

end Site

/-- Values with the same members have the same values at all paths. -/
theorem Json.atPath?_congr {value other : Json} (h : ∀ key, value.get? key = other.get? key)
    (path : Text) : value.atPath? path = other.atPath? path := by
  obtain ⟨piece, pieces, hpath⟩ := List.exists_cons_of_ne_nil (Text.splitOn_ne_nil '.' path)
  rw [atPath?, atPath?, hpath, List.map_cons, lookup?, lookup?, h]

namespace PageContext

variable {members : Members}

/-- **Every page finds the record of the site as it was written.** An object is the record of a site
exactly if it has the five texts. Whatever other members it has, and whatever their keys are: in the
context of every page, for any posts and settings, each path behind `site` has the value that the
path has in the object, or none if it has none there. -/
theorem atPath?_site (hkeys : (members.map Prod.fst).Nodup) :
    ((∃ record, (Json.object members).toRecord Site.recordType = .ok record) ↔
      ∀ key ∈ ["name", "title", "description", "url", "author"],
        ∃ text, (Json.object members).get? key = some (.string text)) ∧
    ∀ record, (Json.object members).toRecord Site.recordType = .ok record →
      ∀ (path : String) (posts : List Post) (settings : Settings) (dotted : Text),
        (ofPath path (Site.ofMembers record) posts settings).toJson.atPath?
            ("site.".toList ++ dotted) =
          (Json.object members).atPath? dotted := by
  refine ⟨Site.exists_toRecord_eq_ok_iff hkeys, fun record hread path posts settings dotted => ?_⟩
  have hsite : (ofPath path (Site.ofMembers record) posts settings).toJson.get? "site" =
      some (Site.ofMembers record).toJson :=
    get?_toJson _ _
  have hpath := Json.atPath?_append_dot
    (ofPath path (Site.ofMembers record) posts settings).toJson
    (by decide : '.' ∉ "site".toList) dotted
  rw [hsite, Option.bind_some] at hpath
  exact hpath.trans (Json.atPath?_congr (fun key => Site.get?_toJson_ofMembers hkeys hread) dotted)

/-- The members of the record of a site, with keys that are empty, have a dot, or are those of
members of a context. -/
def crowdedRecord : Members :=
  [("", .null), ("author", .string "A"), ("basePath", .string "up"), ("description", .string "D"),
    ("name", .string "N"), ("site", .object [("name", .bool true), ("x", .array [.null])]),
    ("site.name", .string "dotted"), ("title", .string "T"), ("url", .string "https://n.example")]

theorem atPath?_site_crowdedRecord :
    (crowdedRecord.map Prod.fst).Nodup ∧
      (Json.object crowdedRecord).toRecord Site.recordType = .ok crowdedRecord ∧
      ∀ dotted,
        (ofPath "blog/a.html" (Site.ofMembers crowdedRecord) [] {}).toJson.atPath?
          ("site.".toList ++ dotted) = (Json.object crowdedRecord).atPath? dotted := by
  have hkeys : (crowdedRecord.map Prod.fst).Nodup := by decide
  have hread : (Json.object crowdedRecord).toRecord Site.recordType = .ok crowdedRecord := rfl
  exact ⟨hkeys, hread, (atPath?_site hkeys).2 _ hread _ _ _⟩

end PageContext

end SiteWeave
