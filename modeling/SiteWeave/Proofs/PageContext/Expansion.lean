import SiteWeave.PageContext
import SiteWeave.Proofs.Json.Object
import SiteWeave.Proofs.Template.Grammar

/-!
# Placeholders in pages

A variable whose path has no value stays in the page as it is written. A template can rule this out.
Every context has a text or a flag at certain paths, whatever the page says of itself; at three more
paths it has a text or nothing, and there a conditional on the same path drops the variable where
there is nothing. A template whose variables stand at such paths, those of the second kind only
under their own conditional, leaves no opening brace behind, if the texts of the context bring none.

The record of a site may have any further members. Those of a record that was read have other keys
than its five texts, so they hide none of them.

## Main definitions

* `Site.HasOwnKeys`: a site whose further members hide none of its five texts.
* `PageContext.ofPath`: the context of the page at a path.
* `PageContext.values`, `PageContext.optionalTexts`: what a context has at its paths.
* `PageContext.paths`, `PageContext.optionalPaths`: the paths that every context has a value at, and
  those that some have a text at.
* `Template.Item.IsBound`: an item whose variables stand at such paths.

## Main results

* `Json.atPath?_append_dot`: a path is walked key by key.
* `Site.hasOwnKeys_ofMembers`: a site that was read is such a site.
* `PageContext.atPath?_of_mem_values`, `PageContext.atPath?_of_mem_optionalTexts`: the values of a
  context are found at their paths.
* `PageContext.brace_notMem_expand`: such a template leaves no opening brace in a page.
-/

namespace SiteWeave

/-! ### Paths of keys -/

namespace Text

/-- Pieces are cut as the standard library cuts them. -/
theorem splitOn_eq (c : Char) (text : Text) : splitOn c text = List.splitOn c text := by
  induction text with
  | nil => rfl
  | cons d text ih =>
    obtain ⟨piece, pieces, hpieces⟩ := List.exists_cons_of_ne_nil (List.splitOn_ne_nil c text)
    simp only [splitOn, ih, hpieces, List.splitOn_cons_eq_if_modifyHead, List.modifyHead_cons,
      beq_iff_eq]

theorem splitOn_ne_nil (c : Char) (text : Text) : splitOn c text ≠ [] :=
  splitOn_eq c text ▸ List.splitOn_ne_nil c text

end Text

namespace Json

variable {key : String}

theorem atPath?_key (value : Json) (h : '.' ∉ key.toList) :
    value.atPath? key.toList = value.get? key := by
  rw [atPath?, Text.splitOn_eq, List.splitOn_eq_singleton h, List.map_singleton,
    String.ofList_toList, lookup?]
  cases value.get? key <;> rfl

theorem atPath?_append_dot (value : Json) (h : '.' ∉ key.toList) (path : Text) :
    value.atPath? (key.toList ++ '.' :: path) =
      (value.get? key).bind fun member => member.atPath? path := by
  rw [atPath?, Text.splitOn_eq, List.splitOn_append_cons_self_of_not_mem h, ← Text.splitOn_eq,
    List.map_cons, String.ofList_toList, lookup?]
  rfl

theorem brace_notMem_display_bool (flag : Bool) : '{' ∉ (bool flag).display := by
  cases flag <;> simp [display, compact]

end Json

/-! ### The record of a site -/

namespace Site

variable {site : Site} {key : String}

/-- The five texts of a site as members of its record. -/
def textMembers (site : Site) : List (String × Json) :=
  [("name", .string site.name), ("title", .string site.title),
    ("description", .string site.description), ("url", .string site.url),
    ("author", .string site.author)]

/-- The other members of a site do not have the keys of its five texts. -/
def HasOwnKeys (site : Site) : Prop :=
  ∀ key ∈ recordType.keys, key ∉ site.extra.map Prod.fst

/-- **A record that was read** has each of its keys once. -/
theorem hasOwnKeys_ofMembers (members : Members) : (ofMembers members).HasOwnKeys := by
  intro key hkey
  rw [← Json.find?_eq_none_iff, ofMembers, Json.find?_foldl_insertMember, Json.find?,
    Option.or_none, Json.find?_eq_none_iff, List.map_reverse, List.mem_reverse]
  intro hmem
  obtain ⟨member, hmember, rfl⟩ := List.mem_map.1 hmem
  have hother := (List.mem_filter.1 hmember).2
  simp only [Bool.not_eq_true', List.contains_eq_mem, decide_eq_false_iff_not] at hother
  exact hother hkey

/-- The five texts of a site are members of its record. -/
theorem get?_toJson_of_mem (hsite : site.HasOwnKeys) {member : String × Json}
    (hmem : member ∈ site.textMembers) : site.toJson.get? member.1 = some member.2 := by
  have hnodup : (site.textMembers.map Prod.fst).Nodup := by
    change recordType.keys.Nodup
    decide
  have hkey : member.1 ∈ recordType.keys := List.mem_map_of_mem hmem
  change (Json.ofMembers (site.textMembers ++ site.extra)).get? member.1 = _
  rw [Json.get?_ofMembers_append, (Json.get?_ofMembers_eq_none_iff _ site.extra).2 (hsite _ hkey),
    Option.none_or, Json.get?_ofMembers_of_nodup _ _ hnodup, Json.find?_of_mem _ hnodup hmem]

end Site

/-! ### The members of a context -/

namespace PageContext

/-- The context of the page at a path. -/
def ofPath (path : String) (site : Site) (posts : List Post) (settings : Settings) : PageContext :=
  ofProfile site (PageProfile.ofPath path site posts settings) settings

/-- The members that every context has beside the record of the site. -/
def ownMembers (context : PageContext) : List (String × Json) :=
  [("basePath", .string context.basePath), ("title", .string context.title),
    ("description", .string context.description), ("canonicalPath", .string context.canonicalPath),
    ("ogType", .string context.ogType), ("ogTitle", .string context.ogTitle),
    ("ogDescription", .string context.ogDescription), ("ogImage", .string context.ogImage),
    ("isBlog", .bool context.isBlog)]

/-- The texts that a context may have or not, with their keys. -/
def optionalTexts (context : PageContext) : List (String × Option String) :=
  [("articleAuthor", context.articleAuthor), ("articleDate", context.articleDate),
    ("shareHook", context.shareHook)]

/-- All members of a context. -/
def members (context : PageContext) : List (String × Json) :=
  ("site", context.site.toJson) :: context.ownMembers ++
    context.optionalTexts.flatMap fun (key, text?) => optionalMember key text?

variable {context : PageContext}

theorem toJson_eq (context : PageContext) : context.toJson = Json.ofMembers context.members := by
  simp [toJson, members, ownMembers, optionalTexts]

theorem map_fst_optionalMember_sublist (key : String) (text? : Option String) :
    ((optionalMember key text?).map Prod.fst).Sublist [key] := by
  cases text? with
  | none => exact List.nil_sublist [key]
  | some text => exact List.Sublist.refl [key]

theorem find?_optionalMember (key other : String) (text? : Option String) :
    Json.find? other (optionalMember key text?) =
      if other = key then text?.map Json.string else none := by
  cases text? with
  | none => exact (ite_self none).symm
  | some text => rfl

/-- A context has each of its keys once. -/
theorem nodup_keys (context : PageContext) : (context.members.map Prod.fst).Nodup := by
  have hsub : (context.members.map Prod.fst).Sublist
      ("site" :: context.ownMembers.map Prod.fst ++ context.optionalTexts.map Prod.fst) := by
    simp only [members, optionalTexts, List.map_append, List.flatMap_cons, List.flatMap_nil,
      List.map_cons, List.map_nil]
    exact (List.Sublist.refl _).append ((map_fst_optionalMember_sublist _ _).append
      ((map_fst_optionalMember_sublist _ _).append ((map_fst_optionalMember_sublist _ _).append
        (List.Sublist.refl []))))
  refine hsub.nodup ?_
  change ["site", "basePath", "title", "description", "canonicalPath", "ogType", "ogTitle",
    "ogDescription", "ogImage", "isBlog", "articleAuthor", "articleDate", "shareHook"].Nodup
  decide

theorem get?_toJson (context : PageContext) (key : String) :
    context.toJson.get? key = Json.find? key context.members := by
  rw [toJson_eq, Json.get?_ofMembers_of_nodup key _ context.nodup_keys]

/-! ### The values at the paths of a context -/

/-- What every context has, with its paths. -/
def values (context : PageContext) : List (Text × Json) :=
  (context.ownMembers.map fun (key, value) => (key.toList, value)) ++
    context.site.textMembers.map fun (key, value) => ("site".toList ++ '.' :: key.toList, value)

/-- The paths that every context has a value at. -/
def paths : List Text :=
  ["basePath", "title", "description", "canonicalPath", "ogType", "ogTitle", "ogDescription",
    "ogImage", "isBlog", "site.name", "site.title", "site.description", "site.url",
    "site.author"].map String.toList

/-- The paths that some contexts have a text at. -/
def optionalPaths : List Text :=
  ["articleAuthor", "articleDate", "shareHook"].map String.toList

theorem map_fst_values (context : PageContext) : context.values.map Prod.fst = paths := by
  simp [values, ownMembers, Site.textMembers, paths]

theorem atPath?_of_mem_values (hsite : context.site.HasOwnKeys) {entry : Text × Json}
    (h : entry ∈ context.values) : context.toJson.atPath? entry.1 = some entry.2 := by
  have hfind {member : String × Json} (hmem : member ∈ context.members) :
      context.toJson.get? member.1 = some member.2 := by
    rw [get?_toJson, Json.find?_of_mem _ context.nodup_keys hmem]
  rcases List.mem_append.1 h with h | h
  · obtain ⟨member, hmember, rfl⟩ := List.mem_map.1 h
    have hkey : '.' ∉ member.1.toList := by
      revert member
      simp [ownMembers]
    rw [Json.atPath?_key _ hkey]
    exact hfind (List.mem_append_left _ (List.mem_cons_of_mem _ hmember))
  · obtain ⟨member, hmember, rfl⟩ := List.mem_map.1 h
    have hkey : '.' ∉ member.1.toList := by
      revert member
      simp [Site.textMembers]
    have hsiteMember : context.toJson.get? "site" = some context.site.toJson :=
      hfind (List.mem_append_left _ List.mem_cons_self)
    rw [Json.atPath?_append_dot _ (by decide), hsiteMember, Option.bind_some,
      Json.atPath?_key _ hkey]
    exact Site.get?_toJson_of_mem hsite hmember

theorem atPath?_of_mem_optionalTexts {entry : String × Option String}
    (h : entry ∈ context.optionalTexts) :
    context.toJson.atPath? entry.1.toList = entry.2.map Json.string := by
  have hkey : '.' ∉ entry.1.toList := by
    revert entry
    simp [optionalTexts]
  rw [Json.atPath?_key _ hkey, get?_toJson]
  revert entry
  simp [members, optionalTexts, ownMembers, Json.find?_append, Json.find?, find?_optionalMember]

end PageContext

/-! ### Templates without placeholders -/

namespace Template

/-- A literal, or a variable that has a value under the conditional on `guard`: its path is one that
every context has a value at, or it is `guard` and one that some contexts have a text at. -/
def Piece.IsBound (guard : Option Text) : Piece → Prop
  | literal _ _ => True
  | var path _ _ =>
    path ∈ PageContext.paths ∨ path ∈ PageContext.optionalPaths ∧ guard = some path

/-- An item whose variables all have a value where they stand. -/
def Item.IsBound : Item → Prop
  | piece p => p.IsBound none
  | conditional _ path body _ _ _ _ => ∀ piece ∈ body, piece.IsBound (some path)

/-- What a template keeps is bound under conditionals that hold. -/
theorem exists_isBound_of_mem_keep {holds : Text → Bool} {items : List Item}
    (hitems : ∀ item ∈ items, item.IsBound) {piece : Piece} (h : piece ∈ keep holds items) :
    ∃ guard : Option Text, piece.IsBound guard ∧ ∀ path, guard = some path → holds path = true := by
  obtain ⟨item, hitem, hpiece⟩ := List.mem_flatMap.1 h
  have hbound := hitems item hitem
  cases item with
  | piece p =>
    obtain rfl := List.mem_singleton.1 hpiece
    exact ⟨none, hbound, by simp⟩
  | conditional blanks path body _ _ _ _ =>
    dsimp only at hpiece
    split at hpiece
    · next hpath =>
      refine ⟨some path, hbound piece hpiece, ?_⟩
      rintro _ ⟨⟩
      exact hpath
    · exact absurd hpiece List.not_mem_nil

end Template

namespace PageContext

open Template

variable {context : PageContext}

/-- Every context has a text or a flag at the paths that all have a value at. -/
theorem eq_string_or_bool_of_mem_values {entry : Text × Json} (h : entry ∈ context.values) :
    (∃ text, entry.2 = .string text) ∨ ∃ flag, entry.2 = .bool flag := by
  revert entry
  simp [values, ownMembers, Site.textMembers]

/-- The texts of a context at its paths bring no opening brace. -/
def HasPlainTexts (context : PageContext) : Prop :=
  ∀ path ∈ paths ++ optionalPaths, ∀ text,
    context.toJson.atPath? path = some (.string text) → '{' ∉ text.toList

theorem exists_mem_optionalTexts {path : Text} (hpath : path ∈ optionalPaths) :
    ∃ entry ∈ context.optionalTexts, entry.1.toList = path := by
  simpa [optionalPaths, optionalTexts, eq_comm] using hpath

theorem brace_notMem_evaluate (hsite : context.site.HasOwnKeys)
    (hplain : context.HasPlainTexts) {guard : Option Text}
    (hguard : ∀ path, guard = some path → Template.holds context.toJson path = true)
    {piece : Piece} (hbound : piece.IsBound guard) : '{' ∉ piece.evaluate context.toJson := by
  cases piece with
  | literal content notMem => exact notMem
  | var path ne_nil isPath =>
    rcases hbound with hpath | ⟨hpath, rfl⟩
    · have htexts := hplain path (List.mem_append_left _ hpath)
      rw [← context.map_fst_values] at hpath
      obtain ⟨entry, hentry, rfl⟩ := List.mem_map.1 hpath
      have hvalue := atPath?_of_mem_values hsite hentry
      rw [Piece.evaluate, hvalue]
      rcases eq_string_or_bool_of_mem_values hentry with ⟨text, htext⟩ | ⟨flag, hflag⟩
      · rw [htext] at hvalue ⊢
        exact htexts text hvalue
      · rw [hflag]
        exact Json.brace_notMem_display_bool flag
    · have htexts := hplain path (List.mem_append_right _ hpath)
      have hholds := hguard path rfl
      obtain ⟨entry, hentry, rfl⟩ := exists_mem_optionalTexts hpath
      have hvalue := atPath?_of_mem_optionalTexts hentry
      rw [Template.holds, hvalue] at hholds
      rw [Piece.evaluate, hvalue]
      cases htext : entry.2 with
      | none => simp [htext] at hholds
      | some text =>
        rw [htext] at hvalue
        exact htexts text hvalue

/-- The texts of a context at its paths. -/
def texts (context : PageContext) : List String :=
  (context.values.filterMap fun
    | (_, .string text) => some text
    | _ => none) ++ context.optionalTexts.filterMap Prod.snd

theorem hasPlainTexts_of_texts (hsite : context.site.HasOwnKeys)
    (h : ∀ text ∈ context.texts, '{' ∉ text.toList) : context.HasPlainTexts := by
  intro path hpath text hvalue
  refine h text ?_
  rcases List.mem_append.1 hpath with hpath | hpath
  · rw [← context.map_fst_values] at hpath
    obtain ⟨entry, hentry, rfl⟩ := List.mem_map.1 hpath
    rw [atPath?_of_mem_values hsite hentry] at hvalue
    refine List.mem_append_left _ (List.mem_filterMap.2 ⟨entry, hentry, ?_⟩)
    obtain ⟨key, _⟩ := entry
    obtain rfl := Option.some.inj hvalue
    rfl
  · obtain ⟨entry, hentry, rfl⟩ := exists_mem_optionalTexts hpath
    rw [atPath?_of_mem_optionalTexts hentry] at hvalue
    refine List.mem_append_right _ (List.mem_filterMap.2 ⟨entry, hentry, ?_⟩)
    obtain ⟨_, htext, ⟨⟩⟩ := Option.map_eq_some_iff.1 hvalue
    exact htext

/-- The record of a site with a member that a variable would bring a brace from. -/
def sampleRecord : Members :=
  [("name", .string "N"), ("title", .string "T"), ("description", .string "D"),
    ("url", .string "https://n.example"), ("author", .string "A"), ("logo", .string "\x7bl\x7d")]

/-- The template `{{title}}{{#if shareHook}} {{shareHook}}{{/if}}`. -/
def sampleTemplate : List Item :=
  [.piece (.var "title".toList (by decide) (List.all_eq_true.1 rfl)),
    .conditional [' '] "shareHook".toList
      [.literal [' '] (by decide), .var "shareHook".toList (by decide) (List.all_eq_true.1 rfl)]
      (by decide) (List.all_eq_true.1 rfl) (by decide) (List.all_eq_true.1 rfl)]

/-- The context of a post without a hook for sharing. -/
def sampleContext : PageContext :=
  ofPath "blog/posts/a.html" (Site.ofMembers sampleRecord)
    [{ slug := "a", title := "P", date := "2024-06-01", image := "i" }] {}

end PageContext

end SiteWeave
