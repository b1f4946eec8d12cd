import SiteWeave.Record.Basic

/-!
# Site records

The record of a site has five texts that every page uses, and any other members, which are kept for
the templates.

## Main definitions

* `Site`: the record of a site.
* `Site.recordType`, `Site.ofMembers`: how a site is written as data.
* `Site.members`, `Site.toJson`: the record as a JSON object.
-/

namespace SiteWeave

/-- The record of a site. -/
structure Site where
  name : String
  title : String
  description : String
  /-- The address of the site, without a slash at its end. -/
  url : String
  author : String
  /-- The other members, in increasing order of their keys. -/
  extra : List (String × Json) := []

namespace Site

/-- How a site is written as data. -/
def recordType : RecordType where
  name := "Site"
  fields :=
    [⟨"name", .text, true⟩, ⟨"title", .text, true⟩, ⟨"description", .text, true⟩,
      ⟨"url", .text, true⟩, ⟨"author", .text, true⟩]
  others := .kept
  asList := false

/-- The site with the members of its record; of other members with one key the last one stays. -/
def ofMembers (members : Members) : Site where
  name := members.text "name"
  title := members.text "title"
  description := members.text "description"
  url := members.text "url"
  author := members.text "author"
  extra := (members.filter fun (key, _) => !recordType.keys.contains key).foldl
    (fun sorted (key, value) => Json.insertMember key value sorted) []

/-- All members, the five texts first. -/
def members (site : Site) : List (String × Json) :=
  ("name", .string site.name) :: ("title", .string site.title) ::
    ("description", .string site.description) :: ("url", .string site.url) ::
    ("author", .string site.author) :: site.extra

/-- The record as a JSON object. -/
def toJson (site : Site) : Json :=
  Json.ofMembers site.members

end Site

end SiteWeave
