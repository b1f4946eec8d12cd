import SiteWeave.Record.Basic

/-!
# Build settings

## Main definitions

* `Settings`: the settings of a build, with their defaults.
* `Settings.recordType`, `Settings.ofMembers`: how settings are written as data.
-/

namespace SiteWeave

/-- The settings of a build. -/
structure Settings where
  /-- The description of the pages of the blog's hub. -/
  blogDescription : String :=
    "Insights on leadership, technology, AI automation, fitness, and building sustainable habits."
  /-- The image of social cards, relative to the address of the site. -/
  ogImage : String := "headshot.png"
  /-- The patterns of the pages that are left alone. -/
  exclude : List String := []
deriving DecidableEq, Repr

namespace Settings

/-- How settings are written as data. -/
def recordType : RecordType where
  name := "Config"
  fields :=
    [⟨"blog_description", .text, false⟩, ⟨"og_image", .text, false⟩,
      ⟨"exclude", .textList, false⟩]
  others := .refused
  asList := true

/-- The settings with the members of their record; what is left out has its default. -/
def ofMembers (members : Members) : Settings :=
  let standard : Settings := {}
  { blogDescription := (members.textOrNull? "blog_description").getD standard.blogDescription
    ogImage := (members.textOrNull? "og_image").getD standard.ogImage
    exclude := (members.texts? "exclude").getD standard.exclude }

end Settings

end SiteWeave
