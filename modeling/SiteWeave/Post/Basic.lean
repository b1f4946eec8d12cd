import SiteWeave.Record.Basic
import SiteWeave.Calendar.Reading

/-!
# Posts

## Main definitions

* `Post`: the record of a blog post.
* `Post.recordType`, `Post.ofMembers`: how a post is written as data.
* `Post.day?`, `Post.displayDate`: the date of a post, and how it is shown.
-/

namespace SiteWeave

/-- The record of a blog post. -/
structure Post where
  slug : String
  title : String
  date : String
  /-- The date as it should be shown, if the data says so. -/
  dateFormatted : Option String := none
  category : String := ""
  categoryLabel : String := ""
  excerpt : String := ""
  description : String := ""
  image : String
  imageAlt : String := ""
  featured : Bool := false
  shareHook : Option String := none
deriving DecidableEq, Repr

namespace Post

/-- How a post is written as data. -/
def recordType : RecordType where
  name := "Post"
  fields :=
    [⟨"slug", .text, true⟩, ⟨"title", .text, true⟩, ⟨"date", .text, true⟩,
      ⟨"dateFormatted", .textOrNull, false⟩, ⟨"category", .text, false⟩,
      ⟨"categoryLabel", .text, false⟩, ⟨"excerpt", .text, false⟩,
      ⟨"description", .text, false⟩, ⟨"image", .text, true⟩, ⟨"imageAlt", .text, false⟩,
      ⟨"featured", .flag, false⟩, ⟨"shareHook", .textOrNull, false⟩]
  others := .ignored
  asList := true

/-- The post with the members of its record. -/
def ofMembers (members : Members) : Post where
  slug := members.text "slug"
  title := members.text "title"
  date := members.text "date"
  dateFormatted := members.textOrNull? "dateFormatted"
  category := members.text "category"
  categoryLabel := members.text "categoryLabel"
  excerpt := members.text "excerpt"
  description := members.text "description"
  image := members.text "image"
  imageAlt := members.text "imageAlt"
  featured := members.flag "featured"
  shareHook := members.textOrNull? "shareHook"

/-- The date of a post, if its text is a date. -/
def day? (post : Post) : Option Date :=
  Date.ofText? post.date.toList

/-- The date of a post as it is shown: as the data says, else in words, else as it is written. -/
def displayDate (post : Post) : String :=
  match post.dateFormatted, post.day? with
  | some formatted, _ => formatted
  | none, some day => day.long
  | none, none => post.date

end Post

end SiteWeave
