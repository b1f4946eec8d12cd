import SiteWeave.Post.Basic

/-!
# Palettes

The badge of a post has the colours of its category.

## Main definitions

* `Palette`: the colour tokens of a badge.
* `Palette.ofCategory?`, `Post.palette`: the palette of a category and of a post.
-/

namespace SiteWeave

/-- The colour tokens of a badge. -/
structure Palette where
  bg : String
  textLight : String
  textDark : String
  text : String
  textDarkMode : String
deriving DecidableEq, Repr

namespace Palette

/-- The palette of one colour. -/
def ofColour (colour : String) : Palette where
  bg := colour
  textLight := colour ++ "-100"
  textDark := colour ++ "-500/20"
  text := colour ++ "-700"
  textDarkMode := colour ++ "-400"

/-- The palette of posts without a category of their own. -/
def standard : Palette := ofColour "gold"

/-- The palette of book reviews. -/
def review : Palette := ofColour "purple"

/-- The palette of a category. -/
def ofCategory? : String → Option Palette
  | "business" => some (ofColour "gold")
  | "tech" => some (ofColour "blue")
  | "fitness" => some (ofColour "green")
  | "habits" => some (ofColour "green")
  | _ => none

end Palette

/-- The label of book reviews, which have one palette in all categories. -/
def reviewLabel : String := "Book Review"

/-- The palette of a post. -/
def Post.palette (post : Post) : Palette :=
  if post.categoryLabel = reviewLabel then Palette.review
  else (Palette.ofCategory? post.category).getD Palette.standard

end SiteWeave
