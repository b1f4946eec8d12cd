import SiteWeave.Text.Search
import SiteWeave.Text.Digit

/-!
# Sizes in the address of an image

The address of an image may ask for a width and a height, as in `photo?w=600&h=400`. A size is
requested by replacing the digits of the first such token; an address without the token stays.

## Main definitions

* `ImageSize.setFirst`: the address with the digits of the first token of a letter replaced.
* `ImageSize.card`, `ImageSize.featured`: the sizes for social cards and for the featured post.
-/

namespace SiteWeave.ImageSize

/-- What follows a token, a letter with an equals sign and digits, at the front of a text. -/
def afterToken? (letter : Char) : Text → Option Text
  | c :: '=' :: d :: rest =>
    if c = letter && isDecimalDigit d then some (rest.dropWhile isDecimalDigit) else none
  | _ => none

/-- The text with the digits of the first token of a letter replaced. -/
def setFirst (letter : Char) (digits : Text) : Text → Text
  | [] => []
  | c :: rest =>
    match afterToken? letter (c :: rest) with
    | some after => letter :: '=' :: digits ++ after
    | none => c :: setFirst letter digits rest

/-- The address of an image with the first width replaced. -/
def setWidth (width : Nat) (image : String) : String :=
  String.ofList (setFirst 'w' (Nat.toDigits 10 width) image.toList)

/-- The address of an image with the first height replaced. -/
def setHeight (height : Nat) (image : String) : String :=
  String.ofList (setFirst 'h' (Nat.toDigits 10 height) image.toList)

/-- The address of an image for a social card. -/
def card (image : String) : String :=
  setHeight 630 (setWidth 1200 image)

/-- The address of an image for the featured post. -/
def featured (image : String) : String :=
  setWidth 800 image

end SiteWeave.ImageSize
