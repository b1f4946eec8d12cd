import SiteWeave.Text.Utf8

/-!
# HTML files

Pages and fragments are the files with the extension of HTML. A name that is the extension alone has
none.

## Main definitions

* `htmlStem?`: the name of an HTML file without its extension.
* `isHtml`: whether a name is that of an HTML file.
-/

namespace SiteWeave

/-- The bytes of the extension with its dot. -/
def htmlExtension : Bytes := Bytes.ofString ".html"

/-- The name of an HTML file without its extension. -/
def htmlStem? (name : Bytes) : Option Bytes :=
  match htmlExtension.reverse.isPrefixOf? name.reverse with
  | some (b :: rest) => some (b :: rest).reverse
  | _ => none

/-- Whether a name is that of an HTML file. -/
def isHtml (name : Bytes) : Bool :=
  (htmlStem? name).isSome

end SiteWeave
