import SiteWeave.Text.Blank
import SiteWeave.Page.Weave
import SiteWeave.BlogIndex.Basic

/-!
# Splicing the index into its page

Two stretches of the index page belong to the generated markup. The featured block goes from its
comment to the next end of an article and a division; the interior of the grid goes from the start
tag of its container to the next end of a division in front of the empty state. Only the first of
each is replaced. Both are recognised by the markup that is generated, so a second run finds them
again.

## Main definitions

* `Text.splitClosing?`: the first place where one tag, blanks and another text follow each other.
* `BlogIndex.spliceFeatured`, `BlogIndex.spliceGrid`: the two replacements.
* `BlogIndex.splice`: both, with their outcomes.
-/

namespace SiteWeave

namespace Text

/-- The length and the rest of a tag, blanks and a further text at the front of a text. -/
def closing? (tag ending text : Text) : Option (Text × Text) :=
  match tag.isPrefixOf? text with
  | none => none
  | some rest =>
    match ending.isPrefixOf? (rest.dropWhile isBlank) with
    | none => none
    | some after => some (tag ++ rest.takeWhile isBlank ++ ending, after)

/-- The text in front of the first closing sequence, the sequence, and the text behind it. -/
def splitClosing? (tag ending : Text) : Text → Option (Text × Text × Text)
  | [] => none
  | c :: rest =>
    match closing? tag ending (c :: rest) with
    | some (sequence, after) => some ([], sequence, after)
    | none =>
      (splitClosing? tag ending rest).map fun (before, sequence, after) =>
        (c :: before, sequence, after)

end Text

namespace BlogIndex

/-- The comment in front of the featured block. -/
def featuredComment : Text := "<!-- Featured Post -->".toList

/-- The start of the container of the cards. -/
def gridOpen : Text := "<div id=\"posts-grid\"".toList

/-- The comment behind the container of the cards, without its end. -/
def emptyStateComment : Text := "<!-- Empty State".toList

/-- The end of an article. -/
def articleClose : Text := "</article>".toList

/-- The end of a division. -/
def divisionClose : Text := "</div>".toList

/-- Replace the featured block. -/
def spliceFeatured (html content : Text) : Option Text := do
  let (before, rest) ← Text.splitFirst? featuredComment content
  let (_, _, after) ← Text.splitClosing? articleClose divisionClose rest
  return before ++ html ++ after

/-- Replace the interior of the grid. -/
def spliceGrid (cards content : Text) : Option Text := do
  let (before, rest) ← Text.splitFirst? gridOpen content
  let (attributes, rest) ← Text.splitFirst? ['>'] rest
  let (_, sequence, after) ← Text.splitClosing? divisionClose emptyStateComment rest
  return before ++ gridOpen ++ attributes ++ ['>', '\n'] ++ cards ++ "\n      ".toList ++
    sequence ++ after

/-- The outcome and the text of a replacement; without its markup the text stays. -/
def outcomeOf (content : Text) : Option Text → Text × Outcome
  | some replaced => (replaced, .applied)
  | none => (content, .skipped .markersAbsent)

/-- What the two replacements did. -/
structure SpliceReport where
  featured : Outcome
  grid : Outcome
deriving DecidableEq, Repr

/-- The outcomes in one line. -/
def SpliceReport.describe (report : SpliceReport) : String :=
  "featured post: " ++ report.featured.describe ++ ", posts grid: " ++ report.grid.describe

/-- The page with the index in it: first the featured block, then the grid. -/
def splice (index : BlogIndex) (content : Text) : Text × SpliceReport :=
  let (content, featured) := outcomeOf content (spliceFeatured index.featuredHtml.toList content)
  let (content, grid) := outcomeOf content (spliceGrid index.cardsHtml.toList content)
  (content, ⟨featured, grid⟩)

end BlogIndex

end SiteWeave
