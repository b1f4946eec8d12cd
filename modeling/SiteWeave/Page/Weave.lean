import SiteWeave.Text.Blank
import SiteWeave.Page.Place

/-!
# Weaving fragments into a page

Four steps bring the shared fragments into a page, each with an outcome: the navigation fills its
regions; the footer links become a line in front of the first closing footer tag, once; the cookie
banner and the shared scripts fill their regions, or are inserted as new regions in front of a
closing body tag, so that the next run finds them.

## Main definitions

* `SkipReason`, `Outcome`, `WeaveReport`: what the steps did.
* `PageFragments`: the expanded fragments of a page.
* `Page.weaveNav`, `Page.weaveFooterLinks`, `Page.weaveCookieConsent`, `Page.weaveScripts`: the
  steps.
* `weave`: all steps in order, from text to text.
-/

namespace SiteWeave

/-- Why a step left the page alone. -/
inductive SkipReason where
  /-- The page has no region of the step. -/
  | markersAbsent
  /-- The page has the element that the step would insert. -/
  | alreadyPatched
  /-- The page has no tag to insert in front of. -/
  | anchorMissing
  /-- The fragment is blank. -/
  | emptyFragment
deriving DecidableEq, Repr

/-- What a step did. -/
inductive Outcome where
  | applied
  | skipped (reason : SkipReason)
deriving DecidableEq, Repr

/-- The words for a reason. -/
def SkipReason.describe : SkipReason → String
  | markersAbsent => "markers absent"
  | alreadyPatched => "already patched"
  | anchorMissing => "anchor missing"
  | emptyFragment => "empty fragment"

/-- The words for an outcome. -/
def Outcome.describe : Outcome → String
  | applied => "applied"
  | skipped reason => "skipped (" ++ reason.describe ++ ")"

/-- The outcomes of the four steps. -/
structure WeaveReport where
  nav : Outcome
  footerLinks : Outcome
  cookieConsent : Outcome
  sharedScripts : Outcome
deriving DecidableEq, Repr

/-- The outcomes in one line. -/
def WeaveReport.describe (report : WeaveReport) : String :=
  "nav: " ++ report.nav.describe ++
    ", footer links: " ++ report.footerLinks.describe ++
    ", cookie consent: " ++ report.cookieConsent.describe ++
    ", shared scripts: " ++ report.sharedScripts.describe

/-- The expanded fragments of a page. -/
structure PageFragments where
  nav : Text := []
  footerLinks : Text := []
  cookieConsent : Text := []
  scripts : Text := []
deriving DecidableEq, Repr

/-- The attribute of the element that the footer links bring. -/
def footerLinksId : Text := "id=\"cookie-settings-btn\"".toList

/-- The attribute of the element that a cookie banner brings. -/
def cookieConsentId : Text := "id=\"cookie-consent\"".toList

/-- The tag in front of which the footer links go. -/
def footerClose : Text := "</footer>".toList

/-- The tag in front of which new regions go. -/
def bodyClose : Text := "</body>".toList

/-- A text on lines of its own. -/
def ownLines (content : Text) : Text :=
  '\n' :: content ++ ['\n']

/-- The interior of a cookie region: the trimmed fragment on lines of its own. A fragment that
stands between the markers already gives its interior. -/
def cookieBody (fragment : Text) : Text :=
  let trimmed := fragment.trim
  let inner := (RegionKind.cookieConsent.beginMarker.isPrefixOf? trimmed).bind
    (Text.stripSuffix? RegionKind.cookieConsent.endMarker)
  ownLines <| match inner with
    | some inner => Text.trim inner
    | none => trimmed

namespace Page

/-- Fill the navigation regions. -/
def weaveNav (nav : Text) (page : Page) : Page × Outcome :=
  if page.hasRegion .nav then (page.setRegions .nav (ownLines nav), .applied)
  else (page, .skipped .markersAbsent)

/-- Whether a character indents a line. -/
def isIndent (c : Char) : Bool :=
  c = ' ' || c = '\t'

/-- The last line of a text, without its line end. -/
def lastLine (content : Text) : Text :=
  (content.reverse.takeWhile (· ≠ '\n')).reverse

/-- The page with the links on a line of their own in front of the tag at the place. Where the tag
starts its line, the line above it is added; otherwise the tag moves to a new line. -/
def insertFooterLine (links : Text) (place : Place) : Page :=
  let line := lastLine place.left
  let indent := line.takeWhile isIndent
  if indent = line then
    let above := place.left.take (place.left.length - line.length)
    Place.insert { place with left := above, right := line ++ place.right }
      [.text (indent ++ "  ".toList ++ links ++ ['\n'])]
  else
    place.insert [.text ('\n' :: indent ++ "  ".toList ++ links ++ '\n' :: indent)]

/-- Insert the footer links, unless the page has them. -/
def weaveFooterLinks (links : Text) (page : Page) : Page × Outcome :=
  match page.firstPlace? footerClose with
  | none => (page, .skipped .anchorMissing)
  | some place =>
    if page.contains footerLinksId then (page, .skipped .alreadyPatched)
    else if links.trim.isEmpty then (page, .skipped .emptyFragment)
    else (insertFooterLine links.trim place, .applied)

/-- Fill the cookie regions, or insert one in front of the first end of the body. -/
def weaveCookieConsent (banner : Text) (page : Page) : Page × Outcome :=
  if page.hasRegion .cookieConsent then
    (page.setRegions .cookieConsent (cookieBody banner), .applied)
  else if page.contains cookieConsentId then (page, .skipped .alreadyPatched)
  else if banner.trim.isEmpty then (page, .skipped .emptyFragment)
  else
    match page.firstPlace? bodyClose with
    | none => (page, .skipped .anchorMissing)
    | some place =>
      (place.insert [.region .cookieConsent (cookieBody banner), .text ['\n']], .applied)

/-- Fill the script regions, or insert one in front of the last end of the body. -/
def weaveScripts (scripts : Text) (page : Page) : Page × Outcome :=
  if page.hasRegion .sharedScripts then
    (page.setRegions .sharedScripts (ownLines scripts), .applied)
  else
    match page.lastPlace? bodyClose with
    | none => (page, .skipped .anchorMissing)
    | some place =>
      (place.insert [.text ['\n'], .region .sharedScripts (ownLines scripts), .text ['\n']],
        .applied)

/-- All steps in order. -/
def weaveAll (fragments : PageFragments) (page : Page) : Page × WeaveReport :=
  let (page, nav) := page.weaveNav fragments.nav
  let (page, footerLinks) := page.weaveFooterLinks fragments.footerLinks
  let (page, cookieConsent) := page.weaveCookieConsent fragments.cookieConsent
  let (page, sharedScripts) := page.weaveScripts fragments.scripts
  (page, ⟨nav, footerLinks, cookieConsent, sharedScripts⟩)

end Page

/-- The text of a page with the fragments woven in, and what the steps did. -/
def weave (source : Text) (fragments : PageFragments) : Text × WeaveReport :=
  let (page, report) := (Page.parse source).weaveAll fragments
  (page.render, report)

end SiteWeave
