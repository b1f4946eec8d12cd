import SiteWeave.BlogIndex.Splice
import SiteWeave.Build.Sources
import SiteWeave.PageContext
import SiteWeave.Settings.Exclude

/-!
# Builds

A build is opened once: its sources are read, and the index of the blog is generated. It then brings
the fragments into one page after the other. A page without a change is not written, and one that is
not there or is no text is left alone.

## Main definitions

* `Build`, `Build.load`: everything a build needs.
* `Build.pagePath?`, `Build.pagesIn`, `Build.pages`: the pages of a site.
* `Build.weavePage`: the new text of a page.
* `PageStatus`, `Build.processPage`: what happens to a page.
-/

namespace SiteWeave

open BuildM

/-- Everything a build needs. -/
structure Build where
  /-- The path of the site's root. -/
  root : RawPath
  settings : Settings
  /-- The patterns of the pages that are left alone. -/
  excluded : List Glob
  data : SiteData
  fragments : Fragments
  /-- The index of the blog, if there are posts. -/
  blogIndex : Option BlogIndex

/-- What happened to a page. -/
inductive PageStatus where
  | updated
  | unchanged
  /-- The page is not there. -/
  | notFound
  /-- The page is no text. -/
  | unreadable
deriving DecidableEq, Repr

/-- The words for a status. -/
def PageStatus.describe : PageStatus → String
  | updated => "Updated"
  | unchanged => "Skipped (unchanged)"
  | notFound => "Skipped (not found)"
  | unreadable => "Skipped (unreadable)"

namespace Build

/-- The page that shows the index of the blog. -/
def indexPath : String := "blog/index.html"

/-- The warning about footer links that would be inserted by every build. -/
def footerLog (fragments : Fragments) : List LogRecord :=
  let links := (fragments.get Fragments.footerLinksName).toList
  if (Text.trim links).isEmpty || Text.contains footerLinksId links then []
  else
    [⟨.warn, .builder, "Fragment '" ++ Fragments.footerLinksName ++ "' lacks " ++
      String.ofList footerLinksId ++ "; footer links will be inserted on every run"⟩]

/-- The index of the blog, and what is logged about it. -/
def indexPosts (posts : List Post) : Option BlogIndex × List LogRecord :=
  match BlogIndex.generate posts with
  | .ok index => (some index, BlogIndex.generateLog posts)
  | .error error =>
    (none, [⟨.error, .builder, error.message ++ " The blog index keeps its current posts."⟩])

/-- Read the sources of a site: settings, patterns, data and fragments, in this order. -/
def load (root : RawPath) : BuildM Build := do
  let sources := root.join Sources.directory
  let settings ← Sources.loadSettings sources
  let excluded ← check .pattern settings.excluded
  let data ← Sources.loadData (sources.join Sources.dataDirectory)
  let fragments ← Sources.loadFragments (sources.join Sources.fragmentDirectory)
  say ("Loaded " ++ toString fragments.size ++ " fragments\n")
  say ("Loaded " ++ toString data.posts.length ++ " blog posts\n")
  let (blogIndex, log) := indexPosts data.posts
  note (footerLog fragments ++ log)
  return ⟨root, settings, excluded, data, fragments, blogIndex⟩

/-! ### The pages of a site -/

/-- Whether pages below a directory with this name belong to the site. -/
def enters (name : Name) : Bool :=
  match (Bytes.toString? name).map String.toList with
  | some ('_' :: _) => false
  | some ('.' :: _) => false
  | _ => true

/-- The path of a page below the root with slashes between its names, if all are texts. -/
def relativePath? (file : FoundFile) : Option String :=
  (file.relative.mapM Bytes.toString?).map (String.intercalate "/")

/-- The path of the page in a file, if it is one, and what is logged about it. -/
def pagePath? (build : Build) (file : FoundFile) : Option String × List LogRecord :=
  if !isHtml file.name then (none, [])
  else
    match relativePath? file with
    | none => (none, [⟨.warn, .builder, "Skipping non UTF-8 path " ++ file.shown.display⟩])
    | some path =>
      if Glob.anyMatch build.excluded (Bytes.ofString path) then
        (none, [⟨.debug, .builder, "Skipping " ++ path ++ " from exclude patterns"⟩])
      else (some path, [])

/-- The paths of the pages in what a walk finds, up to its first error, and what is logged about
them. -/
def pagesIn (build : Build) :
    List (Except WalkError FoundFile) → Except WalkError (List String) × List LogRecord
  | [] => (.ok [], [])
  | .error error :: _ => (.error error, [])
  | .ok file :: found =>
    let (path, log) := build.pagePath? file
    let (paths, more) := pagesIn build found
    (paths.map (path.toList ++ ·), log ++ more)

/-- The paths of the pages of the site. -/
def pages (build : Build) : BuildM (List String) := do
  let (paths, log) := build.pagesIn ((← tree).walk enters build.root)
  note log
  check .walk paths

/-! ### One page -/

/-- What the page at a path says of itself. -/
def profile (build : Build) (path : String) : PageProfile :=
  PageProfile.ofPath path build.data.site build.data.posts build.settings

/-- The fragments of the page at a path. -/
def pageFragments (build : Build) (path : String) : PageFragments :=
  build.fragments.expand
    (PageContext.ofProfile build.data.site (build.profile path) build.settings).toJson

/-- The text of the page at a path with the fragments woven in, and with the index of the blog where
it belongs, and what is logged about both. -/
def weavePage (build : Build) (path : String) (source : Text) : Text × List LogRecord :=
  let (woven, report) := weave source (build.pageFragments path)
  let log := [⟨.debug, .patcher, report.describe⟩]
  match if path = indexPath then build.blogIndex else none with
  | none => (woven, log)
  | some index =>
    let (spliced, splice) := index.splice woven
    (spliced, log ++ [⟨.debug, .builder, splice.describe⟩])

/-- What is logged about a page that should be the page of a post. -/
def profileLog (build : Build) (path : String) : List LogRecord :=
  if (build.profile path).kind = .missingPost then
    [⟨.debug, .builder, "No post matches " ++ path ++ ", using site defaults"⟩]
  else []

/-- The place of a page. -/
def place (build : Build) (path : String) : RawPath :=
  build.root.join (Bytes.ofString path)

/-- Bring the fragments into the page at a path. -/
def processPage (build : Build) (path : String) : BuildM PageStatus := do
  note (build.profileLog path)
  let tree ← tree
  match tree.readText (build.place path) with
  | .error .notFound => return .notFound
  | .error .notText =>
    note [⟨.warn, .builder, "Skipping " ++ path ++ ": " ++ FileError.notText.message⟩]
    return .unreadable
  | .error error => throw (.file error)
  | .ok source =>
    let (content, log) := build.weavePage path source.toList
    note log
    if content = source.toList then return .unchanged
    else
      match tree.writeFile (build.place path) (String.ofList content).toUTF8 with
      | .ok tree =>
        replaceTree tree
        return .updated
      | .error error =>
        replaceTree (tree.tearFile (build.place path))
        throw (.file error)

end Build

end SiteWeave
