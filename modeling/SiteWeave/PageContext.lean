import SiteWeave.Site
import SiteWeave.ImageSize
import SiteWeave.Post.Collection
import SiteWeave.Settings.Basic
import SiteWeave.Text.Search

/-!
# Page contexts

The fragments of a page are expanded against its context: a JSON object that holds the record of the
site and what the page says of itself. A page says this through its path, relative to the root of
the site and with slashes between the segments; the page of a post says what the post says. Whatever
a page leaves unsaid comes from the site or the settings.

## Main definitions

* `PagePath.depth`, `PagePath.basePath`: how far a page is below the root, and the way back.
* `PageKind`, `PageProfile`: what a page says of itself.
* `PageProfile.ofPath`: the profile of the page at a path.
* `PageContext`, `PageContext.ofProfile`, `PageContext.toJson`: the context of a page.
-/

namespace SiteWeave

namespace PagePath

/-- The segments of a path between its slashes, empty ones left out. -/
def segments (path : String) : List Text :=
  (Text.splitOn '/' path.toList).filter fun segment => !segment.isEmpty

/-- The number of directories between the root and a page. -/
def depth (path : String) : Nat :=
  (segments path).length - 1

/-- The way from a page back to the root. -/
def basePath (path : String) : String :=
  String.join (List.replicate (depth path) "../")

/-- The text behind the last slash of a path. -/
def fileName (path : String) : String :=
  String.ofList (path.toList.reverse.takeWhile (· ≠ '/')).reverse

/-- The file name without the extension of pages. -/
def fileStem (path : String) : String :=
  let name := fileName path
  match Text.stripSuffix? ".html".toList name.toList with
  | some stem => String.ofList stem
  | none => name

/-- Whether a path lies in a directory below the root. -/
def isUnder (directory path : String) : Bool :=
  (directory.toList ++ ['/']).isPrefixOf path.toList

end PagePath

/-- The kinds of pages. -/
inductive PageKind where
  | home
  /-- The page of a post. -/
  | article
  /-- A page among those of posts that no post has the slug of. -/
  | missingPost
  | blogHub
  /-- A page of a directory with addresses of its own. -/
  | topic
  | generic
deriving DecidableEq, Repr

/-- What a page says of itself; what it leaves unsaid is not there. -/
structure PageProfile where
  kind : PageKind := .generic
  basePath : String := ""
  title : Option String := none
  description : Option String := none
  canonicalPath : Option String := none
  ogType : Option String := none
  ogTitle : Option String := none
  ogDescription : Option String := none
  ogImage : Option String := none
  isBlog : Bool := false
  articleAuthor : Option String := none
  articleDate : Option String := none
  shareHook : Option String := none
deriving DecidableEq, Repr

namespace PageProfile

/-- The directories whose pages have an address of their own and nothing else. -/
def topics : List String := ["ventures", "experience", "profiles"]

/-- The page of a post. A post without a description leaves the description unsaid. -/
def ofPost (base : PageProfile) (site : Site) (post : Post) (slug : String) : PageProfile :=
  let description := if post.description.isEmpty then none else some post.description
  { base with
    kind := .article
    canonicalPath := some ("/blog/posts/" ++ slug ++ ".html")
    title := some (post.title ++ " | " ++ site.name)
    description := description
    ogType := some "article"
    ogTitle := some post.title
    ogDescription := description
    ogImage := some (ImageSize.card post.image)
    articleAuthor := some site.author
    articleDate := some post.date
    shareHook := post.shareHook
    isBlog := true }

/-- The profile of the page at a path; the first rule that fits decides. -/
def ofPath (path : String) (site : Site) (posts : List Post) (settings : Settings) :
    PageProfile :=
  let base : PageProfile := { basePath := PagePath.basePath path }
  if path = "index.html" then
    { base with
      kind := .home
      canonicalPath := some "/"
      title := some site.title
      description := some site.description }
  else if PagePath.isUnder "blog/posts" path then
    let slug := PagePath.fileStem path
    match Post.find? slug posts with
    | some post => ofPost base site post slug
    | none => { base with kind := .missingPost }
  else if PagePath.isUnder "blog" path then
    { base with
      kind := .blogHub
      canonicalPath := some "/blog/"
      title := some ("Blog | " ++ site.name)
      description := some settings.blogDescription
      isBlog := true }
  else
    match topics.find? fun topic => PagePath.isUnder topic path with
    | some topic =>
      { base with
        kind := .topic
        canonicalPath := some ("/" ++ topic ++ "/" ++ PagePath.fileName path) }
    | none => base

end PageProfile

/-- The context of a page. -/
structure PageContext where
  site : Site
  basePath : String
  title : String
  description : String
  canonicalPath : String
  ogType : String
  ogTitle : String
  ogDescription : String
  ogImage : String
  isBlog : Bool
  articleAuthor : Option String
  articleDate : Option String
  shareHook : Option String

namespace PageContext

/-- The context of a page with a profile: what the profile leaves unsaid comes from the site. -/
def ofProfile (site : Site) (profile : PageProfile) (settings : Settings) : PageContext :=
  let title := profile.title.getD site.title
  let description := profile.description.getD site.description
  { site := site
    basePath := profile.basePath
    title := title
    description := description
    canonicalPath := profile.canonicalPath.getD "/"
    ogType := profile.ogType.getD "website"
    ogTitle := profile.ogTitle.getD title
    ogDescription := profile.ogDescription.getD description
    ogImage := profile.ogImage.getD (site.url ++ "/" ++ settings.ogImage)
    isBlog := profile.isBlog
    articleAuthor := profile.articleAuthor
    articleDate := profile.articleDate
    shareHook := profile.shareHook }

/-- A member that is there only if its value is. -/
def optionalMember (key : String) (value : Option String) : List (String × Json) :=
  (value.map fun text => (key, Json.string text)).toList

/-- The context as a JSON object. -/
def toJson (context : PageContext) : Json :=
  Json.ofMembers <|
    [("site", context.site.toJson),
      ("basePath", .string context.basePath),
      ("title", .string context.title),
      ("description", .string context.description),
      ("canonicalPath", .string context.canonicalPath),
      ("ogType", .string context.ogType),
      ("ogTitle", .string context.ogTitle),
      ("ogDescription", .string context.ogDescription),
      ("ogImage", .string context.ogImage),
      ("isBlog", .bool context.isBlog)] ++
    optionalMember "articleAuthor" context.articleAuthor ++
    optionalMember "articleDate" context.articleDate ++
    optionalMember "shareHook" context.shareHook

end PageContext

end SiteWeave
