import SiteWeave.Site
import SiteWeave.Json.Record
import SiteWeave.Post.Collection
import SiteWeave.FileTree.Access

/-!
# The data of a site

The record of a site and its posts stand in two files of one directory.

## Main definitions

* `SiteData`: the record and the posts, newest first.
* `DataError`: why data is refused, with its message.
* `SiteData.load`: the data in a directory of a file tree.
-/

namespace SiteWeave

/-- The record of a site and its posts, newest first. -/
structure SiteData where
  site : Site
  posts : List Post

/-- Why the data of a site is refused. -/
inductive DataError where
  | file (error : FileError)
  /-- A file that does not hold its record. -/
  | document (path : String) (error : LocatedError)
  | posts (error : PostsError)

/-- The message of an error. -/
def DataError.message : DataError → String
  | file error => "IO error: " ++ error.message ++ "."
  | document path error => "Data error in '" ++ path ++ "': " ++ error.message ++ "."
  | posts error => error.message

namespace SiteData

/-- The file of the site's record. -/
def siteFile : RawPath := Bytes.ofString "site.json"

/-- The file of the posts. -/
def postsFile : RawPath := Bytes.ofString "posts.json"

/-- What a file holds, read by `reader`. -/
def readDocument {α : Type} (tree : FileTree) (path : RawPath) (reader : Reader α) :
    Except DataError α :=
  match tree.readText path with
  | .error error => .error (.file error)
  | .ok text =>
    match reader.run text.toList with
    | .error error => .error (.document path.display error)
    | .ok value => .ok value

/-- The data in a directory: first the record, then the posts. -/
def load (tree : FileTree) (directory : RawPath) : Except DataError SiteData := do
  let site ← readDocument tree (directory.join siteFile) (Reader.readRecord Site.recordType
    Reader.maxDepth)
  let posts ← readDocument tree (directory.join postsFile) (Reader.readRecords Post.recordType
    Reader.maxDepth)
  match Post.collect (posts.map Post.ofMembers) with
  | .error error => .error (.posts error)
  | .ok posts => .ok ⟨Site.ofMembers site, posts⟩

end SiteData

end SiteWeave
