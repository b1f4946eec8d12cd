import SiteWeave.SiteData
import SiteWeave.Proofs.Post.Collection

/-!
# Loading the data of a site

The two files are read one after the other, and the posts are checked last. What loading gives is
said here by cases, with one case for each defect that can be reported; every case names the defects
that go before it, so that exactly one case applies to a directory.

## Main definitions

* `SiteData.siteReader`, `SiteData.postsReader`: how the two files are read.
* `SiteData.DocumentRead`: what comes of reading one file.
* `SiteData.Loaded`: what comes of loading a directory.

## Main results

* `SiteData.readDocument_eq_iff`: reading a file gives what is said of it.
* `SiteData.load_eq_iff_loaded`: loading a directory gives what is said of it.
* `SiteData.load_spec`: what is loaded, what is accepted, and that posts are found by their slugs.
-/

namespace SiteWeave

namespace SiteData

/-- How the record of a site is read. -/
def siteReader : Reader Members :=
  Reader.readRecord Site.recordType Reader.maxDepth

/-- How the posts of a site are read. -/
def postsReader : Reader (List Members) :=
  Reader.readRecords Post.recordType Reader.maxDepth

variable {α : Type} {tree : FileTree} {path directory : RawPath} {reader : Reader α}

/-- What comes of reading a file. -/
inductive DocumentRead (tree : FileTree) (path : RawPath) (reader : Reader α) :
    Except DataError α → Prop
  /-- The file cannot be read, or is no text. -/
  | unread (error : FileError) (hread : tree.readText path = .error error) :
    DocumentRead tree path reader (.error (.file error))
  /-- The text is not what the reader accepts. -/
  | refused (text : String) (error : LocatedError) (hread : tree.readText path = .ok text)
    (hrefused : reader.run text.toList = .error error) :
    DocumentRead tree path reader (.error (.document path.display error))
  | accepted (text : String) (value : α) (hread : tree.readText path = .ok text)
    (haccepted : reader.run text.toList = .ok value) : DocumentRead tree path reader (.ok value)

theorem readDocument_eq_iff {result : Except DataError α} :
    readDocument tree path reader = result ↔ DocumentRead tree path reader result := by
  constructor
  · rintro rfl
    rw [readDocument]
    cases hread : tree.readText path with
    | error error => exact .unread error hread
    | ok text =>
      cases hvalue : reader.run text.toList with
      | error error => simpa only [hvalue] using .refused text error hread hvalue
      | ok value => simpa only [hvalue] using .accepted text value hread hvalue
  · rintro (⟨error, hread⟩ | ⟨text, error, hread, hrefused⟩ | ⟨text, value, hread, haccepted⟩)
    · simp only [readDocument, hread]
    · simp only [readDocument, hread, hrefused]
    · simp only [readDocument, hread, haccepted]

/-- What comes of loading a directory. A defect of the site's file goes before one of the posts'
file, and a defect of a file before one of the posts in it. -/
inductive Loaded (tree : FileTree) (directory : RawPath) : Except DataError SiteData → Prop
  | badSite (error : DataError)
    (hsite : DocumentRead tree (directory.join siteFile) siteReader (.error error)) :
    Loaded tree directory (.error error)
  | badPosts (site : Members) (error : DataError)
    (hsite : DocumentRead tree (directory.join siteFile) siteReader (.ok site))
    (hposts : DocumentRead tree (directory.join postsFile) postsReader (.error error)) :
    Loaded tree directory (.error error)
  | badCollection (site : Members) (posts : List Members) (error : PostsError)
    (hsite : DocumentRead tree (directory.join siteFile) siteReader (.ok site))
    (hposts : DocumentRead tree (directory.join postsFile) postsReader (.ok posts))
    (hcollected : Post.Collected (posts.map Post.ofMembers) (.error error)) :
    Loaded tree directory (.error (.posts error))
  | data (site : Members) (posts : List Members) (sorted : List Post)
    (hsite : DocumentRead tree (directory.join siteFile) siteReader (.ok site))
    (hposts : DocumentRead tree (directory.join postsFile) postsReader (.ok posts))
    (hcollected : Post.Collected (posts.map Post.ofMembers) (.ok sorted)) :
    Loaded tree directory (.ok ⟨Site.ofMembers site, sorted⟩)

theorem load_eq (tree : FileTree) (directory : RawPath) : load tree directory =
    match readDocument tree (directory.join siteFile) siteReader with
    | .error error => .error error
    | .ok site =>
      match readDocument tree (directory.join postsFile) postsReader with
      | .error error => .error error
      | .ok posts =>
        match Post.collect (posts.map Post.ofMembers) with
        | .error error => .error (.posts error)
        | .ok posts => .ok ⟨Site.ofMembers site, posts⟩ := by
  rw [load, siteReader, postsReader]
  cases readDocument tree (directory.join siteFile)
    (Reader.readRecord Site.recordType Reader.maxDepth) with
  | error error => rfl
  | ok site =>
    cases readDocument tree (directory.join postsFile)
      (Reader.readRecords Post.recordType Reader.maxDepth) with
    | error error => rfl
    | ok posts => rfl

/-- **Loading a directory gives what is said of it,** and nothing else. -/
theorem load_eq_iff_loaded {result : Except DataError SiteData} :
    load tree directory = result ↔ Loaded tree directory result := by
  rw [load_eq]
  constructor
  · rintro rfl
    cases hsite : readDocument tree (directory.join siteFile) siteReader with
    | error error => exact .badSite error (readDocument_eq_iff.1 hsite)
    | ok site =>
      rw [readDocument_eq_iff] at hsite
      cases hposts : readDocument tree (directory.join postsFile) postsReader with
      | error error => exact .badPosts site error hsite (readDocument_eq_iff.1 hposts)
      | ok posts =>
        rw [readDocument_eq_iff] at hposts
        cases hcollected : Post.collect (posts.map Post.ofMembers) with
        | error error =>
          simpa only [hcollected] using
            .badCollection site posts error hsite hposts (Post.collect_eq_iff.1 hcollected)
        | ok sorted =>
          simpa only [hcollected] using
            .data site posts sorted hsite hposts (Post.collect_eq_iff.1 hcollected)
  · rintro (⟨error, hsite⟩ | ⟨site, error, hsite, hposts⟩ |
      ⟨site, posts, error, hsite, hposts, hcollected⟩ |
      ⟨site, posts, sorted, hsite, hposts, hcollected⟩)
    · rw [readDocument_eq_iff.2 hsite]
    · rw [readDocument_eq_iff.2 hsite, readDocument_eq_iff.2 hposts]
    · simp only [readDocument_eq_iff.2 hsite, readDocument_eq_iff.2 hposts,
        Post.collect_eq_iff.2 hcollected]
    · simp only [readDocument_eq_iff.2 hsite, readDocument_eq_iff.2 hposts,
        Post.collect_eq_iff.2 hcollected]

/-- **What loading the data of a site decides.** It gives what is said of the directory; data is
accepted if both files hold their records, no slug is repeated and all posts have dates; and every
loaded post is found by its slug. -/
theorem load_spec (tree : FileTree) (directory : RawPath) :
    (∀ result, load tree directory = result ↔ Loaded tree directory result) ∧
      ((∃ data, load tree directory = .ok data) ↔ ∃ site posts,
        DocumentRead tree (directory.join siteFile) siteReader (.ok site) ∧
        DocumentRead tree (directory.join postsFile) postsReader (.ok posts) ∧
        ((posts.map Post.ofMembers).map Post.slug).Nodup ∧
        ∀ post ∈ posts.map Post.ofMembers, post.day?.isSome) ∧
      ∀ data, load tree directory = .ok data → ∀ post ∈ data.posts,
        Post.find? post.slug data.posts = some post := by
  refine ⟨fun result => load_eq_iff_loaded, ⟨?_, ?_⟩, fun data hload post hmem => ?_⟩
  · rintro ⟨data, hload⟩
    cases load_eq_iff_loaded.1 hload with
    | data site posts sorted hsite hposts hcollected =>
      cases hcollected with
      | kept _ hslugs hdated => exact ⟨site, posts, hsite, hposts, hslugs, hdated⟩
  · rintro ⟨site, posts, hsite, hposts, hslugs, hdated⟩
    cases hcollected : Post.collect (posts.map Post.ofMembers) with
    | error error =>
      cases Post.collect_eq_iff.1 hcollected with
      | repeated front back post hmap hfront hrepeated =>
        refine absurd hslugs ?_
        rw [hmap, List.map_append, List.nodup_append]
        exact fun h => h.2.2 _ hrepeated _ (by simp) rfl
      | undated front back post _ hmap hfront hpost =>
        exact absurd (hdated post (by simp [hmap])) (by simp [hpost])
    | ok sorted =>
      exact ⟨_, load_eq_iff_loaded.2
        (.data site posts sorted hsite hposts (Post.collect_eq_iff.1 hcollected))⟩
  · cases load_eq_iff_loaded.1 hload with
    | data site posts sorted hsite hposts hcollected =>
      cases hcollected with
      | kept _ hslugs hdated hsorted =>
        exact Post.find?_slug ((hsorted.perm.map Post.slug).nodup_iff.2 hslugs) hmem

end SiteData

end SiteWeave
