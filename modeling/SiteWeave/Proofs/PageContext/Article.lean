import Mathlib.Data.List.TakeWhile
import SiteWeave.PageContext
import SiteWeave.Proofs.Post.Collection
import SiteWeave.Proofs.Text.Occurrence

/-!
# The pages of posts

The page of a post lies in the directory of posts, under the slug of the post. Which post a page
belongs to is read off the last segment of its path alone, with or without the extension of pages.
So a page further down in that directory, or one without the extension, passes for the page of the
post that its last segment names, and a post whose slug has a slash in it has no page. Everywhere
else a page is an article exactly if it is the page of a post, and it shows that post.

## Main definitions

* `PagePath.ofSlug`: the path of the page of a post.
* `PageProfile.Shows`: a profile shows a post.
* `PageProfile.IsFaithful`: a page is an article exactly if it is the page of a post, and shows it.
* `PagePath.IsDirect`: a page in the directory of posts itself.

## Main results

* `PageProfile.kind_ofPath_eq_article_iff`: which pages are articles.
* `PageProfile.isFaithful_iff`: which pages are faithful to the posts.
-/

namespace SiteWeave

namespace PagePath

variable {path slug name : String}

/-- The path of the page of a post. -/
def ofSlug (slug : String) : String :=
  "blog/posts/" ++ slug ++ ".html"

/-- Whether a page with the extension of pages lies in the directory of posts itself. -/
def IsDirect (path : String) : Prop :=
  ∃ name, '/' ∉ name.toList ∧ path = ofSlug name

theorem toList_ofSlug (slug : String) :
    (ofSlug slug).toList = "blog/posts".toList ++ '/' :: (slug.toList ++ ".html".toList) := by
  simp [ofSlug]

theorem ofSlug_inj : ofSlug name = ofSlug slug ↔ name = slug := by
  refine ⟨fun h => ?_, fun h => h ▸ rfl⟩
  have hlist := congrArg String.toList h
  rw [toList_ofSlug, toList_ofSlug] at hlist
  exact String.toList_inj.1
    (List.append_cancel_right (List.cons.inj (List.append_cancel_left hlist)).2)

theorem isUnder_ofSlug (slug : String) : isUnder "blog/posts" (ofSlug slug) = true := by
  rw [isUnder, toList_ofSlug, List.isPrefixOf_iff_prefix]
  exact ⟨slug.toList ++ ".html".toList, by simp⟩

theorem slash_notMem_fileName (path : String) : '/' ∉ (fileName path).toList := by
  rw [fileName, String.toList_ofList, List.mem_reverse]
  exact fun h => by simpa using List.mem_takeWhile_imp h

/-- The file name of the page of a post without a slash in its slug. -/
theorem fileName_ofSlug (h : '/' ∉ slug.toList) : fileName (ofSlug slug) = slug ++ ".html" := by
  have hname : ∀ c ∈ (slug.toList ++ ".html".toList).reverse, decide (c ≠ '/') = true := by
    intro c hc
    rw [decide_eq_true_iff]
    rintro rfl
    rw [List.mem_reverse, List.mem_append] at hc
    exact hc.elim h (by decide)
  rw [fileName, toList_ofSlug, List.reverse_append, List.reverse_cons, List.append_assoc,
    List.takeWhile_append_of_pos hname, List.singleton_append,
    List.takeWhile_cons_of_neg (by simp), List.append_nil, List.reverse_reverse,
    ← String.toList_append, String.ofList_toList]

theorem fileStem_ofSlug (h : '/' ∉ slug.toList) : fileStem (ofSlug slug) = slug := by
  have hstem : Text.stripSuffix? ".html".toList (slug ++ ".html").toList = some slug.toList := by
    rw [Text.stripSuffix?, String.toList_append, List.reverse_append,
      Text.isPrefixOf?_eq_some_iff.2 rfl, Option.map_some, List.reverse_reverse]
  rw [fileStem, fileName_ofSlug h, hstem]
  exact String.ofList_toList

theorem slash_notMem_fileStem (path : String) : '/' ∉ (fileStem path).toList := by
  have hname := slash_notMem_fileName path
  rw [fileStem]
  split
  · next stem hstem =>
    obtain ⟨rest, hrest, rfl⟩ := Option.map_eq_some_iff.1 hstem
    rw [← List.mem_reverse, Text.eq_append_of_isPrefixOf? hrest] at hname
    rw [String.toList_ofList, List.mem_reverse]
    exact fun h => hname (List.mem_append_right _ h)
  · exact hname

end PagePath

open PagePath

namespace PageProfile

variable {path : String} {site : Site} {posts : List Post} {settings : Settings} {post : Post}

/-- Whether the profile of the page at a path shows a post: its texts, its image and its date come
from the post, and the address is that of the page itself. -/
structure Shows (profile : PageProfile) (path : String) (site : Site) (post : Post) : Prop where
  title : profile.title = some (post.title ++ " | " ++ site.name)
  description : profile.description =
    if post.description.isEmpty then none else some post.description
  ogImage : profile.ogImage = some (ImageSize.card post.image)
  articleDate : profile.articleDate = some post.date
  shareHook : profile.shareHook = post.shareHook
  canonicalPath : profile.canonicalPath = some ("/" ++ path)

/-- Whether a page is an article exactly if it is the page of a post, which it shows then. -/
structure IsFaithful (path : String) (site : Site) (posts : List Post) (settings : Settings) :
    Prop where
  kind_iff : (ofPath path site posts settings).kind = .article ↔
    ∃ post ∈ posts, path = ofSlug post.slug
  shows : ∀ post ∈ posts, path = ofSlug post.slug →
    (ofPath path site posts settings).Shows path site post

/-- In the directory of posts the last segment of a path decides. -/
theorem ofPath_of_isUnder (h : isUnder "blog/posts" path = true) :
    ofPath path site posts settings =
      match Post.find? (fileStem path) posts with
      | some post => ofPost { basePath := PagePath.basePath path } site post (fileStem path)
      | none => { basePath := PagePath.basePath path, kind := .missingPost } := by
  have hpath : path ≠ "index.html" := by
    rintro rfl
    exact absurd h (by decide)
  unfold ofPath
  exact (if_neg hpath).trans (if_pos h)

/-- No other page is an article. -/
theorem kind_ofPath_of_not_isUnder (h : isUnder "blog/posts" path = false) :
    (ofPath path site posts settings).kind ≠ .article := by
  rw [ofPath]
  split
  · simp
  · rw [if_neg (by simp [h])]
    split
    · simp
    · split <;> simp

/-- A page is an article if a post has the slug that its last segment names. -/
theorem kind_ofPath_eq_article_iff : (ofPath path site posts settings).kind = .article ↔
    isUnder "blog/posts" path = true ∧ ∃ post ∈ posts, post.slug = fileStem path := by
  cases hunder : isUnder "blog/posts" path with
  | false => simp [kind_ofPath_of_not_isUnder hunder]
  | true =>
    rw [ofPath_of_isUnder hunder]
    cases hfind : Post.find? (fileStem path) posts with
    | some post =>
      have hmem := List.mem_of_find?_eq_some hfind
      have hslug := List.find?_some hfind
      exact iff_of_true rfl ⟨rfl, post, hmem, by simpa using hslug⟩
    | none =>
      have hnone := List.find?_eq_none.1 hfind
      exact iff_of_false (by simp)
        fun ⟨_, post, hmem, hslug⟩ => hnone post hmem (by simpa using hslug)

/-- The address of an article is made of the last segment of its path. -/
theorem canonicalPath_of_kind_eq_article (h : (ofPath path site posts settings).kind = .article) :
    (ofPath path site posts settings).canonicalPath = some ("/" ++ ofSlug (fileStem path)) := by
  obtain ⟨hunder, post, hpost, hslug⟩ := kind_ofPath_eq_article_iff.1 h
  rw [ofPath_of_isUnder hunder]
  cases hfind : Post.find? (fileStem path) posts with
  | some post => simp [ofPost, ofSlug, ← String.append_assoc]
  | none => exact absurd (by simpa using hslug) (List.find?_eq_none.1 hfind post hpost)

/-- The page of a post without a slash in its slug shows that post. -/
theorem shows_ofPath_ofSlug (hslugs : (posts.map Post.slug).Nodup) (hpost : post ∈ posts)
    (hslash : '/' ∉ post.slug.toList) :
    (ofPath (ofSlug post.slug) site posts settings).Shows (ofSlug post.slug) site post := by
  rw [ofPath_of_isUnder (isUnder_ofSlug post.slug), fileStem_ofSlug hslash,
    Post.find?_slug hslugs hpost]
  exact
    { title := rfl
      description := rfl
      ogImage := rfl
      articleDate := rfl
      shareHook := rfl
      canonicalPath := by simp [ofPost, ofSlug, ← String.append_assoc] }

/-- A faithful page of a post lies in the directory of posts itself. Its address is made of its last
segment, and has to be its own. -/
theorem IsFaithful.isDirect (h : IsFaithful path site posts settings) (hpost : post ∈ posts)
    (hpath : path = ofSlug post.slug) : IsDirect path := by
  have hkind := h.kind_iff.2 ⟨post, hpost, hpath⟩
  have hcanonical := (h.shows post hpost hpath).canonicalPath
  rw [canonicalPath_of_kind_eq_article hkind, Option.some_inj,
    String.append_right_inj] at hcanonical
  exact ⟨fileStem path, slash_notMem_fileStem path, hcanonical.symm⟩

/-- **The pages of posts are the articles.** For posts with distinct slugs, any site, any settings
and any path: the page at the path is an article exactly if it is the page of a post, and shows that
post then, if and only if the page lies in the directory of posts itself and has the extension of
pages, or lies outside of that directory, or belongs to no post, neither by the last segment of its
path nor by the whole. -/
theorem isFaithful_iff (hslugs : (posts.map Post.slug).Nodup) :
    IsFaithful path site posts settings ↔
      IsDirect path ∨ isUnder "blog/posts" path = false ∨
        ∀ post ∈ posts, post.slug ≠ fileStem path ∧ path ≠ ofSlug post.slug := by
  constructor
  · intro h
    by_contra hneither
    simp only [not_or, Bool.not_eq_false] at hneither
    obtain ⟨hdirect, hunder, hnone⟩ := hneither
    refine hnone fun post hpost => ⟨fun hslug => ?_, fun hpath => hdirect (h.isDirect hpost hpath)⟩
    obtain ⟨other, hother, hpath⟩ :=
      h.kind_iff.1 (kind_ofPath_eq_article_iff.2 ⟨hunder, post, hpost, hslug⟩)
    exact hdirect (h.isDirect hother hpath)
  · rintro (⟨name, hname, rfl⟩ | hunder | hnone)
    · refine ⟨kind_ofPath_eq_article_iff.trans ?_, fun post hpost hpath => ?_⟩
      · simp only [isUnder_ofSlug, true_and, fileStem_ofSlug hname, ofSlug_inj, eq_comm]
      · obtain rfl := ofSlug_inj.1 hpath
        exact shows_ofPath_ofSlug hslugs hpost hname
    · have hpath (post : Post) : path ≠ ofSlug post.slug := by
        rintro rfl
        exact absurd (isUnder_ofSlug post.slug) (by simp [hunder])
      exact ⟨iff_of_false (kind_ofPath_of_not_isUnder hunder) fun ⟨post, _, h⟩ => hpath post h,
        fun post _ h => absurd h (hpath post)⟩
    · refine ⟨iff_of_false (fun h => ?_) fun ⟨post, hpost, h⟩ => (hnone post hpost).2 h,
        fun post hpost h => absurd h (hnone post hpost).2⟩
      obtain ⟨-, post, hpost, hslug⟩ := kind_ofPath_eq_article_iff.1 h
      exact (hnone post hpost).1 hslug

/-- A site. -/
def plainSite : Site where
  name := "Lee"
  title := "Lee | Home"
  description := "A site"
  url := "https://lee.example"
  author := "Lee"

/-- Two posts, one of them with a slash in its slug. -/
def yearlyPosts : List Post :=
  [{ slug := "my-slug", title := "One", date := "2024-06-01", image := "photo?w=600&h=400" },
    { slug := "2024/notes", title := "Two", date := "2024-01-01", image := "photo" }]

theorem isFaithful_iff_yearlyPosts :
    (yearlyPosts.map Post.slug).Nodup ∧ IsDirect "blog/posts/my-slug.html" ∧
      IsFaithful "blog/posts/my-slug.html" plainSite yearlyPosts {} := by
  have hslugs : (yearlyPosts.map Post.slug).Nodup := by decide
  have hdirect : IsDirect "blog/posts/my-slug.html" := ⟨"my-slug", by decide, by decide⟩
  exact ⟨hslugs, hdirect, (isFaithful_iff hslugs).2 (.inl hdirect)⟩

/-- The page of a post with a slash in its slug is no article, and a page further down in the
directory of posts is one. -/
theorem not_isFaithful_yearlyPosts :
    (yearlyPosts.map Post.slug).Nodup ∧
      ¬ IsFaithful "blog/posts/2024/notes.html" plainSite yearlyPosts {} ∧
      ¬ IsFaithful "blog/posts/drafts/my-slug.html" plainSite yearlyPosts {} := by
  refine ⟨by decide, fun h => ?_, fun h => ?_⟩
  · have hkind : (ofPath "blog/posts/2024/notes.html" plainSite yearlyPosts {}).kind ≠
        .article := by decide
    exact hkind (h.kind_iff.2 ⟨_, List.mem_cons_of_mem _ List.mem_cons_self, by decide⟩)
  · have hkind : (ofPath "blog/posts/drafts/my-slug.html" plainSite yearlyPosts {}).kind =
        .article := by decide
    obtain ⟨post, hpost, hpath⟩ := h.kind_iff.1 hkind
    revert post
    decide

end PageProfile

end SiteWeave
