import SiteWeave.Proofs.PageContext.Article
import SiteWeave.Proofs.PageContext.Expansion

/-!
# Kinds of pages and their contexts

The kind of a page is read off the pieces of its path between the slashes, the empty ones among
them. A directory counts only with a piece behind it, and only under its whole name, so neither
`blog` nor `blogs/index.html` is a page of the blog.

Every context has the same ten members, and up to three more that only articles have. What a page
leaves unsaid is filled in from what it says elsewhere, and some relations hold between the members
of every context because of that: an article alone has a title of its own for sharing, but its
description is the same everywhere.

## Main definitions

* `PagePath.pieces`, `PagePath.LiesIn`: the pieces of a path, and what they begin with.
* `PageKind.Fits`: the kind of a page is the one that the pieces of its path make it.
* `PageContext.IsRegular`: the relations between the members of a context.

## Main results

* `PagePath.isUnder_iff`: a path lies in a directory if its pieces begin with its pieces.
* `PageProfile.isPlain_or_exists_post`: a page is plain or belongs to a post.
* `PageContext.fits_and_isRegular`: every page fits its kind and has a regular context.
-/

namespace SiteWeave

/-! ### Paths and their pieces -/

namespace PagePath

variable {path directory : String}

/-- The pieces of a path between its slashes, empty ones included. -/
def pieces (path : String) : List String :=
  (path.toList.splitOn '/').map String.ofList

theorem pieces_ne_nil (path : String) : pieces path ≠ [] := by
  simp [pieces, List.splitOn_ne_nil]

theorem intercalate_pieces (path : String) : String.intercalate "/" (pieces path) = path := by
  rw [← String.toList_inj, String.toList_intercalate, pieces, List.map_map]
  simp [Function.comp_def, List.intercalate_splitOn]

/-- The pieces of a path begin with the given ones, and at least one more follows. -/
def LiesIn (path : String) (front : List String) : Prop :=
  ∃ next rest, pieces path = front ++ next :: rest

/-- **A path lies in a directory** if it lies in the pieces of the directory. -/
theorem isUnder_iff : isUnder directory path = true ↔ LiesIn path (pieces directory) := by
  rw [isUnder, List.isPrefixOf_iff_prefix]
  constructor
  · rintro ⟨rest, hpath⟩
    have hpieces : pieces path = pieces directory ++ (rest.splitOn '/').map String.ofList := by
      rw [pieces, ← hpath, List.append_assoc, List.singleton_append, List.splitOn_append_cons_self,
        List.map_append, pieces]
    obtain ⟨next, more, hrest⟩ := List.exists_cons_of_ne_nil
      (l := (rest.splitOn '/').map String.ofList) (by simp [List.splitOn_ne_nil])
    exact ⟨next, more, by rw [hpieces, hrest]⟩
  · rintro ⟨next, rest, hpieces⟩
    refine ⟨(String.intercalate "/" (next :: rest)).toList, ?_⟩
    rw [← intercalate_pieces path, hpieces,
      String.intercalate_append_of_ne_nil (pieces_ne_nil directory) (List.cons_ne_nil next rest),
      intercalate_pieces, String.toList_append, String.toList_append]
    rfl

/-- A path lies in one directory of the root only. -/
theorem LiesIn.eq {first other : String} (h : LiesIn path [first]) (h' : LiesIn path [other]) :
    first = other := by
  obtain ⟨_, _, hpath⟩ := h
  obtain ⟨_, _, hpath'⟩ := h'
  exact (List.cons.inj (hpath.symm.trans hpath')).1

/-- A name without a slash lies in no directory. -/
theorem not_liesIn_of_pieces {first : String} (h : pieces path = [path]) :
    ¬ LiesIn path [first] := by
  rintro ⟨next, rest, hpath⟩
  simp [h] at hpath

end PagePath

open PagePath

/-! ### The kind of a page -/

/-- A page of a kind has a path whose pieces make it one. -/
structure PageKind.Fits (kind : PageKind) (path : String) : Prop where
  home : kind = .home ↔ path = "index.html"
  /-- The pages of posts, whether there is a post or not. -/
  post : kind = .article ∨ kind = .missingPost ↔ LiesIn path ["blog", "posts"]
  blogHub : kind = .blogHub ↔ LiesIn path ["blog"] ∧ ¬ LiesIn path ["blog", "posts"]
  topic : kind = .topic ↔ ∃ first ∈ ["ventures", "experience", "profiles"], LiesIn path [first]
  generic : kind = .generic ↔ path ≠ "index.html" ∧
    ∀ first ∈ ["blog", "ventures", "experience", "profiles"], ¬ LiesIn path [first]

namespace PageProfile

variable {path : String} {site : Site} {posts : List Post} {settings : Settings}

/-- The kind of a page, by the first rule that fits. -/
theorem kind_ofPath : (ofPath path site posts settings).kind =
    if path = "index.html" then .home
    else if isUnder "blog/posts" path then
      if (Post.find? (fileStem path) posts).isSome then .article else .missingPost
    else if isUnder "blog" path then .blogHub
    else if topics.any (isUnder · path) then .topic
    else .generic := by
  rw [ofPath]
  split
  · rfl
  split
  · dsimp only
    cases Post.find? (fileStem path) posts <;> rfl
  split
  · rfl
  rw [← List.isSome_find?]
  cases topics.find? fun topic => isUnder topic path <;> rfl

theorem any_isUnder_topics_iff : topics.any (isUnder · path) = true ↔
    ∃ first ∈ topics, LiesIn path [first] := by
  have hpieces : ∀ topic ∈ topics, pieces topic = [topic] := by decide
  rw [List.any_eq_true]
  exact exists_congr fun topic => and_congr_right fun htopic => by
    rw [isUnder_iff, hpieces topic htopic]

/-- **Every page fits its kind.** No page of the blog is one of another directory, and the start
page is in none, so the order of the rules matters for the pages of posts alone. -/
theorem fits_ofPath (path : String) (site : Site) (posts : List Post) (settings : Settings) :
    (ofPath path site posts settings).kind.Fits path := by
  have hposts : isUnder "blog/posts" path = true ↔ LiesIn path ["blog", "posts"] := isUnder_iff
  have hblog : isUnder "blog" path = true ↔ LiesIn path ["blog"] := isUnder_iff
  have htopics : topics.any (isUnder · path) = true ↔
      ∃ first ∈ ["ventures", "experience", "profiles"], LiesIn path [first] :=
    any_isUnder_topics_iff
  have hhub : LiesIn path ["blog", "posts"] → LiesIn path ["blog"] :=
    fun ⟨third, rest, hpath⟩ => ⟨"posts", third :: rest, hpath⟩
  have hother (hblog : LiesIn path ["blog"]) {first : String} (hne : first ≠ "blog") :
      ¬ LiesIn path [first] := fun hfirst => hne (hfirst.eq hblog)
  rw [kind_ofPath]
  by_cases hstart : path = "index.html"
  · subst hstart
    have hnone {first : String} : ¬ LiesIn "index.html" [first] :=
      not_liesIn_of_pieces (by decide)
    rw [if_pos rfl]
    constructor <;> simp [mt hhub hnone, hnone]
  rw [if_neg hstart]
  by_cases hpost : LiesIn path ["blog", "posts"]
  · have hsecond := hhub hpost
    rw [if_pos (hposts.2 hpost)]
    split <;> constructor <;> simp [hstart, hpost, hsecond, hother hsecond]
  rw [if_neg (mt hposts.1 hpost)]
  by_cases hsecond : LiesIn path ["blog"]
  · rw [if_pos (hblog.2 hsecond)]
    constructor <;> simp [hstart, hpost, hsecond, hother hsecond]
  rw [if_neg (mt hblog.1 hsecond)]
  by_cases htopic : ∃ first ∈ ["ventures", "experience", "profiles"], LiesIn path [first]
  · rw [if_pos (htopics.2 htopic)]
    obtain ⟨first, hfirst, hlies⟩ := htopic
    exact
      { home := by simp [hstart]
        post := by simp [hpost]
        blogHub := by simp [hsecond]
        topic := iff_of_true rfl ⟨first, hfirst, hlies⟩
        generic := iff_of_false (by simp) fun h =>
          h.2 first (List.mem_cons_of_mem _ hfirst) hlies }
  · rw [if_neg (mt htopics.1 htopic)]
    exact
      { home := by simp [hstart]
        post := by simp [hpost]
        blogHub := by simp [hsecond]
        topic := iff_of_false (by simp) htopic
        generic := iff_of_true rfl ⟨hstart, List.forall_mem_cons.2
          ⟨hsecond, fun first hfirst hlies => htopic ⟨first, hfirst, hlies⟩⟩⟩ }

/-! ### What a page says -/

/-- A page that is no article leaves unsaid what articles say. -/
structure IsPlain (profile : PageProfile) : Prop where
  kind_ne : profile.kind ≠ .article
  isBlog : profile.isBlog = decide (profile.kind = .blogHub)
  canonicalPath : ∀ address, profile.canonicalPath = some address → ∃ rest, address = "/" ++ rest
  ogType : profile.ogType = none
  ogTitle : profile.ogTitle = none
  ogDescription : profile.ogDescription = none
  articleAuthor : profile.articleAuthor = none
  articleDate : profile.articleDate = none
  shareHook : profile.shareHook = none

/-- **A page is plain or belongs to a post.** -/
theorem isPlain_or_exists_post (path : String) (site : Site) (posts : List Post)
    (settings : Settings) : (ofPath path site posts settings).IsPlain ∨
    ∃ post, Post.find? (fileStem path) posts = some post ∧ ofPath path site posts settings =
      ofPost { basePath := PagePath.basePath path } site post (fileStem path) := by
  cases hunder : isUnder "blog/posts" path with
  | true =>
    rw [ofPath_of_isUnder hunder]
    cases hfind : Post.find? (fileStem path) posts with
    | some post => exact .inr ⟨post, rfl, rfl⟩
    | none => exact .inl ⟨by simp, rfl, by simp, rfl, rfl, rfl, rfl, rfl, rfl⟩
  | false =>
    left
    rw [ofPath]
    split
    · exact ⟨by simp, rfl, by simpa using ⟨"", rfl⟩, rfl, rfl, rfl, rfl, rfl, rfl⟩
    rw [if_neg (by simp [hunder])]
    split
    · exact ⟨by simp, rfl, by simpa using ⟨"blog/", rfl⟩, rfl, rfl, rfl, rfl, rfl, rfl⟩
    split
    · exact ⟨by simp, rfl, by simp [String.append_assoc], rfl, rfl, rfl, rfl, rfl, rfl⟩
    · exact ⟨by simp, rfl, by simp, rfl, rfl, rfl, rfl, rfl, rfl⟩

end PageProfile

/-! ### The members of a context -/

namespace PageContext

variable {site : Site} {settings : Settings} {context : PageContext} {profile : PageProfile}
  {post : Post} {key : String}

/-- The relations between the members of the context of a page of a kind, which may belong to a
post. -/
structure IsRegular (value : Json) (kind : PageKind) (post? : Option Post) : Prop where
  isSome_get?_iff : ∀ key, (value.get? key).isSome ↔
    key ∈ ["site", "basePath", "title", "description", "canonicalPath", "ogType", "ogTitle",
        "ogDescription", "ogImage", "isBlog"] ∨
      kind = .article ∧ (key = "articleAuthor" ∨ key = "articleDate" ∨
        key = "shareHook" ∧ ∃ post, post? = some post ∧ post.shareHook.isSome)
  ne_null : ∀ key, value.get? key ≠ some .null
  ogType : value.get? "ogType" =
    some (.string (if kind = .article then "article" else "website"))
  isBlog : value.get? "isBlog" = some (.bool (kind = .article ∨ kind = .blogHub))
  ogDescription : value.get? "ogDescription" = value.get? "description"
  ogTitle : value.get? "ogTitle" = value.get? "title" ↔ kind ≠ .article
  canonicalPath : ∃ rest, value.get? "canonicalPath" = some (.string ("/" ++ rest))

/-- A context has its own members, and those of its optional texts that are there. -/
theorem isSome_get?_toJson_iff : (context.toJson.get? key).isSome ↔
    key ∈ "site" :: context.ownMembers.map Prod.fst ∨
      ∃ entry ∈ context.optionalTexts, key = entry.1 ∧ entry.2.isSome := by
  have hoptional (other : String) (text? : Option String) :
      key ∈ (optionalMember other text?).map Prod.fst ↔ key = other ∧ text?.isSome := by
    cases text? <;> simp [optionalMember]
  rw [← Option.ne_none_iff_isSome, get?_toJson, ne_eq, Json.find?_eq_none_iff, not_not, members,
    List.map_append, List.mem_append, List.map_cons, List.map_flatMap]
  simp only [List.mem_flatMap, hoptional]

/-- No member of a context is null. -/
theorem get?_toJson_ne_null (context : PageContext) (key : String) :
    context.toJson.get? key ≠ some .null := by
  intro hnull
  rw [get?_toJson] at hnull
  have hmem := Json.mem_of_find?_eq_some _ _ _ hnull
  simp [members, ownMembers, optionalTexts, optionalMember, Site.toJson, Json.ofMembers] at hmem

/-- The values of the members that a context has beside the record of the site. -/
theorem get?_toJson_of_mem (context : PageContext) : ∀ member ∈ context.ownMembers,
    context.toJson.get? member.1 = some member.2 := by
  intro member hmember
  rw [get?_toJson, Json.find?_of_mem _ context.nodup_keys]
  exact List.mem_append_left _ (List.mem_cons_of_mem _ hmember)

/-- The members of a context are related as what it holds is. -/
theorem isRegular_toJson {kind : PageKind} {post? : Option Post}
    (hoptional : ∀ key, (∃ entry ∈ context.optionalTexts, key = entry.1 ∧ entry.2.isSome) ↔
      kind = .article ∧ (key = "articleAuthor" ∨ key = "articleDate" ∨
        key = "shareHook" ∧ ∃ post, post? = some post ∧ post.shareHook.isSome))
    (htype : context.ogType = if kind = .article then "article" else "website")
    (hblog : context.isBlog = decide (kind = .article ∨ kind = .blogHub))
    (hdescription : context.ogDescription = context.description)
    (htitle : context.ogTitle = context.title ↔ kind ≠ .article)
    (hcanonical : ∃ rest, context.canonicalPath = "/" ++ rest) :
    IsRegular context.toJson kind post? := by
  have hvalues := context.get?_toJson_of_mem
  simp only [ownMembers, List.forall_mem_cons] at hvalues
  obtain ⟨-, getTitle, getDescription, getCanonicalPath, getOgType, getOgTitle, getOgDescription, -,
    getIsBlog, -⟩ := hvalues
  exact
    { isSome_get?_iff := fun key => isSome_get?_toJson_iff.trans (or_congr .rfl (hoptional key))
      ne_null := get?_toJson_ne_null context
      ogType := by rw [getOgType, htype]
      isBlog := by rw [getIsBlog, hblog]
      ogDescription := by rw [getOgDescription, getDescription, hdescription]
      ogTitle := by rw [getOgTitle, getTitle, Option.some_inj, Json.string.injEq, htitle]
      canonicalPath := hcanonical.imp fun rest hrest => by rw [getCanonicalPath, hrest] }

/-- The context of a page that is no article. -/
theorem isRegular_of_isPlain (h : profile.IsPlain) (post? : Option Post) :
    IsRegular (ofProfile site profile settings).toJson profile.kind post? := by
  refine isRegular_toJson (fun key => ?_) ?_ ?_ ?_ (iff_of_true ?_ h.kind_ne) ?_
  · simp [optionalTexts, ofProfile, h.articleAuthor, h.articleDate, h.shareHook, h.kind_ne]
  · simp [ofProfile, h.ogType, h.kind_ne]
  · simp [ofProfile, h.isBlog, h.kind_ne]
  · simp [ofProfile, h.ogDescription]
  · simp [ofProfile, h.ogTitle]
  · rw [ofProfile]
    cases hsome : profile.canonicalPath with
    | none => exact ⟨"", rfl⟩
    | some address => exact h.canonicalPath address hsome

/-- The context of an article. -/
theorem isRegular_ofPost (base : PageProfile) (slug : String) :
    IsRegular (ofProfile site (.ofPost base site post slug) settings).toJson .article post := by
  refine isRegular_toJson (fun key => ?_) rfl rfl ?_ (iff_of_false (fun heq => ?_) (by simp)) ?_
  · simp [optionalTexts, ofProfile, PageProfile.ofPost]
  · simp only [ofProfile, PageProfile.ofPost]
    split <;> rfl
  · -- the title of the page is longer, by a bar and the name of the site
    have hlength := congrArg String.length heq
    simp only [ofProfile, PageProfile.ofPost, Option.getD_some, String.length_append] at hlength
    have hbar : " | ".length = 3 := rfl
    omega
  · exact ⟨"blog/posts/" ++ slug ++ ".html", by
      simp [ofProfile, PageProfile.ofPost, ← String.append_assoc]⟩

/-- **Every page fits its kind and has a regular context.** For any path, any site, any posts and
any settings: the kind of the page is the one that the pieces of its path make it, and its context
has the same ten members as every other, none of which is null, and three more if the page is an
article, the last of them if the post has such a text. The type for sharing tells articles from
other pages, and the mark of the blog tells articles and the pages around them; the description for
sharing is that of the page, and the title for sharing is that of the page unless it is an article.
The address begins with a slash. -/
theorem fits_and_isRegular (path : String) (site : Site) (posts : List Post)
    (settings : Settings) :
    (PageProfile.ofPath path site posts settings).kind.Fits path ∧
      IsRegular (ofPath path site posts settings).toJson
        (PageProfile.ofPath path site posts settings).kind (Post.find? (fileStem path) posts) := by
  refine ⟨PageProfile.fits_ofPath path site posts settings, ?_⟩
  rw [ofPath]
  obtain hplain | ⟨post, hfind, hprofile⟩ :=
    PageProfile.isPlain_or_exists_post path site posts settings
  · exact isRegular_of_isPlain hplain _
  · rw [hfind, hprofile]
    exact isRegular_ofPost _ _

end PageContext

end SiteWeave
