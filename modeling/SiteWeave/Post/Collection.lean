import SiteWeave.Post.Basic

/-!
# Collections of posts

The posts of a site have distinct slugs and dates, and are kept newest first; posts of one date keep
their order.

## Main definitions

* `PostsError`: why posts are refused.
* `Post.dated`, `Post.newestFirst`: posts with their dates, and their order.
* `Post.repeatedSlug?`: the first slug that a post shares with an earlier one.
* `Post.collect`: the posts of a site from those of its data.
-/

namespace SiteWeave

/-- Why posts are refused. -/
inductive PostsError where
  | invalidDate (slug date : String)
  | duplicateSlug (slug : String)
  /-- There is no post to feature. -/
  | noPosts
deriving DecidableEq, Repr

/-- The message of an error. -/
def PostsError.message : PostsError → String
  | invalidDate slug date =>
    "Post '" ++ slug ++ "' has an unparseable date '" ++ date ++ "'."
  | duplicateSlug slug => "Duplicate post slug '" ++ slug ++ "'."
  | noPosts => "No blog posts available to build the blog index."

namespace Post

/-- The date of a post that has one. -/
def dayOf (post : Post) : Except PostsError Date :=
  match post.day? with
  | some day => .ok day
  | none => .error (.invalidDate post.slug post.date)

/-- The posts with their dates; the first post without one is reported. -/
def dated : List Post → Except PostsError (List (Date × Post))
  | [] => .ok []
  | post :: posts => do
    let day ← post.dayOf
    return (day, post) :: (← dated posts)

/-- The posts with the newest first; posts of one date keep their order. -/
def newestFirst (posts : List Post) : Except PostsError (List Post) := do
  let sorted := (← dated posts).mergeSort fun a b => decide (b.1.rank ≤ a.1.rank)
  return sorted.map Prod.snd

/-- The slug of the first post that has the slug of an earlier one; `seen` holds the slugs before.
-/
def repeatedSlug? (seen : List String) : List Post → Option String
  | [] => none
  | post :: posts =>
    if seen.contains post.slug then some post.slug else repeatedSlug? (post.slug :: seen) posts

/-- The posts of a site from those of its data: slugs are checked before dates. -/
def collect (posts : List Post) : Except PostsError (List Post) :=
  match repeatedSlug? [] posts with
  | some slug => .error (.duplicateSlug slug)
  | none => newestFirst posts

/-- The post with a slug. -/
def find? (slug : String) (posts : List Post) : Option Post :=
  posts.find? fun post => post.slug = slug

end Post

end SiteWeave
