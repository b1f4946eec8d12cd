import SiteWeave.Log
import SiteWeave.Post.Collection
import SiteWeave.BlogIndex.Card

/-!
# The blog index

The index page shows one featured post in a block of its own, and the others as cards. The featured
post is the first one flagged, or the newest. Every flagged post is left out of the cards; a post
that is featured only because it is the newest keeps its card.

## Main definitions

* `BlogIndex`: the generated markup.
* `BlogIndex.featured?`: the number of the featured post.
* `BlogIndex.flaggedLog`, `BlogIndex.generate`: the index of some posts, with what is logged.
-/

namespace SiteWeave

/-- The generated markup of the index page. -/
structure BlogIndex where
  featuredSlug : String
  featuredHtml : String
  cardsHtml : String
deriving DecidableEq, Repr

namespace BlogIndex

/-- The number of the featured post and the post: the first flagged one, else the first. -/
def featured? (posts : List Post) : Option (Nat × Post) :=
  match posts.zipIdx.find? fun (post, _) => post.featured with
  | some (post, index) => some (index, post)
  | none => posts.head?.map fun post => (0, post)

/-- What is logged when several posts are flagged. -/
def flaggedLog (posts : List Post) : List LogRecord :=
  match posts.filter Post.featured with
  | first :: others =>
    if others.isEmpty then []
    else
      [⟨.warn, .blog, toString (others.length + 1) ++ " posts are flagged as featured, using '" ++
        first.slug ++ "'"⟩]
  | [] => []

/-- The cards of the posts that are not flagged. -/
def cards (posts : List Post) : List String :=
  (posts.filter fun post => !post.featured).map Post.card

/-- The index of some posts, in the order of the posts. -/
def generate (posts : List Post) : Except PostsError BlogIndex :=
  match featured? posts with
  | none => .error .noPosts
  | some (_, post) =>
    .ok ⟨post.slug, post.featuredBlock, String.intercalate "\n" (cards posts)⟩

/-- What is logged when the index is generated. -/
def generateLog (posts : List Post) : List LogRecord :=
  match featured? posts with
  | none => []
  | some (_, post) =>
    flaggedLog posts ++
      [⟨.debug, .blog, "Featuring '" ++ post.slug ++ "' with " ++
        toString (cards posts).length ++ " cards"⟩]

end BlogIndex

end SiteWeave
