import SiteWeave.ImageSize
import SiteWeave.BlogIndex.Palette

/-!
# The markup of posts on the index page

## Main definitions

* `Post.badge`: the badge of a post's category.
* `Post.card`: the card of a post in the grid.
* `Post.featuredBlock`: the block of the featured post, with a wider image than the cards.
-/

namespace SiteWeave.Post

/-- The badge of a post's category. -/
def badge (post : Post) : String :=
  let palette := post.palette
  "<span class=\"bg-" ++ palette.textLight ++ " dark:bg-" ++ palette.textDark ++
    " text-" ++ palette.text ++ " dark:text-" ++ palette.textDarkMode ++
    " text-xs font-semibold px-3 py-1 rounded-full\">" ++ post.categoryLabel ++ "</span>"

/-- The start tag of the article that shows a post. -/
def articleTag (post : Post) : String :=
  "<article class=\"card-hover bg-white dark:bg-navy-900 rounded-2xl overflow-hidden shadow-lg " ++
    "border border-gray-100 dark:border-white/10\" data-category=\"" ++ post.category ++ "\">"

/-- The shown date of a post. -/
def dateTag (post : Post) : String :=
  "<span class=\"text-gray-500 dark:text-gray-400 text-sm\">" ++ post.displayDate ++ "</span>"

/-- The title of a post as a link to its page. -/
def titleLink (post : Post) : String :=
  "<a href=\"posts/" ++ post.slug ++
    "\" class=\"hover:text-gold-600 dark:hover:text-gold-400 transition\">" ++ post.title ++ "</a>"

/-- The card of a post in the grid. -/
def card (post : Post) : String :=
  String.intercalate "\n"
    ["",
      "        <!-- Post: " ++ post.title ++ " -->",
      "        " ++ post.articleTag,
      "          <div class=\"h-48 relative overflow-hidden\">",
      "            <img src=\"" ++ post.image ++ "\" alt=\"" ++ post.imageAlt ++
        "\" class=\"w-full h-full object-cover\" loading=\"lazy\">",
      "            <div class=\"absolute inset-0 bg-gradient-to-t from-black/60 " ++
        "to-transparent\"></div>",
      "          </div>",
      "          <div class=\"p-6\">",
      "            <div class=\"flex items-center gap-3 mb-3\">",
      "              " ++ post.badge,
      "              " ++ post.dateTag,
      "            </div>",
      "            <h3 class=\"text-xl font-bold text-navy-900 dark:text-white mb-2\">",
      "              " ++ post.titleLink,
      "            </h3>",
      "            <p class=\"text-gray-600 dark:text-gray-300 text-sm line-clamp-2 mb-4\">",
      "              " ++ post.excerpt,
      "            </p>",
      "            <a href=\"posts/" ++ post.slug ++
        "\" class=\"text-gold-600 dark:text-gold-400 font-semibold text-sm hover:underline\">" ++
        "Read more &rarr;</a>",
      "          </div>",
      "        </article>"]

/-- The block of the featured post. -/
def featuredBlock (post : Post) : String :=
  String.intercalate "\n"
    ["<!-- Featured Post -->",
      "      <div class=\"mb-16\">",
      "        <h2 class=\"text-sm font-semibold text-gold-600 dark:text-gold-400 uppercase " ++
        "tracking-wide mb-6\">Featured</h2>",
      "        " ++ post.articleTag,
      "          <div class=\"md:flex\">",
      "            <div class=\"md:w-2/5 relative overflow-hidden\">",
      "              <img src=\"" ++ ImageSize.featured post.image ++ "\" alt=\"" ++
        post.imageAlt ++ "\" class=\"w-full h-full object-cover min-h-[250px]\">",
      "              <div class=\"absolute inset-0 bg-gradient-to-t from-navy-900/80 " ++
        "to-transparent\"></div>",
      "              <span class=\"absolute bottom-4 left-4 bg-gold-500 text-navy-900 text-xs " ++
        "font-bold px-3 py-1 rounded-full\">FEATURED</span>",
      "            </div>",
      "            <div class=\"md:w-3/5 p-8\">",
      "              <div class=\"flex items-center gap-3 mb-4\">",
      "                " ++ post.badge,
      "                " ++ post.dateTag,
      "              </div>",
      "              <h3 class=\"text-2xl font-bold text-navy-900 dark:text-white mb-3\">",
      "                " ++ post.titleLink,
      "              </h3>",
      "              <p class=\"text-gray-600 dark:text-gray-300 mb-4 line-clamp-3\">",
      "                " ++ post.excerpt,
      "              </p>",
      "              <a href=\"posts/" ++ post.slug ++ "\" class=\"inline-flex items-center " ++
        "text-gold-600 dark:text-gold-400 font-semibold hover:gap-3 gap-2 transition-all\">",
      "                Read Article <span>&rarr;</span>",
      "              </a>",
      "            </div>",
      "          </div>",
      "        </article>",
      "      </div>"]

end SiteWeave.Post
