import Mathlib.Data.List.Sigma
import SiteWeave.BlogIndex.Basic
import SiteWeave.Proofs.Post.Collection

/-!
# The layout of the blog index

The index depends on the data of the posts and on their order in the data only where two posts have
the same day. Two posts may be equal, so the posts are numbered as they come in the data. One of
them comes before another if its day is later, or if the days are the same and its number is lower.
The featured post is the flagged one that comes before all other flagged ones, or the one that comes
before all others if none is flagged; the cards are those of the posts without a flag, in order.

## Main definitions

* `Post.ComesBefore`: the order of numbered posts.
* `BlogIndex.IsLaidOut`: what an index shows of some posts, and where.

## Main results

* `Post.exists_numbered_of_newestFirst`, `Post.newestFirst_eq_of_numbered`: posts that come newest
  first are numbered posts in order.
* `Post.newestFirst_eq_of_perm`: with distinct days the order in the data does not matter.
* `BlogIndex.exists_isLaidOut_generate`: the layout of a generated index.
-/

namespace SiteWeave

namespace Date

/-- A date is before another. -/
instance instLT : LT Date :=
  ⟨fun a b => a ≤ b ∧ ¬ b ≤ a⟩

theorem lt_iff_rank_lt {a b : Date} : a < b ↔ a.rank < b.rank := by
  change a ≤ b ∧ ¬ b ≤ a ↔ _
  rw [← rank_le_rank_iff, ← rank_le_rank_iff]
  omega

instance decidableLT (a b : Date) : Decidable (a < b) :=
  decidable_of_iff _ lt_iff_rank_lt.symm

end Date

namespace Post

variable {posts sorted other : List Post} {entry behind : Post × Nat}

/-- A numbered post comes before another: its day is later, or its number is lower on the same day.
-/
def ComesBefore (entry behind : Post × Nat) : Prop :=
  ∃ day next, entry.1.day? = some day ∧ behind.1.day? = some next ∧
    (next < day ∨ next = day ∧ entry.2 < behind.2)

instance (entry behind : Post × Nat) : Decidable (ComesBefore entry behind) :=
  decidable_of_iff (∃ day ∈ entry.1.day?, ∃ next ∈ behind.1.day?,
    next < day ∨ next = day ∧ entry.2 < behind.2) (by simp [ComesBefore])

theorem ComesBefore.asymm (h : ComesBefore entry behind) : ¬ ComesBefore behind entry := by
  rintro ⟨next', day', hnext', hday', horder'⟩
  obtain ⟨day, next, hday, hnext, horder⟩ := h
  obtain rfl := Option.some.inj (hday.symm.trans hday')
  obtain rfl := Option.some.inj (hnext.symm.trans hnext')
  have hrank {a b : Date} : a = b ↔ a.rank = b.rank := ⟨congrArg Date.rank, Date.rank_injective⟩
  simp only [Date.lt_iff_rank_lt, hrank] at horder horder'
  omega

theorem not_comesBefore_self (entry : Post × Nat) : ¬ ComesBefore entry entry :=
  fun h => h.asymm h

/-- **Posts that come newest first are numbered posts in order.** -/
theorem exists_numbered_of_newestFirst (h : newestFirst posts = .ok sorted) :
    ∃ entries : List (Post × Nat), entries.Perm posts.zipIdx ∧ entries.Pairwise ComesBefore ∧
      entries.map Prod.fst = sorted := by
  cases hpairs : dated posts with
  | error error => simp [newestFirst, hpairs, bind, Except.bind] at h
  | ok pairs =>
  obtain rfl := Except.ok.inj ((newestFirst_of_dated hpairs).symm.trans h)
  obtain ⟨rfl, hday⟩ := dated_eq_ok_iff.1 hpairs
  set le : Date × Post → Date × Post → Bool := fun a b => decide (b.1.rank ≤ a.1.rank) with hle
  have htrans : ∀ a b c, le a b → le b c → le a c := fun a b c hab hbc =>
    decide_eq_true (Int.le_trans (of_decide_eq_true hbc) (of_decide_eq_true hab))
  have htotal : ∀ a b, le a b || le b a := by
    simpa [hle] using fun (a : Date) (_ : Post) (b : Date) (_ : Post) => Int.le_total b.rank a.rank
  have hperm := List.mergeSort_perm pairs.zipIdx (List.zipIdxLE le)
  have hordered := List.pairwise_mergeSort (List.zipIdxLE_trans htrans)
    (List.zipIdxLE_total htotal) pairs.zipIdx
  have hmap : (pairs.zipIdx.mergeSort (List.zipIdxLE le)).map Prod.fst = pairs.mergeSort le :=
    List.mergeSort_zipIdx
  generalize pairs.zipIdx.mergeSort (List.zipIdxLE le) = numbered at hperm hordered hmap
  have hnumbers : numbered.Pairwise (·.2 ≠ ·.2) :=
    List.pairwise_map.1 ((hperm.map Prod.snd).nodup_iff.2 (List.nodup_zipIdx_map_snd pairs))
  refine ⟨numbered.map (Prod.map Prod.snd id), ?_, ?_, ?_⟩
  · rw [List.zipIdx_map]
    exact hperm.map _
  · refine List.pairwise_map.2 ((hordered.and hnumbers).imp_of_mem ?_)
    rintro ⟨⟨day, post⟩, number⟩ ⟨⟨next, behind⟩, position⟩ ha hb ⟨horder, hne⟩
    refine ⟨day, next, hday (day, post) (List.fst_mem_of_mem_zipIdx (hperm.subset ha)),
      hday (next, behind) (List.fst_mem_of_mem_zipIdx (hperm.subset hb)), ?_⟩
    obtain ⟨hrank, hnumber⟩ : next.rank ≤ day.rank ∧
        (next.rank < day.rank ∨ number ≤ position) := by
      simpa [List.zipIdxLE, hle] using horder
    rw [Date.lt_iff_rank_lt]
    rcases hnumber with hlt | hnumber
    · exact .inl hlt
    · exact (Int.le_iff_lt_or_eq.1 hrank).imp id fun heq =>
        ⟨Date.rank_injective heq, Nat.lt_of_le_of_ne hnumber hne⟩
  · rw [← hmap, List.map_map, List.map_map]
    rfl

theorem exists_newestFirst_eq_ok (hdated : ∀ post ∈ posts, post.day?.isSome) :
    ∃ sorted, newestFirst posts = .ok sorted := by
  cases hsorted : newestFirst posts with
  | error error =>
    obtain ⟨front, post, back, rfl, -, hnone, -⟩ := newestFirst_eq_error_iff.1 hsorted
    exact absurd (hdated post (by simp)) (by simp [hnone])
  | ok sorted => exact ⟨sorted, rfl⟩

/-- **Numbered posts in order are posts that come newest first.** -/
theorem newestFirst_eq_of_numbered (entries : List (Post × Nat))
    (hdated : ∀ post ∈ posts, post.day?.isSome) (hperm : entries.Perm posts.zipIdx)
    (hordered : entries.Pairwise ComesBefore) :
    newestFirst posts = .ok (entries.map Prod.fst) := by
  obtain ⟨sorted, hsorted⟩ := exists_newestFirst_eq_ok hdated
  obtain ⟨others, hperm', hordered', rfl⟩ := exists_numbered_of_newestFirst hsorted
  rw [hsorted, List.Perm.eq_of_pairwise (fun a b _ _ hbefore hbehind =>
    absurd hbehind hbefore.asymm) hordered' hordered (hperm'.trans hperm.symm)]

/-- **With distinct days the order of the data does not matter.** -/
theorem newestFirst_eq_of_perm (hdays : (posts.map day?).Nodup) (hperm : other.Perm posts)
    (h : newestFirst posts = .ok sorted) : newestFirst other = .ok sorted := by
  obtain ⟨hdated, hsorted⟩ := newestFirst_eq_ok_iff.1 h
  obtain ⟨sorted', hother⟩ := exists_newestFirst_eq_ok fun post hpost =>
    hdated post (hperm.subset hpost)
  obtain ⟨-, hsorted'⟩ := newestFirst_eq_ok_iff.1 hother
  refine hother.trans (congrArg Except.ok (List.Perm.eq_of_pairwise ?_ hsorted'.newest
    hsorted.newest (hsorted'.perm.trans (hperm.trans hsorted.perm.symm))))
  intro post behind hpost hbehind hle hge
  have hpost := hperm.subset (hsorted'.perm.subset hpost)
  have hbehind := hsorted.perm.subset hbehind
  obtain ⟨day, hday⟩ := Option.isSome_iff_exists.1 (hdated post hpost)
  obtain ⟨next, hnext⟩ := Option.isSome_iff_exists.1 (hdated behind hbehind)
  have hsame : day = next :=
    Date.le_antisymm (hge next day hnext hday) (hle day next hday hnext)
  exact List.inj_on_of_nodup_map hdays hpost hbehind (by rw [hday, hnext, hsame])

end Post

open Post

namespace BlogIndex

variable {posts sorted : List Post} {entries : List (Post × Nat)} {shown : Post × Nat}

/-- The index of some posts features the post `shown` and has the given cards. Each post is numbered
by its place in the data. -/
structure IsLaidOut (posts : List Post) (shown : Post × Nat) (cards : List (Post × Nat))
    (index : BlogIndex) : Prop where
  cardsHtml : index.cardsHtml = String.intercalate "\n" (cards.map (·.1.card))
  /-- There is a card for every post without a flag, as often as the data has the post. -/
  perm : cards.Perm (posts.zipIdx.filter fun entry => !entry.1.featured)
  /-- The cards are in order. -/
  lt_iff : ∀ (i j : Nat) (hi : i < cards.length) (hj : j < cards.length),
    i < j ↔ ComesBefore cards[i] cards[j]
  featuredSlug : index.featuredSlug = shown.1.slug
  featuredHtml : index.featuredHtml = shown.1.featuredBlock
  mem : shown ∈ posts.zipIdx
  /-- The featured post is the first of the flagged ones. -/
  of_flagged : (∃ post ∈ posts, post.featured) → shown.1.featured ∧
    ∀ entry ∈ posts.zipIdx, entry.1.featured → entry ≠ shown → ComesBefore shown entry
  /-- Without a flag it is the first of all. -/
  of_not_flagged : (∀ post ∈ posts, ¬ post.featured) →
    ∀ entry ∈ posts.zipIdx, entry ≠ shown → ComesBefore shown entry
  /-- A post is not shown exactly if it is flagged and another flagged one comes before it. -/
  not_shown_iff : ∀ entry ∈ posts.zipIdx, entry ≠ shown ∧ entry ∉ cards ↔
    entry.1.featured ∧ ∃ other ∈ posts.zipIdx, other.1.featured ∧ ComesBefore other entry

/-- The first flagged post, else the first one. -/
def shown? (entries : List (Post × Nat)) : Option (Post × Nat) :=
  (entries.find? fun entry => entry.1.featured).or entries.head?

/-- The featured post is the first flagged one, else the first. -/
theorem map_snd_featured? (posts : List Post) :
    (featured? posts).map Prod.snd = (posts.find? Post.featured).or posts.head? := by
  have hfind : posts.find? Post.featured =
      (posts.zipIdx.find? (Post.featured ∘ Prod.fst)).map Prod.fst := by
    conv_lhs => rw [← List.zipIdx_map_fst 0 posts]
    exact List.find?_map
  rw [featured?, hfind]
  split
  · next post number hsome =>
    have hfirst : posts.zipIdx.find? (Post.featured ∘ Prod.fst) = some (post, number) := hsome
    rw [hfirst]
    rfl
  · next hnone =>
    have hfirst : posts.zipIdx.find? (Post.featured ∘ Prod.fst) = none := hnone
    rw [hfirst]
    cases posts.head? <;> rfl

/-- The index of numbered posts. -/
theorem generate_map_fst (h : shown? entries = some shown) : generate (entries.map Prod.fst) =
    .ok ⟨shown.1.slug, shown.1.featuredBlock, String.intercalate "\n"
      ((entries.filter fun entry => !entry.1.featured).map (·.1.card))⟩ := by
  have hfeatured : (featured? (entries.map Prod.fst)).map Prod.snd = some shown.1 := by
    rw [map_snd_featured?, List.find?_map, List.head?_map, ← Option.map_or]
    exact congrArg (Option.map Prod.fst) h
  have hcards : BlogIndex.cards (entries.map Prod.fst) =
      (entries.filter fun entry => !entry.1.featured).map (·.1.card) := by
    rw [BlogIndex.cards, List.filter_map, List.map_map]
    rfl
  obtain ⟨⟨number, post⟩, hsome, rfl⟩ := Option.map_eq_some_iff.1 hfeatured
  rw [generate, hsome, hcards]

theorem mem_of_shown? (h : shown? entries = some shown) : shown ∈ entries := by
  rcases Option.or_eq_some_iff.1 h with hfind | ⟨-, hhead⟩
  · exact List.mem_of_find?_eq_some hfind
  · exact List.mem_of_head? hhead

/-- The first flagged one of numbered posts in order comes before all other flagged ones. -/
theorem shown?_of_flagged (hordered : entries.Pairwise ComesBefore)
    (h : shown? entries = some shown) (hflagged : ∃ entry ∈ entries, entry.1.featured) :
    shown.1.featured ∧
      ∀ entry ∈ entries, entry.1.featured → entry ≠ shown → ComesBefore shown entry := by
  rcases Option.or_eq_some_iff.1 h with hfind | ⟨hnone, -⟩
  · obtain ⟨hshown, front, back, rfl, hfront⟩ := List.find?_eq_some_iff_append.1 hfind
    refine ⟨hshown, fun entry hentry hfeatured hne => ?_⟩
    have hback : ∀ entry ∈ back, ComesBefore shown entry :=
      (List.pairwise_cons.1 (List.pairwise_append.1 hordered).2.1).1
    rcases List.mem_append.1 hentry with hentry | hentry
    · exact absurd hfeatured (by simpa using hfront entry hentry)
    · exact hback entry ((List.mem_cons.1 hentry).resolve_left hne)
  · obtain ⟨entry, hentry, hfeatured⟩ := hflagged
    exact absurd hfeatured (List.find?_eq_none.1 hnone entry hentry)

/-- The first one of numbered posts in order comes before all others. -/
theorem shown?_of_not_flagged (hordered : entries.Pairwise ComesBefore)
    (h : shown? entries = some shown) (hflagged : ∀ entry ∈ entries, ¬ entry.1.featured) :
    ∀ entry ∈ entries, entry ≠ shown → ComesBefore shown entry := by
  rcases Option.or_eq_some_iff.1 h with hfind | ⟨-, hhead⟩
  · exact absurd (List.find?_some hfind) (hflagged shown (List.mem_of_find?_eq_some hfind))
  · obtain ⟨rest, rfl⟩ := List.head?_eq_some_iff.1 hhead
    intro entry hentry hne
    exact (List.pairwise_cons.1 hordered).1 entry ((List.mem_cons.1 hentry).resolve_left hne)

/-- Among numbered posts in order the places are ordered as the posts are. -/
theorem lt_iff_comesBefore (hordered : entries.Pairwise ComesBefore) (i j : Nat)
    (hi : i < entries.length) (hj : j < entries.length) :
    i < j ↔ ComesBefore entries[i] entries[j] := by
  have hbefore := List.pairwise_iff_getElem.1 hordered
  refine ⟨hbefore i j hi hj, fun h => Nat.lt_of_not_le fun hle => ?_⟩
  rcases Nat.lt_or_eq_of_le hle with hlt | rfl
  · exact h.asymm (hbefore j i hj hi hlt)
  · exact not_comesBefore_self _ h

/-- Numbered posts in order lay out their index. -/
theorem isLaidOut_of_shown? (hperm : entries.Perm posts.zipIdx)
    (hordered : entries.Pairwise ComesBefore) (hshown : shown? entries = some shown) :
    IsLaidOut posts shown (entries.filter fun entry => !entry.1.featured)
      ⟨shown.1.slug, shown.1.featuredBlock, String.intercalate "\n"
        ((entries.filter fun entry => !entry.1.featured).map (·.1.card))⟩ := by
  have hpost (post : Post) : post ∈ posts ↔ ∃ entry ∈ entries, entry.1 = post := by
    rw [← List.mem_map, (hperm.map Prod.fst).mem_iff, List.zipIdx_map_fst]
  have hflagged (h : ∃ post ∈ posts, post.featured) := by
    refine shown?_of_flagged hordered hshown ?_
    simpa [hpost] using h
  refine
    { cardsHtml := rfl
      perm := hperm.filter _
      lt_iff := lt_iff_comesBefore (hordered.filter _)
      featuredSlug := rfl
      featuredHtml := rfl
      mem := hperm.subset (mem_of_shown? hshown)
      of_flagged := fun h => by simpa only [hperm.mem_iff] using hflagged h
      of_not_flagged := fun h => ?_
      not_shown_iff := fun entry hentry => ?_ }
  · have hnone : ∀ entry ∈ entries, ¬ entry.1.featured := fun entry hentry =>
      h entry.1 ((hpost _).2 ⟨entry, hentry, rfl⟩)
    simpa only [hperm.mem_iff] using shown?_of_not_flagged hordered hshown hnone
  · rw [← hperm.mem_iff] at hentry
    simp only [List.mem_filter, ← hperm.mem_iff]
    constructor
    · rintro ⟨hne, hcard⟩
      have hfeatured : entry.1.featured := by simpa [hentry] using hcard
      obtain ⟨hfirst, hbefore⟩ := hflagged ⟨entry.1, (hpost _).2 ⟨entry, hentry, rfl⟩, hfeatured⟩
      exact ⟨hfeatured, shown, mem_of_shown? hshown, hfirst, hbefore entry hentry hfeatured hne⟩
    · rintro ⟨hfeatured, other, hother, hflag, hcomes⟩
      obtain ⟨-, hbefore⟩ := hflagged ⟨other.1, (hpost _).2 ⟨other, hother, rfl⟩, hflag⟩
      refine ⟨?_, by simp [hfeatured]⟩
      rintro rfl
      by_cases hsame : other = entry
      · exact not_comesBefore_self entry (hsame ▸ hcomes)
      · exact hcomes.asymm (hbefore other hother hflag hsame)

/-- **The layout of a generated index.** For posts, at least one, that all have a day: the index of
the posts with the newest first is generated, and it features the flagged post that comes before all
other flagged ones, or the one that comes before all others if none is flagged. Its cards are those
of the posts without a flag, one before another exactly if its day is later, or if it stands before
the other in the data and the days are the same. If no two posts have the same day, any order of the
posts in the data has the same index. -/
theorem exists_isLaidOut_generate (hposts : posts ≠ []) (hsorted : newestFirst posts = .ok sorted) :
    ∃ index shown cards, generate sorted = .ok index ∧ IsLaidOut posts shown cards index ∧
      ((posts.map day?).Nodup → ∀ other : List Post, other.Perm posts →
        ∃ sorted', newestFirst other = .ok sorted' ∧ generate sorted' = .ok index) := by
  obtain ⟨entries, hperm, hordered, rfl⟩ := exists_numbered_of_newestFirst hsorted
  obtain ⟨shown, hshown⟩ : ∃ shown, shown? entries = some shown := by
    have hentries : entries ≠ [] := by
      rintro rfl
      exact hposts (by simpa using hperm.nil_eq)
    obtain ⟨first, rest, rfl⟩ := List.exists_cons_of_ne_nil hentries
    exact Option.isSome_iff_exists.1 (by simp [shown?])
  exact ⟨_, shown, _, generate_map_fst hshown, isLaidOut_of_shown? hperm hordered hshown,
    fun hdays other hother => ⟨_, newestFirst_eq_of_perm hdays hother hsorted,
      generate_map_fst hshown⟩⟩

/-- Posts of two days, the last two of them flagged. The day is written in two ways. -/
def tiedPosts : List Post :=
  [{ slug := "a", title := "A", date := "2024-01-01", image := "i" },
    { slug := "b", title := "B", date := "2024-06-01T23:00:00Z", image := "i" },
    { slug := "c", title := "C", date := "2024-06-01", image := "i", featured := true },
    { slug := "d", title := "D", date := "2024-06-01", image := "i", featured := true }]

theorem exists_isLaidOut_generate_tiedPosts :
    (tiedPosts ≠ [] ∧ newestFirst tiedPosts = .ok (tiedPosts.drop 1 ++ tiedPosts.take 1) ∧
      ∃ index shown cards, generate (tiedPosts.drop 1 ++ tiedPosts.take 1) = .ok index ∧
        IsLaidOut tiedPosts shown cards index) ∧
    newestFirst (tiedPosts.take 2) = .ok (tiedPosts.take 2).reverse ∧
      ((tiedPosts.take 2).map day?).Nodup ∧
      ∃ index sorted, generate (tiedPosts.take 2).reverse = .ok index ∧
        newestFirst (tiedPosts.take 2).reverse = .ok sorted ∧ generate sorted = .ok index := by
  have hsorted : newestFirst tiedPosts = .ok (tiedPosts.drop 1 ++ tiedPosts.take 1) :=
    newestFirst_eq_of_numbered (tiedPosts.zipIdx.drop 1 ++ tiedPosts.zipIdx.take 1)
      (by decide) (by decide) (by decide)
  have hsorted' : newestFirst (tiedPosts.take 2) = .ok (tiedPosts.take 2).reverse :=
    newestFirst_eq_of_numbered (tiedPosts.take 2).zipIdx.reverse (by decide) (by decide) (by decide)
  have hdays : ((tiedPosts.take 2).map day?).Nodup := by decide
  obtain ⟨index, shown, cards, hindex, hlaid, -⟩ := exists_isLaidOut_generate (by decide) hsorted
  obtain ⟨index', -, -, hindex', -, hother⟩ := exists_isLaidOut_generate (by decide) hsorted'
  obtain ⟨sorted, hreversed, hgenerate⟩ := hother hdays _ (List.reverse_perm _)
  exact ⟨⟨by decide, hsorted, index, shown, cards, hindex, hlaid⟩, hsorted', hdays,
    index', sorted, hindex', hreversed, hgenerate⟩

end BlogIndex

end SiteWeave
