import Mathlib.Data.List.Perm.Basic
import SiteWeave.Post.Collection

/-!
# The posts of a site

Posts are accepted if their slugs differ and their texts of dates are dates. They come newest first,
and posts of one day keep the order of the data; there is only one such order. What is reported of
other posts is fixed as well: the first slug that is repeated, else the first text that is no date.

## Main definitions

* `Date.instLE`: the order of the calendar.
* `Post.IsAsNewAs`, `Post.IsNewestFirst`: the order in which posts are kept.
* `Post.Collected`: what becomes of the posts of the data.

## Main results

* `Date.rank_le_rank_iff`: the rank of a date grows with the date.
* `Post.IsNewestFirst.eq`: posts have one order only.
* `Post.newestFirst_eq_ok_iff`, `Post.newestFirst_eq_error_iff`: when posts can be ordered.
* `Post.repeatedSlug?_eq_some_iff`: the first slug that is repeated.
* `Post.collect_eq_iff`: what becomes of the posts of the data.
* `Post.find?_slug`: a post is found by its slug.
-/

namespace SiteWeave

namespace Date

/-- A date is not after another: its year, then its month, then its day decides. -/
instance instLE : LE Date :=
  ⟨fun a b => a.year < b.year ∨
    a.year = b.year ∧ (a.month < b.month ∨ a.month = b.month ∧ a.day ≤ b.day)⟩

theorem le_iff {a b : Date} : a ≤ b ↔ a.year < b.year ∨
    a.year = b.year ∧ (a.month < b.month ∨ a.month = b.month ∧ a.day ≤ b.day) :=
  Iff.rfl

/-- **The rank of a date grows with the date.** -/
theorem rank_le_rank_iff {a b : Date} : a.rank ≤ b.rank ↔ a ≤ b := by
  obtain ⟨year, month, day, -, hmonth, hday⟩ := a
  obtain ⟨year', month', day', -, hmonth', hday'⟩ := b
  have hbound := daysInMonth_le year month
  have hbound' := daysInMonth_le year' month'
  simp only [le_iff, rank]
  omega

theorem le_antisymm {a b : Date} (h : a ≤ b) (h' : b ≤ a) : a = b :=
  rank_injective (Int.le_antisymm (rank_le_rank_iff.2 h) (rank_le_rank_iff.2 h'))

end Date

namespace Post

variable {posts sorted other : List Post} {error : PostsError}

/-! ### The order of posts -/

/-- A post is not older than another. -/
def IsAsNewAs (post behind : Post) : Prop :=
  ∀ day next, post.day? = some day → behind.day? = some next → next ≤ day

/-- The posts `sorted` are `posts` with the newest first, and posts of one day keep their order. -/
structure IsNewestFirst (posts sorted : List Post) : Prop where
  perm : sorted.Perm posts
  newest : sorted.Pairwise IsAsNewAs
  stable : ∀ day, sorted.filter (·.day? = some day) = posts.filter (·.day? = some day)

/-- The first post is the newest one. -/
theorem le_of_mem_cons {head post : Post} {day next : Date}
    (h : (head :: posts).Pairwise IsAsNewAs) (hmem : post ∈ head :: posts)
    (hday : head.day? = some day) (hnext : post.day? = some next) : next ≤ day := by
  rcases List.mem_cons.1 hmem with rfl | hmem
  · rw [Option.some.inj (hday.symm.trans hnext)]
    exact Date.rank_le_rank_iff.1 (Int.le_refl _)
  · exact (List.pairwise_cons.1 h).1 post hmem day next hday hnext

/-- Among lists that come newest first, the posts of each day fix the list. -/
theorem eq_of_filter_eq (hdated : ∀ post ∈ sorted, post.day?.isSome)
    (hsorted : sorted.Pairwise IsAsNewAs) (hother : other.Pairwise IsAsNewAs)
    (hperm : sorted.Perm other)
    (hstable : ∀ day, sorted.filter (·.day? = some day) = other.filter (·.day? = some day)) :
    sorted = other := by
  induction sorted generalizing other with
  | nil => exact hperm.nil_eq
  | cons first rest ih =>
    obtain _ | ⟨head, tail⟩ := other
    · exact absurd hperm.symm.nil_eq (by simp)
    have hmem : first ∈ head :: tail := hperm.subset List.mem_cons_self
    have hmem' : head ∈ first :: rest := hperm.symm.subset List.mem_cons_self
    obtain ⟨day, hday⟩ := Option.isSome_iff_exists.1 (hdated first List.mem_cons_self)
    obtain ⟨day', hday'⟩ := Option.isSome_iff_exists.1 (hdated head hmem')
    obtain rfl : day = day' :=
      Date.le_antisymm (le_of_mem_cons hother hmem hday' hday)
        (le_of_mem_cons hsorted hmem' hday hday')
    obtain rfl : first = head := by
      have hfilter := hstable day
      simp only [List.filter_cons, hday, hday', decide_true, if_true] at hfilter
      exact (List.cons.inj hfilter).1
    rw [ih (fun post hpost => hdated post (List.mem_cons_of_mem _ hpost))
      (List.pairwise_cons.1 hsorted).2 (List.pairwise_cons.1 hother).2 hperm.cons_inv
      fun next => ?_]
    have hfilter := hstable next
    simp only [List.filter_cons] at hfilter
    split at hfilter
    · exact (List.cons.inj hfilter).2
    · exact hfilter

/-- **Posts have one order only.** -/
theorem IsNewestFirst.eq (hdated : ∀ post ∈ posts, post.day?.isSome)
    (h : IsNewestFirst posts sorted) (h' : IsNewestFirst posts other) : sorted = other :=
  eq_of_filter_eq (fun post hmem => hdated post (h.perm.subset hmem)) h.newest h'.newest
    (h.perm.trans h'.perm.symm) fun day => (h.stable day).trans (h'.stable day).symm

theorem dayOf_eq_ok_iff {post : Post} {day : Date} :
    post.dayOf = .ok day ↔ post.day? = some day := by
  rw [dayOf]
  cases post.day? <;> simp

theorem dayOf_eq_error_iff {post : Post} : post.dayOf = .error error ↔
    post.day? = none ∧ error = .invalidDate post.slug post.date := by
  rw [dayOf]
  cases post.day? <;> simp [eq_comm]

theorem dated_cons (post : Post) (posts : List Post) : dated (post :: posts) =
    match post.dayOf with
    | .error error => .error error
    | .ok day => (dated posts).map ((day, post) :: ·) := by
  rw [dated]
  cases post.dayOf with
  | error error => rfl
  | ok day => cases dated posts <;> rfl

/-- All posts have a date if one is found for each of them. -/
theorem dated_eq_ok_iff {pairs : List (Date × Post)} : dated posts = .ok pairs ↔
    pairs.map Prod.snd = posts ∧ ∀ pair ∈ pairs, pair.2.day? = some pair.1 := by
  induction posts generalizing pairs with
  | nil =>
    rw [dated, Except.ok.injEq, List.map_eq_nil_iff]
    exact ⟨fun h => ⟨h.symm, by simp [← h]⟩, fun h => h.1.symm⟩
  | cons post posts ih =>
    rw [dated_cons]
    cases hday : post.dayOf with
    | error error =>
      refine iff_of_false (by simp) ?_
      rintro ⟨hmap, hpairs⟩
      obtain ⟨⟨day, post⟩, rest, rfl, rfl, -⟩ := List.map_eq_cons_iff.1 hmap
      exact absurd (hpairs _ List.mem_cons_self) (by simp [(dayOf_eq_error_iff.1 hday).1])
    | ok day =>
      rw [dayOf_eq_ok_iff] at hday
      constructor
      · intro h
        cases hrest : dated posts with
        | error error => simp [hrest, Except.map] at h
        | ok rest =>
        obtain rfl : (day, post) :: rest = pairs := by simpa [hrest, Except.map] using h
        obtain ⟨hmap, hpairs⟩ := ih.1 hrest
        refine ⟨by rw [List.map_cons, hmap], fun pair hmem => ?_⟩
        rcases List.mem_cons.1 hmem with rfl | hmem
        · exact hday
        · exact hpairs pair hmem
      · rintro ⟨hmap, hpairs⟩
        obtain ⟨⟨day', post'⟩, rest, rfl, rfl, hrest⟩ := List.map_eq_cons_iff.1 hmap
        obtain rfl : day' = day :=
          Option.some.inj ((hpairs _ List.mem_cons_self).symm.trans hday)
        rw [ih.2 ⟨hrest, fun pair hmem => hpairs pair (List.mem_cons_of_mem _ hmem)⟩]
        rfl

/-- What is reported of posts without a date: the first of them. -/
theorem dated_eq_error_iff : dated posts = .error error ↔ ∃ front post back,
    posts = front ++ post :: back ∧ (∀ earlier ∈ front, earlier.day?.isSome) ∧
      post.day? = none ∧ error = .invalidDate post.slug post.date := by
  induction posts with
  | nil => simp [dated]
  | cons post posts ih =>
    rw [dated_cons]
    cases hday : post.dayOf with
    | error error' =>
      obtain ⟨hnone, rfl⟩ := dayOf_eq_error_iff.1 hday
      constructor
      · rintro ⟨⟩
        exact ⟨[], post, posts, rfl, by simp, hnone, rfl⟩
      · rintro ⟨_ | ⟨head, front⟩, found, back, hposts, hfront, hfound, rfl⟩
        · obtain ⟨rfl, -⟩ := List.cons.inj hposts
          rfl
        · obtain ⟨rfl, -⟩ := List.cons.inj hposts
          exact absurd (hfront _ List.mem_cons_self) (by simp [hnone])
    | ok day =>
      rw [dayOf_eq_ok_iff] at hday
      have hmap : (dated posts).map ((day, post) :: ·) = .error error ↔
          dated posts = .error error := by
        cases dated posts <;> simp [Except.map]
      refine hmap.trans (ih.trans ⟨?_, ?_⟩)
      · rintro ⟨front, found, back, rfl, hfront, hfound⟩
        refine ⟨post :: front, found, back, rfl, fun earlier hmem => ?_, hfound⟩
        rcases List.mem_cons.1 hmem with rfl | hmem
        · simp [hday]
        · exact hfront earlier hmem
      · rintro ⟨_ | ⟨head, front⟩, found, back, hposts, hfront, hfound, herror⟩
        · obtain ⟨rfl, -⟩ := List.cons.inj hposts
          exact absurd hfound (by simp [hday])
        · obtain ⟨-, rfl⟩ := List.cons.inj hposts
          exact ⟨front, found, back, rfl,
            fun earlier hmem => hfront earlier (List.mem_cons_of_mem _ hmem), hfound, herror⟩

theorem newestFirst_of_dated {pairs : List (Date × Post)} (h : dated posts = .ok pairs) :
    newestFirst posts =
      .ok ((pairs.mergeSort fun a b => decide (b.1.rank ≤ a.1.rank)).map Prod.snd) := by
  rw [newestFirst, h]
  rfl

/-- Sorting pairs by their dates gives their posts in order. -/
theorem isNewestFirst_mergeSort {pairs : List (Date × Post)}
    (h : ∀ pair ∈ pairs, pair.2.day? = some pair.1) :
    IsNewestFirst (pairs.map Prod.snd)
      ((pairs.mergeSort fun a b => decide (b.1.rank ≤ a.1.rank)).map Prod.snd) := by
  set le : Date × Post → Date × Post → Bool := fun a b => decide (b.1.rank ≤ a.1.rank) with hle
  have htrans : ∀ a b c, le a b → le b c → le a c := by
    intro a b c hab hbc
    simp only [hle, decide_eq_true_eq] at hab hbc ⊢
    exact Int.le_trans hbc hab
  have htotal : ∀ a b, le a b || le b a := by
    intro a b
    simp only [hle, Bool.or_eq_true, decide_eq_true_eq]
    exact Int.le_total _ _
  have hperm := List.mergeSort_perm pairs le
  have hday : ∀ pair ∈ pairs.mergeSort le, pair.2.day? = some pair.1 :=
    fun pair hmem => h pair (hperm.subset hmem)
  refine ⟨hperm.map _, ?_, fun day => ?_⟩
  · rw [List.pairwise_map]
    refine (List.pairwise_mergeSort htrans htotal pairs).imp_of_mem ?_
    rintro a b ha hb hab day next hsome hnext
    obtain rfl := Option.some.inj ((hday a ha).symm.trans hsome)
    obtain rfl := Option.some.inj ((hday b hb).symm.trans hnext)
    exact Date.rank_le_rank_iff.1 (of_decide_eq_true hab)
  · -- The pairs of one day are in order, so that sorting keeps them as they are.
    have hkept : (pairs.filter (·.2.day? = some day)).Sublist
        ((pairs.mergeSort le).filter (·.2.day? = some day)) := by
      have hsub : (pairs.filter (·.2.day? = some day)).Sublist (pairs.mergeSort le) := by
        refine List.sublist_mergeSort htrans htotal ?_ List.filter_sublist
        refine List.pairwise_of_forall_mem_list fun a ha b hb => ?_
        obtain ⟨ha, hsome⟩ := List.mem_filter.1 ha
        obtain ⟨hb, hnext⟩ := List.mem_filter.1 hb
        have hab : b.1 = a.1 := Option.some.inj
          ((h b hb).symm.trans ((of_decide_eq_true hnext).trans
            ((of_decide_eq_true hsome).symm.trans (h a ha))))
        exact decide_eq_true (Int.le_of_eq (by rw [hab]))
      simpa [List.filter_filter] using hsub.filter (·.2.day? = some day)
    have heq := hkept.eq_of_length ((hperm.filter _).length_eq).symm
    simp only [List.filter_map]
    exact congrArg (List.map Prod.snd) heq.symm

/-- **Posts can be ordered if they have dates,** and there is one order only. -/
theorem newestFirst_eq_ok_iff : newestFirst posts = .ok sorted ↔
    (∀ post ∈ posts, post.day?.isSome) ∧ IsNewestFirst posts sorted := by
  constructor
  · intro h
    cases hpairs : dated posts with
    | error error => simp [newestFirst, hpairs, bind, Except.bind] at h
    | ok pairs =>
      obtain rfl := Except.ok.inj ((newestFirst_of_dated hpairs).symm.trans h)
      obtain ⟨rfl, hday⟩ := dated_eq_ok_iff.1 hpairs
      refine ⟨fun post hmem => ?_, isNewestFirst_mergeSort hday⟩
      obtain ⟨pair, hpair, rfl⟩ := List.mem_map.1 hmem
      simp [hday pair hpair]
  · rintro ⟨hdated, hsorted⟩
    cases hpairs : dated posts with
    | error error =>
      obtain ⟨front, post, back, rfl, -, hnone, -⟩ := dated_eq_error_iff.1 hpairs
      exact absurd (hdated post (by simp)) (by simp [hnone])
    | ok pairs =>
      obtain ⟨rfl, hday⟩ := dated_eq_ok_iff.1 hpairs
      rw [newestFirst_of_dated hpairs, (isNewestFirst_mergeSort hday).eq hdated hsorted]

/-- What is reported of posts that cannot be ordered. -/
theorem newestFirst_eq_error_iff : newestFirst posts = .error error ↔ ∃ front post back,
    posts = front ++ post :: back ∧ (∀ earlier ∈ front, earlier.day?.isSome) ∧
      post.day? = none ∧ error = .invalidDate post.slug post.date := by
  rw [← dated_eq_error_iff, newestFirst]
  cases dated posts <;> simp [bind, Except.bind, pure, Except.pure]

/-! ### Slugs -/

/-- No slug is repeated. -/
theorem repeatedSlug?_eq_none_iff {seen : List String} : repeatedSlug? seen posts = none ↔
    (posts.map slug).Nodup ∧ ∀ post ∈ posts, post.slug ∉ seen := by
  induction posts generalizing seen with
  | nil => simp [repeatedSlug?]
  | cons post posts ih =>
    rw [repeatedSlug?]
    split
    · next hseen => simp_all
    · next hseen =>
      rw [ih]
      simp only [List.map_cons, List.nodup_cons, List.mem_map, List.mem_cons, not_or,
        List.contains_iff_mem] at hseen ⊢
      grind

/-- **The first slug that is repeated:** the posts before it have different slugs. -/
theorem repeatedSlug?_eq_some_iff {seen : List String} {repeated : String} :
    repeatedSlug? seen posts = some repeated ↔ ∃ front post back,
      posts = front ++ post :: back ∧ repeatedSlug? seen front = none ∧
        (post.slug ∈ seen ∨ post.slug ∈ front.map slug) ∧ post.slug = repeated := by
  induction posts generalizing seen with
  | nil => simp [repeatedSlug?]
  | cons post posts ih =>
    rw [repeatedSlug?]
    split
    · next hseen =>
      rw [List.contains_iff_mem] at hseen
      constructor
      · rintro ⟨⟩
        exact ⟨[], post, posts, rfl, rfl, .inl hseen, rfl⟩
      · rintro ⟨_ | ⟨head, front⟩, found, back, hposts, hfront, -, rfl⟩
        · obtain ⟨rfl, -⟩ := List.cons.inj hposts
          rfl
        · obtain ⟨rfl, -⟩ := List.cons.inj hposts
          exact absurd hseen ((repeatedSlug?_eq_none_iff.1 hfront).2 _ List.mem_cons_self)
    · next hseen =>
      rw [ih]
      constructor
      · rintro ⟨front, found, back, rfl, hfront, hfound, rfl⟩
        refine ⟨post :: front, found, back, rfl, by rw [repeatedSlug?, if_neg hseen, hfront],
          ?_, rfl⟩
        simp only [List.mem_cons, List.map_cons] at hfound ⊢
        tauto
      · rintro ⟨_ | ⟨head, front⟩, found, back, hposts, hfront, hfound, rfl⟩
        · obtain ⟨rfl, -⟩ := List.cons.inj hposts
          simp_all
        · obtain ⟨rfl, rfl⟩ := List.cons.inj hposts
          rw [repeatedSlug?, if_neg hseen] at hfront
          refine ⟨front, found, back, rfl, hfront, ?_, rfl⟩
          simp only [List.mem_cons, List.map_cons] at hfound ⊢
          tauto

/-- A post is found by its slug if slugs differ. -/
theorem find?_slug (h : (posts.map slug).Nodup) {post : Post} (hmem : post ∈ posts) :
    find? post.slug posts = some post := by
  obtain ⟨front, back, rfl⟩ := List.append_of_mem hmem
  rw [find?, List.find?_eq_some_iff_append]
  refine ⟨by simp, front, back, rfl, fun earlier hearlier => ?_⟩
  have hne : earlier.slug ≠ post.slug := by
    rw [List.map_append, List.nodup_append] at h
    exact h.2.2 _ (List.mem_map_of_mem hearlier) _ (by simp)
  simp [hne]

/-! ### The posts of the data -/

/-- What becomes of the posts of the data. -/
inductive Collected (posts : List Post) : Except PostsError (List Post) → Prop
  /-- A slug is repeated, for the first time by `post`; some posts may be without a date. -/
  | repeated (front back : List Post) (post : Post) (hposts : posts = front ++ post :: back)
    (hfront : (front.map slug).Nodup) (hrepeated : post.slug ∈ front.map slug) :
    Collected posts (.error (.duplicateSlug post.slug))
  /-- All slugs differ, and `post` is the first that is without a date. -/
  | undated (front back : List Post) (post : Post) (hslugs : (posts.map slug).Nodup)
    (hposts : posts = front ++ post :: back) (hfront : ∀ earlier ∈ front, earlier.day?.isSome)
    (hpost : post.day? = none) : Collected posts (.error (.invalidDate post.slug post.date))
  /-- All slugs differ, and all posts have a date. -/
  | kept (sorted : List Post) (hslugs : (posts.map slug).Nodup)
    (hdated : ∀ post ∈ posts, post.day?.isSome) (hsorted : IsNewestFirst posts sorted) :
    Collected posts (.ok sorted)

/-- **What becomes of the posts of the data.** -/
theorem collect_eq_iff {result : Except PostsError (List Post)} :
    collect posts = result ↔ Collected posts result := by
  constructor
  · rintro rfl
    rw [collect]
    cases hslug : repeatedSlug? [] posts with
    | some repeated =>
      obtain ⟨front, post, back, hposts, hfront, hrepeated, rfl⟩ :=
        repeatedSlug?_eq_some_iff.1 hslug
      exact .repeated front back post hposts (repeatedSlug?_eq_none_iff.1 hfront).1
        (by simpa using hrepeated)
    | none =>
      have hslugs := (repeatedSlug?_eq_none_iff.1 hslug).1
      cases hsorted : newestFirst posts with
      | error error =>
        obtain ⟨front, post, back, hposts, hfront, hpost, rfl⟩ :=
          newestFirst_eq_error_iff.1 hsorted
        exact .undated front back post hslugs hposts hfront hpost
      | ok sorted =>
        obtain ⟨hdated, hnewest⟩ := newestFirst_eq_ok_iff.1 hsorted
        exact .kept sorted hslugs hdated hnewest
  · have hnone (h : (posts.map slug).Nodup) : repeatedSlug? [] posts = none :=
      repeatedSlug?_eq_none_iff.2 ⟨h, by simp⟩
    rintro (⟨front, back, post, hposts, hfront, hrepeated⟩ |
      ⟨front, back, post, hslugs, hposts, hfront, hpost⟩ | ⟨sorted, hslugs, hdated, hsorted⟩)
    · have hslug : repeatedSlug? [] posts = some post.slug :=
        repeatedSlug?_eq_some_iff.2 ⟨front, post, back, hposts,
          repeatedSlug?_eq_none_iff.2 ⟨hfront, by simp⟩, .inr hrepeated, rfl⟩
      simp only [collect, hslug]
    · simp only [collect, hnone hslugs]
      exact newestFirst_eq_error_iff.2 ⟨front, post, back, hposts, hfront, hpost, rfl⟩
    · simp only [collect, hnone hslugs]
      exact newestFirst_eq_ok_iff.2 ⟨hdated, hsorted⟩

end Post

end SiteWeave
