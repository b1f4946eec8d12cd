import SiteWeave.Proofs.BlogIndex.Layout
import SiteWeave.Proofs.Calendar.Timestamp

/-!
# The two forms of a date in the data

Posts are ordered and shown by their days alone. So a post may say the time of day as well: neither
its place among the posts nor the date that is shown changes, at any time of that day and with any
offset from universal time.

## Main definitions

* `Post.redated`: a post with a timestamp as its date.

## Main results

* `Post.newestFirst_replace`: the order of posts does not tell posts of one day apart.
* `Post.newestFirst_redated`: a date and a timestamp of that day are interchangeable.
-/

namespace SiteWeave

namespace Post

variable {front back sorted : List Post} {post other : Post} {day : Date}

/-- The post with a timestamp as its date. -/
def redated (post : Post) (time : Timestamp) : Post :=
  { post with date := String.ofList time.text }

theorem day?_of_date_eq_iso (hyear : 0 ≤ day.year ∧ day.year ≤ 9999) (hdate : post.date = day.iso) :
    post.day? = some day := by
  rw [day?, hdate, Date.ofText?_iso hyear]

theorem day?_redated (post : Post) (time : Timestamp) :
    (post.redated time).day? = some time.date := by
  rw [day?, redated, String.toList_ofList, Date.ofText?_timestamp]

theorem displayDate_redated {time : Timestamp} (hday : post.day? = some time.date) :
    (post.redated time).displayDate = post.displayDate := by
  rw [displayDate, displayDate, day?_redated, hday, redated]
  cases post.dateFormatted <;> rfl

/-- **The order of posts does not tell posts of one day apart.** The other post stands behind the
same posts of that day. -/
theorem newestFirst_replace (hday : post.day? = some day) (hother : other.day? = some day)
    (hsorted : newestFirst (front ++ post :: back) = .ok sorted) :
    ∃ ahead behind, sorted = ahead ++ post :: behind ∧
      ahead.filter (·.day? = some day) = front.filter (·.day? = some day) ∧
      newestFirst (front ++ other :: back) = .ok (ahead ++ other :: behind) := by
  obtain ⟨hdated, hperm, hnewest, hstable⟩ := newestFirst_eq_ok_iff.1 hsorted
  have hsame : sorted.filter (·.day? = some day) =
      front.filter (·.day? = some day) ++ post :: back.filter (·.day? = some day) := by
    rw [hstable, List.filter_append, List.filter_cons_of_pos (by simpa using hday)]
  obtain ⟨ahead, rest, rfl, hahead, hrest⟩ := List.filter_eq_append_iff.1 hsame
  obtain ⟨between, behind, rfl, hbetween, -, hbehind⟩ := List.filter_eq_cons_iff.1 hrest
  have hahead : (ahead ++ between).filter (·.day? = some day) =
      front.filter (·.day? = some day) := by
    rw [List.filter_append, hahead, List.filter_eq_nil_iff.2 hbetween, List.append_nil]
  rw [← List.append_assoc] at hperm hnewest hstable ⊢
  generalize ahead ++ between = ahead at hperm hnewest hstable hahead
  -- Both posts have the same day, so what is said of days only is said of both lists.
  have hdays (front back : List Post) :
      (front ++ post :: back).map day? = (front ++ other :: back).map day? := by
    simp only [List.map_append, List.map_cons, hday, hother]
  refine ⟨ahead, behind, rfl, hahead, newestFirst_eq_ok_iff.2 ⟨?_, ?_, ?_, fun next => ?_⟩⟩
  · have hall := List.forall_mem_map (f := day?) (P := fun day? => day?.isSome).2 hdated
    rw [hdays] at hall
    exact List.forall_mem_map.1 hall
  · have hrest := (List.perm_middle.symm.trans (hperm.trans List.perm_middle)).cons_inv
    exact List.perm_middle.trans ((hrest.cons other).trans List.perm_middle.symm)
  · let R (day? next? : Option Date) : Prop :=
      ∀ day next, day? = some day → next? = some next → next ≤ day
    have hmap := List.pairwise_map (f := day?) (R := R).2 hnewest
    rw [hdays] at hmap
    exact (List.pairwise_map (f := day?) (R := R)).1 hmap
  · rw [List.filter_append, List.filter_append]
    by_cases hnext : next = day
    · subst hnext
      rw [List.filter_cons_of_pos (by simpa using hother),
        List.filter_cons_of_pos (by simpa using hother), hahead, hbehind]
    · have hkept := hstable next
      have hne : some day ≠ some next := fun h => hnext (Option.some.inj h).symm
      rw [List.filter_append, List.filter_append,
        List.filter_cons_of_neg (by simpa [hday] using hne),
        List.filter_cons_of_neg (by simpa [hday] using hne)] at hkept
      rw [List.filter_cons_of_neg (by simpa [hother] using hne),
        List.filter_cons_of_neg (by simpa [hother] using hne), hkept]

/-- **A date and a timestamp of that day are interchangeable.** In any posts that can be ordered, let
a post have a date of four digits, and let it have a timestamp of that day instead, with any time of
day, any fraction and any offset. The day of the post and the date that is shown stay the same, and
the posts have the same order: only this one post is another in it, behind the same posts of its day.
-/
theorem newestFirst_redated (time : Timestamp) (hdate : post.date = time.date.iso)
    (hsorted : newestFirst (front ++ post :: back) = .ok sorted) :
    post.day? = some time.date ∧ (post.redated time).day? = some time.date ∧
      (post.redated time).displayDate = post.displayDate ∧
      ∃ ahead behind, sorted = ahead ++ post :: behind ∧
        ahead.filter (·.day? = some time.date) = front.filter (·.day? = some time.date) ∧
        newestFirst (front ++ post.redated time :: back) =
          .ok (ahead ++ post.redated time :: behind) := by
  have hday := day?_of_date_eq_iso time.fourDigits hdate
  exact ⟨hday, day?_redated post time, displayDate_redated hday,
    newestFirst_replace hday (day?_redated post time) hsorted⟩

/-! ### A leap day -/

/-- A moment of a leap day that belongs to the next month of universal time. -/
def leapTime : Timestamp where
  date := ⟨2024, 2, 29, by decide⟩
  mark := 'T'
  hour := 23
  minute := 30
  second := 60
  fraction := ['5']
  offset := .signed '-' 5 0 rfl (by decide) (by decide)
  fourDigits := by decide
  isMark := .inl rfl
  hour_le := by decide
  minute_le := by decide
  second_le := by decide
  isFraction := List.forall_mem_singleton.2 rfl

/-- A post of the leap day. -/
def leapPost : Post :=
  { slug := "leap", title := "Leap", date := "2024-02-29", image := "i" }

/-- A post of that day and one of the next. -/
def leapNeighbours : List Post :=
  [{ slug := "a", title := "A", date := "2024-02-29", image := "i" },
    { slug := "b", title := "B", date := "2024-03-01", image := "i" }]

theorem newestFirst_redated_leapPost :
    (leapPost.redated leapTime).date = "2024-02-29T23:30:60.5-05:00" ∧
    leapPost.date = leapTime.date.iso ∧
    newestFirst (leapNeighbours.take 1 ++ leapPost :: leapNeighbours.drop 1) =
      .ok (leapNeighbours.reverse ++ [leapPost]) ∧
    (leapPost.redated leapTime).displayDate = leapPost.displayDate ∧
    ∃ ahead behind, leapNeighbours.reverse ++ [leapPost] = ahead ++ leapPost :: behind ∧
      newestFirst (leapNeighbours.take 1 ++ leapPost.redated leapTime :: leapNeighbours.drop 1) =
        .ok (ahead ++ leapPost.redated leapTime :: behind) := by
  have hdate : leapPost.date = leapTime.date.iso := by decide +kernel
  have hsorted : newestFirst (leapNeighbours.take 1 ++ leapPost :: leapNeighbours.drop 1) =
      .ok (leapNeighbours.reverse ++ [leapPost]) :=
    newestFirst_eq_of_numbered
      [(leapNeighbours[1], 2), (leapNeighbours[0], 0), (leapPost, 1)]
      (by decide) (by decide) (by decide)
  obtain ⟨-, -, hshown, ahead, behind, hplace, -, hnewest⟩ :=
    newestFirst_redated leapTime hdate hsorted
  exact ⟨by decide +kernel, hdate, hsorted, hshown, ahead, behind, hplace, hnewest⟩

end Post

end SiteWeave
