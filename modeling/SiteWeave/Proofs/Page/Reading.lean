import SiteWeave.Proofs.Page.Extension

/-!
# What reading takes from a page

A page that is not inert is read back with other segments than it was written with: the text from a
closed begin marker on, up to an end marker of its kind, becomes the interior of a region. So there
is less text outside the regions when it is read than when it was written. This sharpens the
statement that inert pages, and no others, are read back.

The proof follows the scan. In front of the first closed begin marker it reads the segments that are
there. Behind the end marker that closes it, a written page begins again.

## Main results

* `Page.exists_render_eq_of_endMarker`: behind an end marker, a written page begins.
* `Page.parse_render_eq_join_or_length_lt`: a page that is not read back as it was written loses
  text to the interiors of regions.
* `Page.plainText_sublist_parse_render_iff`: only inert pages keep their text outside the regions.
-/

namespace SiteWeave

open Text

namespace Page

variable {page : Page} {kind : RegionKind}

theorem HasFreeBodies.of_cons {segment : Segment} (h : HasFreeBodies (segment :: page)) :
    HasFreeBodies page :=
  fun kind body hmem => h kind body (List.mem_cons_of_mem _ hmem)

/-- An end marker in a text with a region behind it stands in front of the region, ends it, or
stands behind it. -/
theorem endMarker_cases {k : RegionKind} {front body behind before after : Text}
    (hbody : ¬ kind.endMarker <:+: body)
    (heq : front ++ ((Segment.region k body).render ++ behind) =
      before ++ kind.endMarker ++ after) :
    (∃ rest, front = before ++ kind.endMarker ++ rest ∧
        after = rest ++ ((Segment.region k body).render ++ behind)) ∨
      after = behind ∨ ∃ rest, behind = rest ++ kind.endMarker ++ after := by
  have htoken := kind.isToken_endMarker
  rw [Segment.render, List.append_assoc, List.append_assoc] at heq ⊢
  rcases (htoken.isSeam_beginMarker front k _).eq_or_eq heq with
    ⟨rest, hfront, hafter⟩ | ⟨_, heq, -⟩
  · exact Or.inl ⟨rest, hfront, hafter⟩
  rcases (htoken.beginMarker_isSeam k _).eq_or_eq heq with ⟨rest, hbegin, -⟩ | ⟨_, heq, -⟩
  · exact absurd ⟨_, rest, hbegin.symm⟩ (kind.not_endMarker_infix_beginMarker k)
  rcases (htoken.isSeam_endMarker body k _).eq_or_eq heq with ⟨rest, hin, -⟩ | ⟨_, heq, -⟩
  · exact absurd ⟨_, rest, hin.symm⟩ hbody
  rcases (htoken.endMarker_isSeam k _).eq_or_eq heq with ⟨rest, hend, hafter⟩ | ⟨rest, heq, -⟩
  · -- One end marker in another is all of it.
    obtain rfl : kind = k := RegionKind.endMarker_infix_endMarker_iff.1 ⟨_, rest, hend.symm⟩
    have hlen := congrArg List.length hend
    simp only [List.length_append] at hlen
    have hnil : rest = [] := List.length_eq_zero_iff.1 (by omega)
    rw [hnil, List.nil_append] at hafter
    exact Or.inr (Or.inl hafter)
  · exact Or.inr (Or.inr ⟨rest, heq⟩)

/-- What stands behind an end marker in a written page is a written page, with no more text outside
the regions than there was. -/
theorem exists_render_eq_of_endMarker (hfree : HasFreeBodies page) {front before after : Text}
    (heq : front ++ render page = before ++ kind.endMarker ++ after) :
    ∃ rest : Page, HasFreeBodies rest ∧ after = render rest ∧
      rest.plainText.length ≤ front.length + page.plainText.length := by
  induction page generalizing front before with
  | nil =>
    have hlen := congrArg List.length heq
    simp only [render_nil, List.length_append, List.length_nil] at hlen
    refine ⟨ofText after, ?_, (render_ofText after).symm, ?_⟩
    · exact fun k body hmem => absurd hmem Place.region_mem_ofText
    · rw [plainText_ofText]
      omega
  | cons segment page ih =>
    rw [render_cons] at heq
    cases segment with
    | text content =>
      rw [Segment.render, ← List.append_assoc] at heq
      obtain ⟨rest, hbodies, hafter, hle⟩ := ih hfree.of_cons heq
      refine ⟨rest, hbodies, hafter, hle.trans ?_⟩
      rw [plainText_cons_text, List.length_append, List.length_append, Nat.add_assoc]
    | region k body =>
      rw [plainText_cons_region]
      rcases endMarker_cases (hfree k body List.mem_cons_self kind).2 heq with
        ⟨rest, hfront, hafter⟩ | hafter | ⟨rest, hrest⟩
      · refine ⟨ofText rest ++ .region k body :: page, fun j old hmem => ?_,
          by rw [hafter, render_append, render_ofText, render_cons], ?_⟩
        · exact hfree j old ((List.mem_append.1 hmem).resolve_left Place.region_mem_ofText)
        · rw [plainText_append, plainText_ofText, plainText_cons_region, hfront]
          simp only [List.length_append]
          omega
      · exact ⟨page, hfree.of_cons, hafter, by omega⟩
      · obtain ⟨next, hbodies, hafter, hle⟩ :=
          ih hfree.of_cons ((List.nil_append (render page)).trans hrest)
        rw [List.length_nil] at hle
        exact ⟨next, hbodies, hafter, by omega⟩

/-- Where a text closes one of its begin markers with a text behind it, the next region begins in
the first text. -/
theorem exists_next?_of_closed {content behind : Text} {left right : Text}
    (hseam : ∀ k : RegionKind, IsSeam k.beginMarker content behind)
    (hcontent : content = left ++ kind.beginMarker ++ right)
    (hclosed : kind.endMarker <:+: right ++ behind) :
    ∃ m rest, RegionMatch.next? (content ++ behind) = some m ∧
      content = m.before ++ m.kind.beginMarker ++ rest ∧
      rest ++ behind = m.body ++ m.kind.endMarker ++ m.after := by
  have hsource : content ++ behind = left ++ kind.beginMarker ++ (right ++ behind) := by
    rw [hcontent, List.append_assoc]
  cases hkind : kind.match? (content ++ behind) with
  | none => exact absurd ⟨left, _, hsource, hclosed⟩ (RegionKind.match?_eq_none_iff.1 hkind)
  | some n =>
    cases hnext : RegionMatch.next? (content ++ behind) with
    | none =>
      rw [RegionMatch.next?_eq_none_iff.1 hnext kind] at hkind
      exact absurd hkind (by simp)
    | some m =>
      have heq := RegionMatch.eq_of_next? hnext
      rw [Segment.render, ← List.append_assoc, ← List.append_assoc, List.append_assoc,
        List.append_assoc] at heq
      rcases (hseam m.kind).eq_or_eq heq with ⟨rest, hbefore, hafter⟩ | ⟨rest, -, hbefore⟩
      · refine ⟨m, rest, rfl, hbefore, ?_⟩
        rw [← hafter]
        simp only [List.append_assoc]
      · -- The next region begins no later than the one of the closed begin marker.
        have hle := RegionMatch.length_le_of_next? hnext hkind
        have hfirst := RegionKind.length_le_of_match? hkind hsource
        have hpos := List.length_pos_iff.2 kind.isToken_beginMarker.ne_nil
        have hlen := congrArg List.length hbefore
        have hlen' := congrArg List.length hcontent
        simp only [List.length_append] at hlen hlen'
        omega

/-- Reading a region gives the region, and reading goes on behind it. -/
theorem parse_region_or_length_lt {body : Text} (content : Text)
    (hbody : ¬ kind.endMarker <:+: body)
    (hcontent : ∀ (k : RegionKind) (left right : Text), content = left ++ k.beginMarker ++ right →
      ¬ k.endMarker <:+: right ++ render (.region kind body :: page))
    (hpage : parse (render page) = page ∨
      (parse (render page)).plainText.length < page.plainText.length) :
    parse (content ++ render (.region kind body :: page)) =
        ofText content ++ .region kind body :: page ∨
      (parse (content ++ render (.region kind body :: page))).plainText.length <
        (ofText content ++ .region kind body :: page).plainText.length := by
  rw [render_cons] at hcontent ⊢
  rw [parse_of_next? (next?_append_region content hbody hcontent)]
  rcases hpage with heq | hlt
  · left
    rw [heq]
  · right
    simpa using hlt

theorem isSeam_render {token : Text} (htoken : IsToken token) (left : Text)
    (hhead : ∀ segment ∈ page.head?, segment.isText = false) : IsSeam token left (render page) := by
  cases page with
  | nil => exact IsSeam.nil_right token left
  | cons segment page =>
    cases segment with
    | text content => exact absurd (hhead _ rfl) (by simp [Segment.isText])
    | region kind body =>
      rw [render_cons, Segment.render, List.append_assoc, List.append_assoc]
      exact htoken.isSeam_beginMarker left kind _

/-- Where a text closes one of its begin markers, the text from there on is read as the interior of
a region. -/
theorem length_lt_of_closed {content left right : Text} (hfree : HasFreeBodies page)
    (hhead : ∀ segment ∈ page.head?, segment.isText = false)
    (hcontent : content = left ++ kind.beginMarker ++ right)
    (hclosed : kind.endMarker <:+: right ++ render page)
    (ih : ∀ rest : Page, (render rest).length < (content ++ render page).length →
      HasFreeBodies rest → (parse (render rest)).plainText.length ≤ rest.plainText.length) :
    (parse (content ++ render page)).plainText.length < content.length + page.plainText.length := by
  have hseam (k : RegionKind) : IsSeam k.beginMarker content (render page) :=
    isSeam_render k.isToken_beginMarker content hhead
  obtain ⟨m, tail, hnext, hbefore, hafter⟩ := exists_next?_of_closed hseam hcontent hclosed
  obtain ⟨rest, hrest, heq, hle⟩ := exists_render_eq_of_endMarker hfree hafter
  have hshort : (render rest).length < (content ++ render page).length := by
    rw [← heq]
    exact RegionMatch.length_lt_of_next? hnext
  have hpos := List.length_pos_iff.2 m.kind.isToken_beginMarker.ne_nil
  have hread := ih rest hshort hrest
  have hlen := congrArg List.length hbefore
  simp only [List.length_append] at hlen
  rw [parse_of_next? hnext, heq, plainText_append, plainText_ofText, plainText_cons_region,
    List.length_append]
  omega

/-- A text that closes none of its begin markers is read as it is. -/
theorem parse_open_or_length_lt {content : Text} (hapart : HasTextsApart (.text content :: page))
    (hfree : HasFreeBodies page)
    (hopen : ∀ (k : RegionKind) (left right : Text), content = left ++ k.beginMarker ++ right →
      ¬ k.endMarker <:+: right ++ render page)
    (ih : ∀ rest : Page, (render rest).length < (content ++ render page).length →
      HasTextsApart rest → HasFreeBodies rest → parse (render rest) = rest ∨
        (parse (render rest)).plainText.length < rest.plainText.length) :
    parse (content ++ render page) = .text content :: page ∨
      (parse (content ++ render page)).plainText.length <
        (plainText (.text content :: page)).length := by
  obtain ⟨hne, hhead, hpage⟩ := hasTextsApart_cons_text.1 hapart
  cases page with
  | nil =>
    exact Or.inl (parse_render_of_isCanonical _
      (isCanonical_cons_text.2 ⟨hne, hhead, hopen, isCanonical_nil⟩))
  | cons segment page =>
    cases segment with
    | text next => exact absurd (hhead _ rfl) (by simp [Segment.isText])
    | region kind body =>
      have hshort : (render page).length <
          (content ++ render (.region kind body :: page)).length := by
        have hpos := List.length_pos_iff.2 kind.isToken_beginMarker.ne_nil
        simp only [render_cons, Segment.render, List.length_append]
        omega
      have hread := ih page hshort (hasTextsApart_cons_region.1 hpage) hfree.of_cons
      have hbody := (hfree kind body List.mem_cons_self kind).2
      have hresult := parse_region_or_length_lt content hbody hopen hread
      rwa [ofText_of_ne_nil hne] at hresult

/-- A page with its texts apart is read back as it was written, or loses text to the interiors of
regions. The induction is on the length of the written page. -/
theorem parse_render_eq_or_length_lt (page : Page) (hapart : HasTextsApart page)
    (hfree : HasFreeBodies page) : parse (render page) = page ∨
      (parse (render page)).plainText.length < page.plainText.length := by
  induction hn : (render page).length using Nat.strong_induction_on generalizing page with
  | _ n ih =>
  subst hn
  have ihapart (rest : Page) (hshort : (render rest).length < (render page).length)
      (hrest : HasTextsApart rest) (hbodies : HasFreeBodies rest) :
      parse (render rest) = rest ∨
        (parse (render rest)).plainText.length < rest.plainText.length :=
    ih _ hshort rest hrest hbodies rfl
  have ihjoin (rest : Page) (hshort : (render rest).length < (render page).length)
      (hrest : HasFreeBodies rest) :
      (parse (render rest)).plainText.length ≤ rest.plainText.length := by
    have hbodies : HasFreeBodies (join rest) :=
      fun kind body hmem => hrest kind body (region_mem_join.1 hmem)
    have hread := ihapart (join rest) (by rwa [render_join]) (hasTextsApart_join rest) hbodies
    rw [render_join, plainText_join] at hread
    rcases hread with heq | hlt
    · rw [heq, plainText_join]
    · exact hlt.le
  cases page with
  | nil => exact Or.inl (parse_render_of_isCanonical [] isCanonical_nil)
  | cons segment page =>
    cases segment with
    | region kind body =>
      have hshort : (render page).length < (render (.region kind body :: page)).length := by
        have hpos := List.length_pos_iff.2 kind.isToken_beginMarker.ne_nil
        simp only [render_cons, Segment.render, List.length_append]
        omega
      have hpage := ihapart page hshort (hasTextsApart_cons_region.1 hapart) hfree.of_cons
      refine parse_region_or_length_lt [] (hfree kind body List.mem_cons_self kind).2 ?_ hpage
      intro k left right heq
      simp [k.isToken_beginMarker.ne_nil] at heq
    | text content =>
      rw [render_cons, Segment.render] at ihapart ihjoin ⊢
      by_cases hclosed : ∃ (k : RegionKind) (left right : Text),
          content = left ++ k.beginMarker ++ right ∧ k.endMarker <:+: right ++ render page
      · obtain ⟨k, left, right, hcontent, hend⟩ := hclosed
        right
        rw [plainText_cons_text, List.length_append]
        exact length_lt_of_closed hfree.of_cons (hasTextsApart_cons_text.1 hapart).2.1 hcontent
          hend ihjoin
      · exact parse_open_or_length_lt hapart hfree.of_cons (fun k left right hcontent hend =>
          hclosed ⟨k, left, right, hcontent, hend⟩) ihapart

/-- **A page that is not read back as it was written loses text.** What is read then has less text
outside the regions than what was written. -/
theorem parse_render_eq_join_or_length_lt (hfree : HasFreeBodies page) :
    parse (render page) = join page ∨
      (parse (render page)).plainText.length < page.plainText.length := by
  have hbodies : HasFreeBodies (join page) :=
    fun kind body hmem => hfree kind body (region_mem_join.1 hmem)
  have hread := parse_render_eq_or_length_lt (join page) (hasTextsApart_join page) hbodies
  rwa [render_join, plainText_join] at hread

/-- The text outside the regions is read as such exactly when the page is inert. -/
theorem plainText_sublist_parse_render_iff (hfree : HasFreeBodies page) :
    page.plainText.Sublist (parse (render page)).plainText ↔ page.IsInert := by
  rw [← parse_render_eq_join_iff hfree]
  constructor
  · intro hsublist
    exact (parse_render_eq_join_or_length_lt hfree).resolve_right
      (Nat.not_lt_of_le hsublist.length_le)
  · intro heq
    rw [heq, plainText_join]

end Page

end SiteWeave
