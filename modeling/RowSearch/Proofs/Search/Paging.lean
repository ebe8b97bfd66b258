import RowSearch.Proofs.Plan.Window
import RowSearch.Proofs.Search.Window
import RowSearch.Search.Basic

/-! # Paged searches

The page of a request plays no part in its plan. So all searches of a request that differ in page,
size and projection cut or count the same matching rows, and the answers of the four projections
and the count agree. Pages of one size taken from the first on show the rows of the search that
asks for no page.
-/
namespace RowSearch

def Request.unpaged (r : Request) : Request :=
  { r with page? := none, pageSize? := none, offset := 0, limit := 0 }

def Request.onPage (r : Request) (number size : UInt64) : Request :=
  { r with page? := some number, pageSize? := some size }

theorem Request.unpaged_onPage (r : Request) (number size : UInt64) :
    (r.onPage number size).unpaged = r.unpaged := rfl

namespace Search
variable {config : Config} {registry : Registry} {t : Table} {r : Request}

theorem ofRequest_unpaged (r : Request) :
    Criteria.ofRequest r.unpaged = (Criteria.ofRequest r).map Criteria.unpaged := by
  simp only [Criteria.ofRequest, Request.unpaged]
  cases Criteria.wheresOf r.wheres with
  | error e => rfl
  | ok wheres => cases Criteria.havingOf r.having <;> rfl

theorem ofRequest_window {c : Criteria} (h : Criteria.ofRequest r = .ok c) :
    c.offset = r.offset ∧ c.limit = r.limit := by
  obtain ⟨wheres, _, h⟩ := bind_eq_ok_iff.mp h
  obtain ⟨having, _, h⟩ := bind_eq_ok_iff.mp h
  cases h
  exact ⟨rfl, rfl⟩

/-- The query of a request is the query of the request without a page, cut by its window. -/
theorem query_unpaged (r : Request) (m : Model) (registry : Registry) :
    query r m registry = (query r.unpaged m registry).map (·.cut r.offset r.limit) := by
  rw [query, query, plan, plan, ofRequest_unpaged]
  cases h : Criteria.ofRequest r with
  | error e => rfl
  | ok c =>
    obtain ⟨hoffset, hlimit⟩ := ofRequest_window h
    change (Plan.build c m registry >>= fun p => Query.ofCalls p.calls) =
      (Plan.build c.unpaged m registry >>= fun p => Query.ofCalls p.calls).map _
    rw [Plan.build_unpaged c]
    cases Plan.build c.unpaged m registry with
    | error e => rfl
    | ok p =>
      rw [← hoffset, ← hlimit]
      exact Plan.ofCalls_window p c.offset c.limit

theorem showsAll_unpaged {m : Model} {q : Query} (h : query r.unpaged m registry = .ok q) :
    q.ShowsAll := by
  rw [query, plan, ofRequest_unpaged] at h
  obtain ⟨p, hp, hq⟩ := bind_eq_ok_iff.mp h
  obtain ⟨c, hc, hp⟩ := bind_eq_ok_iff.mp hp
  obtain ⟨criteria, _, rfl⟩ := map_eq_ok_iff.mp hc
  exact Plan.showsAll_of_unpaged hp hq

def matching (registry : Registry) (t : Table) (r : Request) : Except SearchError (List Json) := do
  (← query r t.model registry).matching t.rows

theorem matching_unpaged (registry : Registry) (t : Table) (r : Request) :
    matching registry t r.unpaged = matching registry t r := by
  rw [matching, matching, query_unpaged r]
  cases query r.unpaged t.model registry with
  | error e => rfl
  | ok q => exact (Query.matching_cut q r.offset r.limit t.rows).symm

/-- The search that asks for no page and no window answers with the matching rows. -/
theorem run_unpaged (options : Options) :
    run config registry t r.unpaged options = (matching registry t r).map .rows := by
  rw [run, ← matching_unpaged, matching]
  cases h : query r.unpaged t.model registry with
  | error e => rfl
  | ok q =>
    change (q.fetch t.rows >>= fun found => .ok (Answer.rows found)) =
      (q.matching t.rows).map Answer.rows
    rw [(showsAll_unpaged h).fetch]
    cases q.matching t.rows <;> rfl

theorem run_of_no_page (hp : r.page? = none) (hl : r.limit = 0) (options : Options) :
    run config registry t r options = run config registry t r.unpaged options := by
  have hquery : query r t.model registry = query r.unpaged t.model registry := by
    rw [query_unpaged r, hl]
    cases query r.unpaged t.model registry <;> rfl
  simp only [run, hquery, hp, Request.unpaged]

theorem length_matching_le {found : List Json} (h : matching registry t r = .ok found) :
    found.length ≤ t.rows.length := by
  obtain ⟨q, _, hq⟩ := bind_eq_ok_iff.mp h
  exact Query.matching_length_le hq

def exactAnswer (w : PageWindow) (found : List Json) : Shape → Answer
  | .simplePage =>
    .simplePage (pageRows found w.page.toNat w.size.toNat) w
      (w.page.toNat * w.size.toNat < found.length)
  | .page =>
    .page (pageRows found w.page.toNat w.size.toNat) (UInt64.ofNat found.length) w
      (w.page.toNat * w.size.toNat < found.length)
  | _ =>
    .pageInfo (UInt64.ofNat found.length) w (w.page.toNat * w.size.toNat < found.length)

/-- A window that a query has set before does not matter to a page of it. -/
theorem answerPage_eq {q : Query} {rows : List Json} {w : PageWindow}
    (hfits : ∀ found, q.matching rows = .ok found → found.length < UInt64.size)
    (hw : 1 ≤ w.page.toNat) (shape : Shape) :
    answerPage q rows w shape = (q.matching rows).map fun found => exactAnswer w found shape := by
  have hcount : Query.count { q with offset := w.offset } rows =
      (q.matching rows).map fun found => UInt64.ofNat found.length := rfl
  have hfetch (limit : UInt64) :
      Query.fetch { q with offset := w.offset, limit? := some limit } rows =
        (q.matching rows).map fun found => (found.drop w.offset.toNat).take limit.toNat := rfl
  unfold answerPage
  simp only [hcount, hfetch]
  cases hq : q.matching rows with
  | error e => cases shape <;> rfl
  | ok found =>
    have hfound := hfits found hq
    have hmore : w.hasMore (UInt64.ofNat found.length) =
        decide (w.page.toNat * w.size.toNat < found.length) := by
      rw [PageWindow.hasMore_eq hw, UInt64.toNat_ofNat_of_lt' hfound]
    cases shape with
    | simplePage =>
      simp only [Except.map, bind, Except.bind, pure, Except.pure, exactAnswer,
        PageWindow.take_probe hfound, PageWindow.probe_eq hw hfound]
    | page =>
      simp only [Except.map, bind, Except.bind, pure, Except.pure, exactAnswer, hmore,
        PageWindow.drop_offset w hfound, pageRows]
    | rows =>
      simp only [Except.map, bind, Except.bind, pure, Except.pure, exactAnswer, hmore]
    | pageInfo =>
      simp only [Except.map, bind, Except.bind, pure, Except.pure, exactAnswer, hmore]

theorem run_paged {page : UInt64}
    (hfits : ∀ found, matching registry t r = .ok found → found.length < UInt64.size)
    (hp : r.page? = some page) (options : Options) :
    run config registry t r options =
      (matching registry t r).map fun found =>
        exactAnswer (window config r page options) found (.of r.page? options.projection) := by
  have hw : 1 ≤ (window config r page options).page.toNat := by
    rw [window, PageWindow.toNat_page_of]
    exact Nat.le_max_right _ _
  rw [run, matching]
  cases hq : query r t.model registry with
  | error e => rfl
  | ok q =>
    have hmatching : matching registry t r = q.matching t.rows := by
      rw [matching, hq]
      rfl
    simp only [hp, bind, Except.bind]
    exact answerPage_eq (hmatching ▸ hfits) hw _

theorem count_eq (registry : Registry) (t : Table) (r : Request) :
    count registry t r =
      (matching registry t r).map fun found => UInt64.ofNat found.length := by
  rw [count, matching]
  cases query r t.model registry <;> rfl

/-- The four projections of a page and the count fail alike or tell alike of the matching rows,
at any page, size and window of the request. -/
theorem paged_answers {page : UInt64} (ht : t.rows.length < UInt64.size)
    (hp : r.page? = some page) :
    (∃ e, (∀ options, run config registry t r.unpaged options = .error e) ∧
      count registry t r = .error e ∧ ∀ options, run config registry t r options = .error e) ∨
    ∃ found total, (∀ options, run config registry t r.unpaged options = .ok (.rows found)) ∧
      count registry t r = .ok total ∧ total.toNat = found.length ∧
      ∀ size? : Option UInt64,
        let size := pageSize r.pageSize? size? config.defaultPageSize
        let w := PageWindow.of page size
        let number := max page.toNat 1
        let shown := pageRows found number size.toNat
        let more := decide (number * size.toNat < found.length)
        run config registry t r ⟨⟨true, true⟩, size?⟩ = .ok (.page shown total w more) ∧
        run config registry t r ⟨⟨false, true⟩, size?⟩ = .ok (.pageInfo total w more) ∧
        run config registry t r ⟨⟨true, false⟩, size?⟩ = .ok (.simplePage shown w more) ∧
        run config registry t r ⟨⟨false, false⟩, size?⟩ = .ok (.simplePage shown w more) := by
  have hcount := count_eq registry t r
  have hfits : ∀ found, matching registry t r = .ok found → found.length < UInt64.size :=
    fun found hm => Nat.lt_of_le_of_lt (length_matching_le hm) ht
  have hall (options : Options) : run config registry t r.unpaged options = _ :=
    run_unpaged options
  have hrun (options : Options) : run config registry t r options = _ :=
    run_paged hfits hp options
  cases hm : matching registry t r with
  | error e =>
    simp only [hm] at hcount hall hrun
    exact Or.inl ⟨e, hall, hcount, hrun⟩
  | ok found =>
    simp only [hm] at hcount hall hrun
    refine Or.inr ⟨found, UInt64.ofNat found.length, hall, hcount,
      UInt64.toNat_ofNat_of_lt' (hfits found hm), fun size? => ?_⟩
    simp only [hrun, hp, window, ← PageWindow.toNat_page_of page
      (pageSize r.pageSize? size? config.defaultPageSize)]
    exact ⟨rfl, rfl, rfl, rfl⟩

def rooms : Table :=
  .ofRows "room" ((List.range 5).map fun i => .object [("floor", .count (.ofNat i))])

theorem matching_rooms : matching [] rooms {} = .ok rooms.rows := by
  change Query.matching {} rooms.rows = .ok rooms.rows
  rw [Query.matching, Query.keep_nil]
  exact congrArg Except.ok (Query.sortRows_nil rooms.rows)

def firstRooms : Request := { page? := some 0, pageSize? := some 3, offset := 7, limit := 1 }

theorem paged_answers_rooms :
    rooms.rows.length < UInt64.size ∧ firstRooms.page? = some 0 ∧
    count [] rooms firstRooms = .ok 5 ∧
    run {} [] rooms firstRooms ⟨⟨true, true⟩, none⟩ =
      .ok (.page (rooms.rows.take 3) 5 ⟨1, 3⟩ true) ∧
    run {} [] rooms firstRooms ⟨⟨false, true⟩, none⟩ = .ok (.pageInfo 5 ⟨1, 3⟩ true) ∧
    run {} [] rooms firstRooms ⟨⟨true, false⟩, none⟩ =
      .ok (.simplePage (rooms.rows.take 3) ⟨1, 3⟩ true) := by
  have ht : rooms.rows.length < UInt64.size := by decide
  have hp : firstRooms.page? = some 0 := rfl
  have hall : run {} [] rooms firstRooms.unpaged {} = .ok (.rows rooms.rows) := by
    rw [run_unpaged, ← matching_unpaged]
    exact congrArg (Except.map Answer.rows) matching_rooms
  rcases paged_answers ht hp with ⟨e, hfails, _⟩ | ⟨found, total, hfound, hcount, htotal, hpages⟩
  · rw [hfails] at hall
    cases hall
  · rw [hfound] at hall
    cases hall
    have hfive : total = 5 := UInt64.toNat_inj.mp htotal
    subst hfive
    obtain ⟨hpage, hinfo, hsimple, _⟩ := hpages none
    exact ⟨ht, hp, hcount, hpage, hinfo, hsimple⟩

end Search

def Answer.hasMore : Answer → Bool
  | .rows _ => false
  | .page _ _ _ more | .pageInfo _ _ more | .simplePage _ _ more => more

/-- The answers of a search for a page and, as long as more rows follow, for the next one. -/
inductive Follows (search : UInt64 → Except SearchError Answer) : UInt64 → List Answer → Prop where
  | last {page : UInt64} {answer : Answer} (h : search page = .ok answer)
      (hlast : answer.hasMore = false) : Follows search page [answer]
  | next {page : UInt64} {answer : Answer} {rest : List Answer} (h : search page = .ok answer)
      (hmore : answer.hasMore = true) (hrest : Follows search (page + 1) rest) :
      Follows search page (answer :: rest)

/-- Where all pages up to the last one answer, following them gives their answers and stops. -/
theorem follows_iff {search : UInt64 → Except SearchError Answer} {answer : Nat → Answer}
    {first count : Nat}
    (h : ∀ k, first ≤ k → k ≤ first + count → search (.ofNat k) = .ok (answer k))
    (hmore : ∀ k, first ≤ k → k ≤ first + count →
      (answer k).hasMore = decide (k < first + count)) (answers : List Answer) :
    Follows search (.ofNat first) answers ↔
      answers = (List.range' first (count + 1)).map answer := by
  induction count generalizing first answers with
  | zero =>
    have hfirst := h first (Nat.le_refl _) (Nat.le_refl _)
    have hstop : (answer first).hasMore = false := by
      rw [hmore first (Nat.le_refl _) (Nat.le_refl _)]
      simp
    constructor
    · rintro (⟨ha, hlast⟩ | ⟨ha, hnext, _⟩)
      · rw [hfirst] at ha
        cases ha
        rfl
      · rw [hfirst] at ha
        cases ha
        rw [hstop] at hnext
        cases hnext
    · rintro rfl
      exact .last hfirst hstop
  | succ count ih =>
    have hfirst := h first (Nat.le_refl _) (Nat.le_add_right _ _)
    have hgoes : (answer first).hasMore = true := by
      rw [hmore first (Nat.le_refl _) (Nat.le_add_right _ _)]
      simp
    have hsucc : UInt64.ofNat first + 1 = UInt64.ofNat (first + 1) :=
      (UInt64.ofNat_add first 1).symm
    have hrest : ∀ rest, Follows search (.ofNat (first + 1)) rest ↔
        rest = (List.range' (first + 1) (count + 1)).map answer := by
      apply ih
      · intro k hk hle
        exact h k (by omega) (by omega)
      · intro k hk hle
        rw [hmore k (by omega) (by omega), decide_eq_decide]
        omega
    rw [List.range'_succ, List.map_cons]
    constructor
    · rintro (⟨ha, hlast⟩ | ⟨ha, _, hfollows⟩)
      · rw [hfirst] at ha
        cases ha
        rw [hgoes] at hlast
        cases hlast
      · rw [hfirst] at ha
        cases ha
        rw [hsucc] at hfollows
        rw [(hrest _).mp hfollows]
    · rintro rfl
      refine .next hfirst hgoes ?_
      rw [hsucc]
      exact (hrest _).mpr rfl

namespace Search
variable {config : Config} {registry : Registry} {t : Table} {r : Request}

theorem pageSize_of_ne_zero {size : UInt64} (h : size ≠ 0) (request? : Option UInt64)
    (default : UInt64) : pageSize (some size) request? default = size := by
  simp [pageSize, Option.filter, h]

/-- A page of the answer that asks for none, while its number does not pass the last one. -/
theorem run_page {found : List Json} {size : UInt64} {number : Nat} {size? : Option UInt64}
    (hfound : found.length < UInt64.size) (hm : matching registry t r = .ok found) (hs : size ≠ 0)
    (hn : 1 ≤ number) (hle : number ≤ pageCount found.length size.toNat) :
    run config registry t (r.onPage (.ofNat number) size) ⟨.all, size?⟩ =
      .ok (.page (pageRows found number size.toNat) (.ofNat found.length) ⟨.ofNat number, size⟩
        (number < pageCount found.length size.toNat)) := by
  have hpos : 0 < size.toNat := toNat_pos hs
  have hnumber : (UInt64.ofNat number).toNat = number :=
    UInt64.toNat_ofNat_of_lt' (Nat.lt_of_le_of_lt hle (pageCount_lt hpos hfound (by decide)))
  have hne : UInt64.ofNat number ≠ 0 := by
    intro hz
    rw [hz] at hnumber
    have hzero : number = 0 := hnumber.symm
    omega
  have hwindow : window config (r.onPage (.ofNat number) size) (.ofNat number) ⟨.all, size?⟩ =
      ⟨.ofNat number, size⟩ := by
    rw [window, Request.onPage, pageSize_of_ne_zero hs, PageWindow.of, if_neg hne]
  have hmatching : matching registry t (r.onPage (.ofNat number) size) = .ok found := by
    rw [← matching_unpaged, Request.unpaged_onPage, matching_unpaged, hm]
  have hfits : ∀ rows, matching registry t (r.onPage (.ofNat number) size) = .ok rows →
      rows.length < UInt64.size := by
    intro rows hrows
    rw [hmatching] at hrows
    cases hrows
    exact hfound
  rw [run_paged hfits rfl, hmatching, hwindow]
  simp only [Except.map, exactAnswer, Shape.of, Projection.all, hnumber,
    lt_pageCount_iff hpos hn]
  rfl

/-- The pages of a request without a page are the pieces of its answer: together they are all
its rows, all but the last are full, each tells the number of all rows, which a word holds, and
whoever asks for the next page as long as more rows follow sees each page once and then stops. -/
theorem pages_of_unpaged {found : List Json} {options : Options} {size : UInt64}
    (hp : r.page? = none) (hl : r.limit = 0)
    (hrun : run config registry t r options = .ok (.rows found))
    (hfound : found.length < UInt64.size) (hs : size ≠ 0) (size? : Option UInt64) :
    let search (number : UInt64) : Except SearchError Answer :=
      run config registry t (r.onPage number size) ⟨.all, size?⟩
    let last := max 1 ((found.length + size.toNat - 1) / size.toNat)
    let answer (number : Nat) : Answer :=
      .page (pageRows found number size.toNat) (.ofNat found.length) ⟨.ofNat number, size⟩
        (number < last)
    (∀ number, 1 ≤ number → number ≤ last → search (.ofNat number) = .ok (answer number)) ∧
    (UInt64.ofNat found.length).toNat = found.length ∧
    ((List.range' 1 last).map answer).flatMap Answer.shownRows = found ∧
    (∀ number, 1 ≤ number → number < last → (answer number).shownRows.length = size.toNat) ∧
    ∀ answers, Follows search 1 answers ↔ answers = (List.range' 1 last).map answer := by
  intro search last answer
  have hpos : 0 < size.toNat := toNat_pos hs
  have hm : matching registry t r = .ok found := by
    rw [run_of_no_page hp hl, run_unpaged] at hrun
    obtain ⟨rows, hrows, hsame⟩ := map_eq_ok_iff.mp hrun
    cases hsame
    exact hrows
  have hsearch : ∀ number, 1 ≤ number → number ≤ last →
      search (.ofNat number) = .ok (answer number) :=
    fun number hn hle => run_page hfound hm hs hn hle
  refine ⟨hsearch, UInt64.toNat_ofNat_of_lt' hfound, ?_, ?_, ?_⟩
  · rw [List.flatMap_map]
    exact flatMap_pageRows_pageCount found hpos
  · intro number hn hlt
    exact length_pageRows_of_lt hpos hn hlt
  · obtain ⟨count, hcount⟩ : ∃ count, last = count + 1 :=
      Nat.exists_eq_add_of_le' (one_le_pageCount found.length size.toNat)
    have hlast : 1 + count = last := by omega
    rw [hcount]
    apply follows_iff
    · intro number hn hle
      exact hsearch number hn (hlast ▸ hle)
    · intro number hn hle
      rw [hlast]
      rfl

theorem pages_of_unpaged_rooms :
    rooms.rows.length < UInt64.size ∧ run {} [] rooms {} {} = .ok (.rows rooms.rows) ∧
    run {} [] rooms (Request.onPage {} 2 3) {} =
      .ok (.page (rooms.rows.drop 3) 5 ⟨2, 3⟩ false) ∧
    Follows (fun number => run {} [] rooms (Request.onPage {} number 3) {}) 1
      [.page (rooms.rows.take 3) 5 ⟨1, 3⟩ true, .page (rooms.rows.drop 3) 5 ⟨2, 3⟩ false] := by
  have ht : rooms.rows.length < UInt64.size := by decide
  have hrun : run {} [] rooms {} {} = .ok (.rows rooms.rows) := by
    rw [run_of_no_page rfl rfl, run_unpaged, matching_rooms]
    rfl
  have hsize : (3 : UInt64) ≠ 0 := by decide
  obtain ⟨hsearch, _, _, _, hfollows⟩ := pages_of_unpaged rfl rfl hrun ht hsize none
  exact ⟨ht, hrun, hsearch 2 (by decide) (by decide), (hfollows _).mpr rfl⟩

end Search
end RowSearch
