import RowSearch.Proofs.Plan.Ordering
import RowSearch.Proofs.Plan.Relations
import RowSearch.Proofs.Row.Patterns
import RowSearch.Proofs.Search.Paging
import RowSearch.Proofs.Text.Splitting

/-! # Searches for a keyword

A model that has names and no scope for keywords is searched by a pattern: the keyword between two
percent signs. A keyword without backslashes is found in every name that holds it. A backslash
is taken for an escape, so that a keyword with one may not even be found in itself; whether it
is, alone and in front of another character, decides whether it is found everywhere.
-/
namespace RowSearch

namespace Plan
variable (keyword : String)

def keywordCore : List Char := Text.trimChars (· == '%') keyword.toList

theorem toList_keywordPattern :
    (keywordPattern keyword).toList = '%' :: (keywordCore keyword ++ ['%']) := by
  simp [keywordPattern, keywordCore, Text.trimBy]

/-- Whether the search for a keyword finds the keyword itself, alone and in front of a letter. -/
def findsItself : Bool :=
  Pattern.accepts false (keywordPattern keyword) keyword &&
    Pattern.accepts false (keywordPattern keyword) (keyword ++ "a")

variable {keyword} {name : String}

theorem accepts_keyword_iff (h : Pattern.dangles (keywordCore keyword) = false) :
    Pattern.accepts false (keywordPattern keyword) name = true ↔ ∃ part, part <:+: name.toList ∧
      Pattern.Fits (Pattern.alike false) (Pattern.pieces (keywordCore keyword)) part := by
  rw [Pattern.accepts_iff_fits, toList_keywordPattern, Pattern.pieces, Pattern.pieces_append, h]
  exact Pattern.fits_within_iff

/-- The pattern of a keyword that ends in a lone backslash asks for a percent sign at the end. -/
theorem getLast?_of_dangles (h : Pattern.dangles (keywordCore keyword) = true)
    (hname : Pattern.accepts false (keywordPattern keyword) name = true) :
    name.toList.getLast? = some '%' := by
  rw [Pattern.accepts_iff_fits, toList_keywordPattern, Pattern.pieces, Pattern.pieces_append, h,
    ← List.cons_append] at hname
  obtain ⟨before, after, hname, _, hafter⟩ := Pattern.fits_append_iff.mp hname
  have hpercent : after = ['%'] := by
    cases hafter with
    | exactly hd hnil =>
      obtain rfl := Pattern.alike_false_iff.mp hd
      cases hnil
      rfl
  rw [hname, hpercent, List.getLast?_concat]

/-- A keyword that finds itself is found wherever it stands. -/
theorem accepts_of_infix (h : findsItself keyword = true)
    (hname : keyword.toList <:+: name.toList) :
    Pattern.accepts false (keywordPattern keyword) name = true := by
  obtain ⟨hself, hbefore⟩ := Bool.and_eq_true_iff.mp h
  cases hdangles : Pattern.dangles (keywordCore keyword) with
  | true =>
    have hlast := getLast?_of_dangles hdangles hbefore
    simp at hlast
  | false =>
    obtain ⟨part, hpart, hfits⟩ := (accepts_keyword_iff hdangles).mp hself
    exact (accepts_keyword_iff hdangles).mpr ⟨part, hpart.trans hname, hfits⟩

theorem findsItself_of_no_backslash (h : '\\' ∉ keyword.toList) : findsItself keyword = true := by
  have hcore : keywordCore keyword <:+: keyword.toList := Text.trimChars_infix _ _
  have hno : '\\' ∉ keywordCore keyword := fun hmem => h (hcore.subset hmem)
  have hfound (name : String) (hname : keyword.toList <:+: name.toList) :
      Pattern.accepts false (keywordPattern keyword) name = true :=
    (accepts_keyword_iff (Pattern.dangles_of_not_mem hno)).mpr
      ⟨_, hcore.trans hname, Pattern.fits_self hno⟩
  rw [findsItself, hfound keyword (List.infix_refl _), hfound (keyword ++ "a") ?_]
  · rfl
  · rw [String.toList_append]
    exact (List.prefix_append _ _).isInfix

theorem exists_missed (h : findsItself keyword = false) : ∃ name : String,
    keyword.toList <:+: name.toList ∧
      Pattern.accepts false (keywordPattern keyword) name = false := by
  rcases Bool.and_eq_false_iff.mp h with h | h
  · exact ⟨keyword, List.infix_refl _, h⟩
  · refine ⟨keyword ++ "a", ?_, h⟩
    rw [String.toList_append]
    exact (List.prefix_append _ _).isInfix

/-- Whether a row has a name, a number or a truth value included, that a keyword's pattern
accepts. -/
def nameLike (keyword : String) (row : Json) : Bool :=
  ((Json.present (row.at? keywordColumn)).bind Json.scalarText?).any
    (Pattern.accepts false (keywordPattern keyword))

theorem nameLike_of_string {row : Json} (h : row.get? keywordColumn = some (.string name)) :
    nameLike keyword row = Pattern.accepts false (keywordPattern keyword) name := by
  have hat : row.at? keywordColumn = some (.string name) := h
  simp [nameLike, hat, Json.present, Json.isNull, Json.scalarText?, Option.filter]

def keywordClause (keyword : String) : Clause :=
  (.and, .group [(.and, .compare keywordColumn (.like false false)
    (.string (keywordPattern keyword)))])

theorem clauses_keyword (keyword : String) :
    (fieldCall (keywordCondition keyword)).clauses = .ok [keywordClause keyword] := by
  have hlike : Comparator.ofText? "like" = .ok (.like false false) := by rfl
  have hbody : clausesOf (comparisonCalls (keywordCondition keyword)) =
      .ok [(.and, .compare keywordColumn (.like false false)
        (.string (keywordPattern keyword)))] := by
    refine clausesOf_cons_ok.mpr ⟨_, [], ?_, rfl, (List.append_nil _).symm⟩
    change (Call.compare .and keywordColumn (.verbatim "like") _).clauses = _
    rw [Call.clauses, Comparison.sql, hlike]
    rfl
  change Call.clauses (.group .and (comparisonCalls (keywordCondition keyword))) = _
  rw [Call.clauses, Query.ofCalls_of_clausesOf (comparisonCalls_constrain _) hbody]
  rfl

theorem clausesHold_keyword (keyword : String) (row : Json) :
    clausesHold row [keywordClause keyword] = .ok (nameLike keyword row) := by
  rw [keywordClause, clausesHold_singleton, Predicate.holds, clausesHold_singleton,
    Predicate.holds, Comparator.holds, nameLike]
  cases (Json.present (row.at? keywordColumn)).bind Json.scalarText? with
  | none => rfl
  | some text => simp [Json.scalarText?]

theorem calls_order (order : OrderList) :
    calls (order.map Step.order) = order.map OrderTerm.call := by
  induction order with
  | nil => rfl
  | cons term order ih =>
    rw [List.map_cons, List.map_cons, ← ih]
    cases term <;> rfl

end Plan

/-- A request whose only condition is a keyword, which is `keyword` without the blanks around it,
and that asks for all rows, in whatever order. -/
structure Request.OnlyKeyword (r : Request) (keyword : String) : Prop where
  keyword_eq : Criteria.keywordOf? r.keyword? = some keyword
  wheres_eq : r.wheres = []
  having_eq : r.having = []
  groupBy_eq : r.groupBy = []
  page_eq : r.page? = none
  limit_eq : r.limit = 0

def OrderList.Readable (order : OrderList) : Prop :=
  ∀ fragment, .raw fragment ∈ order → ∃ keys, Raw.orderColumns fragment.sql = .ok keys

theorem OrderList.Readable.sortKeysOf {order : OrderList} (h : order.Readable) :
    ∃ keys, sortKeysOf order = .ok keys := by
  induction order with
  | nil => exact ⟨[], rfl⟩
  | cons term order ih =>
    obtain ⟨rest, hrest⟩ := ih fun fragment hmem => h fragment (List.mem_cons_of_mem _ hmem)
    have hterm : ∃ keys, term.sortKeys = .ok keys := by
      cases term with
      | column field direction => exact ⟨_, rfl⟩
      | raw fragment => exact h fragment List.mem_cons_self
    obtain ⟨first, hfirst⟩ := hterm
    exact ⟨first ++ rest, by rw [RowSearch.sortKeysOf, hfirst, hrest]; rfl⟩

namespace Search
variable {config : Config} {registry : Registry} {t : Table} {m : Model} {r : Request}
  {keyword : String}

theorem plan_keyword (hr : r.OnlyKeyword keyword) (hscope : m.scope? Plan.keywordScope = none)
    (hcolumn : m.hasColumn Plan.keywordColumn = true) :
    plan r m registry =
      .ok (.field (Plan.keywordCondition keyword) :: r.order.map Step.order) := by
  rw [plan, Criteria.ofRequest, hr.wheres_eq, hr.having_eq]
  change Plan.build ⟨[], r.order, r.groupBy, [], Criteria.keywordOf? r.keyword?, r.page?,
    r.pageSize?, r.offset, r.limit⟩ m registry = _
  rw [hr.groupBy_eq, hr.limit_eq, hr.keyword_eq]
  simp [Plan.build, Plan.keywordStep?, hscope, hcolumn, bind, Except.bind, pure, Except.pure]

theorem query_keyword (registry : Registry) (hr : r.OnlyKeyword keyword) (horder : r.order.Readable)
    (hscope : m.scope? Plan.keywordScope = none)
    (hcolumn : m.hasColumn Plan.keywordColumn = true) :
    ∃ sort, query r m registry =
      .ok { wheres := [Plan.keywordClause keyword], sort := sort } := by
  obtain ⟨keys, hkeys⟩ := horder.sortKeysOf
  obtain ⟨sort, hsort⟩ := Query.foldl_addSort { wheres := [Plan.keywordClause keyword] } keys
  refine ⟨sort, ?_⟩
  rw [query, plan_keyword hr hscope hcolumn]
  change Query.outcome {} (Plan.fieldCall (Plan.keywordCondition keyword) ::
    Plan.calls (r.order.map Step.order)) = _
  have hfirst : Query.outcome {} [Plan.fieldCall (Plan.keywordCondition keyword)] =
      .ok { wheres := [Plan.keywordClause keyword] } := by
    rw [Query.outcome, Query.run,
      Query.call_of_constrains {} (Plan.fieldCall_apart (Plan.keywordCondition keyword)).constrains,
      Plan.clauses_keyword]
    rfl
  rw [Query.outcome_cons, hfirst, Plan.calls_order]
  change Query.outcome _ _ = _
  rw [Query.outcome_terms, hkeys, ← hsort]
  rfl

theorem matching_keyword (registry : Registry) (hr : r.OnlyKeyword keyword)
    (horder : r.order.Readable)
    (hscope : t.model.scope? Plan.keywordScope = none)
    (hcolumn : t.model.hasColumn Plan.keywordColumn = true) :
    ∃ found, matching registry t r = .ok found ∧
      found.Perm (t.rows.filter (Plan.nameLike keyword)) := by
  obtain ⟨sort, hq⟩ := query_keyword registry hr horder hscope hcolumn
  have hkept : Query.keep [Plan.keywordClause keyword] t.rows =
      .ok (t.rows.filter (Plan.nameLike keyword)) :=
    Query.keep_eq_filter fun row _ => Plan.clausesHold_keyword keyword row
  refine ⟨Query.sortRows sort (t.rows.filter (Plan.nameLike keyword)), ?_, ?_⟩
  · rw [matching, hq]
    change Query.matching _ _ = _
    rw [Query.matching]
    simp only [hkept, bind, Except.bind]
    simp [pure, Except.pure]
  · exact List.mergeSort_perm _ _

theorem run_onlyKeyword {options : Options} (hr : r.OnlyKeyword keyword) {found : List Json}
    (h : matching registry t r = .ok found) :
    run config registry t r options = .ok (.rows found) := by
  rw [run_of_no_page hr.page_eq hr.limit_eq, run_unpaged, h]
  rfl

/-- The search for a keyword finds the rows whose name the keyword's pattern accepts, in some
order. A keyword that finds itself, as every one without backslashes does, is found in every name
that holds it, and any other is missed in some name that holds it. -/
theorem run_keyword {options : Options} (hr : r.OnlyKeyword keyword) (horder : r.order.Readable)
    (hscope : t.model.scope? Plan.keywordScope = none)
    (hcolumn : t.model.hasColumn Plan.keywordColumn = true) :
    ∃ found, run config registry t r options = .ok (.rows found) ∧
      found.Perm (t.rows.filter (Plan.nameLike keyword)) ∧
      ('\\' ∉ keyword.toList → Plan.findsItself keyword = true) ∧
      (Plan.findsItself keyword = true → ∀ row ∈ t.rows, ∀ name : String,
        row.get? Plan.keywordColumn = some (.string name) →
        keyword.toList <:+: name.toList → row ∈ found) ∧
      (Plan.findsItself keyword = false → ∃ name : String, keyword.toList <:+: name.toList ∧
        ∀ row ∈ found, row.get? Plan.keywordColumn ≠ some (.string name)) := by
  obtain ⟨found, hfound, hperm⟩ := matching_keyword registry hr horder hscope hcolumn
  refine ⟨found, run_onlyKeyword hr hfound, hperm, Plan.findsItself_of_no_backslash, ?_, ?_⟩
  · intro hself row hrow name hget hinfix
    rw [hperm.mem_iff, List.mem_filter, Plan.nameLike_of_string hget]
    exact ⟨hrow, Plan.accepts_of_infix hself hinfix⟩
  · intro hself
    obtain ⟨name, hinfix, hmissed⟩ := Plan.exists_missed hself
    refine ⟨name, hinfix, fun row hrow hget => ?_⟩
    have hkept := (List.mem_filter.mp (hperm.mem_iff.mp hrow)).2
    rw [Plan.nameLike_of_string hget, hmissed] at hkept
    exact Bool.false_ne_true hkept

def sales : Table :=
  .ofRows "sale" [.object [("name", .string "50 % off")], .object [("name", .string "-50%_off-")],
    .object [("name", .count 50)]]

def saleSearch : Request := { keyword? := some "\t50%_o ", order := [.raw ⟨"name desc", []⟩] }

theorem run_keyword_sale :
    saleSearch.OnlyKeyword "50%_o" ∧ saleSearch.order.Readable ∧
    sales.model.scope? Plan.keywordScope = none ∧
    sales.model.hasColumn Plan.keywordColumn = true ∧
    ∃ found, run {} [] sales saleSearch {} = .ok (.rows found) ∧
      .object [("name", .string "-50%_off-")] ∈ found := by
  have hr : saleSearch.OnlyKeyword "50%_o" := ⟨by decide +kernel, rfl, rfl, rfl, rfl, rfl⟩
  have horder : saleSearch.order.Readable := by
    intro fragment hmem
    cases List.mem_singleton.mp hmem
    exact exists_of_isOk (by decide +kernel)
  have hcolumn : sales.model.hasColumn Plan.keywordColumn = true := by decide +kernel
  obtain ⟨found, hrun, _, hself, hfound, _⟩ := run_keyword hr horder rfl hcolumn
  refine ⟨hr, horder, rfl, hcolumn, found, hrun, hfound (hself (by decide)) _ ?_ "-50%_off-" rfl ?_⟩
  · exact List.mem_cons_of_mem _ List.mem_cons_self
  · exact ⟨['-'], "ff-".toList, by decide⟩

def files : Table := .ofRows "file" [.object [("name", .string "a\\b")]]

def fileSearch : Request := { keyword? := some "a\\b" }

/-- The search for a name with a backslash misses this very name. -/
theorem run_backslash :
    fileSearch.OnlyKeyword "a\\b" ∧ files.model.scope? Plan.keywordScope = none ∧
    files.model.hasColumn Plan.keywordColumn = true ∧
    (∀ row ∈ files.rows, row.get? Plan.keywordColumn = some (.string "a\\b")) ∧
    Plan.findsItself "a\\b" = false ∧ run {} [] files fileSearch {} = .ok (.rows []) := by
  have hr : fileSearch.OnlyKeyword "a\\b" := ⟨by decide +kernel, rfl, rfl, rfl, rfl, rfl⟩
  have horder : fileSearch.order.Readable := fun _ hmem => absurd hmem List.not_mem_nil
  have hcolumn : files.model.hasColumn Plan.keywordColumn = true := by decide +kernel
  obtain ⟨found, hfound, hperm⟩ :=
    matching_keyword [] (t := files) hr horder rfl hcolumn
  have hnone : files.rows.filter (Plan.nameLike "a\\b") = [] := by
    apply List.filter_eq_nil_iff.mpr
    intro row hrow
    cases List.mem_singleton.mp hrow
    decide +kernel
  rw [hnone] at hperm
  obtain rfl := hperm.eq_nil
  refine ⟨hr, rfl, hcolumn, ?_, by decide +kernel, run_onlyKeyword hr hfound⟩
  exact List.forall_mem_singleton.mpr rfl

end Search
end RowSearch
