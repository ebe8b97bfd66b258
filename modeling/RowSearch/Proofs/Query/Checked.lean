import RowSearch.Proofs.Query.PatternTests

/-! # Queries that calls have built

Whichever calls of a query have failed, its conditions and its having hold only operators that
were looked up, and expressions that were read, when their calls were made. So to count or to fetch
rows never looks up an operator in vain and reads no expression, and it fails exactly where a
pattern test does that the evaluation comes to.
-/
namespace RowSearch

inductive Predicate.Checked : Predicate → Prop where
  | compare {field : String} {comparison : Comparison} {c : Comparator} {v : Json}
      (h : Comparator.ofText? comparison.sql = .ok c) : Checked (.compare field c v)
  | listed {field : String} {values : List Json} {negated : Bool} :
      Checked (.listed field values negated)
  | null {field : String} {negated : Bool} : Checked (.null field negated)
  | group {clauses : List Clause} (h : ∀ clause ∈ clauses, Checked clause.2) :
      Checked (.group clauses)
  | has {relation : String} {clauses : List Clause} (h : ∀ clause ∈ clauses, Checked clause.2) :
      Checked (.has relation clauses)
  | raw {fragment : Fragment} {e : Raw.Expr} (h : Raw.parse fragment = .ok e) : Checked (.raw e)

def ClausesChecked (clauses : List Clause) : Prop :=
  ∀ clause ∈ clauses, clause.2.Checked

theorem ClausesChecked.append {a b : List Clause} (ha : ClausesChecked a)
    (hb : ClausesChecked b) : ClausesChecked (a ++ b) := by
  intro clause hmem
  rcases List.mem_append.mp hmem with h | h
  · exact ha clause h
  · exact hb clause h

theorem ClausesChecked.singleton {join : Connective} {p : Predicate} (hp : p.Checked) :
    ClausesChecked [(join, p)] := by
  intro clause hmem
  cases List.mem_singleton.mp hmem
  exact hp

theorem clausesChecked_nil : ClausesChecked [] := by
  intro clause hmem
  cases hmem

mutual

theorem Call.clauses_checked :
    ∀ c : Call, ∀ clauses, c.clauses = .ok clauses → ClausesChecked clauses
  | .compare join field comparison value => by
    intro clauses h
    rw [Call.clauses, map_eq_ok_iff] at h
    obtain ⟨c, hc, rfl⟩ := h
    exact .singleton (.compare hc)
  | .raw join fragment => by
    intro clauses h
    rw [Call.clauses, map_eq_ok_iff] at h
    obtain ⟨e, he, rfl⟩ := h
    exact .singleton (.raw he)
  | .group join body => by
    intro clauses h
    obtain ⟨inner, hinner, rfl⟩ := map_eq_ok_iff.mp h
    have hbody := clausesOf_checked body inner.wheres (Query.clausesOf_of_ofCalls hinner)
    split
    · exact clausesChecked_nil
    · exact .singleton (.group hbody)
  | .has relation body => by
    intro clauses h
    obtain ⟨inner, hinner, rfl⟩ := map_eq_ok_iff.mp h
    have hbody := clausesOf_checked body inner.wheres (Query.clausesOf_of_ofCalls hinner)
    exact .singleton (.has hbody)
  | .oneOf .. | .noneOf .. => by
    intro clauses h
    cases h
    exact .singleton .listed
  | .isNull .. | .notNull .. => by
    intro clauses h
    cases h
    exact .singleton .null
  | .refuse message => by
    intro clauses h
    cases h
  | .orderBy .. | .orderByRaw .. | .groupBy .. | .havingRaw .. | .skip .. | .take .. => by
    intro clauses h
    cases h
    exact clausesChecked_nil

theorem clausesOf_checked :
    ∀ calls : List Call, ∀ clauses, clausesOf calls = .ok clauses → ClausesChecked clauses
  | [] => by
    intro clauses h
    cases h
    exact clausesChecked_nil
  | c :: cs => by
    intro clauses h
    obtain ⟨first, rest, hfirst, hrest, rfl⟩ := clausesOf_cons_ok.mp h
    exact (Call.clauses_checked c first hfirst).append (clausesOf_checked cs rest hrest)

end

namespace Query

structure Checked (q : Query) : Prop where
  wheres : ClausesChecked q.wheres
  having : ClausesChecked q.having

/-- A call keeps a query checked, also where it fails. -/
theorem Checked.call {q : Query} (hq : q.Checked) (c : Call) : (q.call c).1.Checked := by
  by_cases hc : c.constrains = true
  · rw [call_of_constrains q hc]
    cases hclauses : c.clauses with
    | error e => exact hq
    | ok clauses => exact ⟨hq.wheres.append (c.clauses_checked clauses hclauses), hq.having⟩
  · obtain ⟨hwheres, ⟨added, hhaving, hadded⟩, _⟩ :=
      call_of_not_constrains q (Bool.eq_false_iff.mpr hc)
    refine ⟨hwheres ▸ hq.wheres, ?_⟩
    rw [hhaving]
    apply hq.having.append
    intro clause hclause
    obtain ⟨fragment, e, he, hraw⟩ := hadded clause hclause
    rw [hraw]
    exact .raw he

/-- What calls make of a query that starts empty: any of them may fail, and the body of a group or
a relation may go on after a call that fails. -/
inductive Reached : Query → Prop where
  | start : Reached {}
  | call {q : Query} (hq : Reached q) (c : Call) : Reached (q.call c).1
  | group {q inner : Query} (hq : Reached q) (hinner : Reached inner) (join : Connective) :
      Reached (if inner.wheres.isEmpty then q else q.addWhere join (.group inner.wheres))
  | has {q inner : Query} (hq : Reached q) (hinner : Reached inner) (relation : String) :
      Reached (q.addWhere .and (.has relation inner.wheres))

theorem Reached.checked {q : Query} (h : q.Reached) : q.Checked := by
  induction h with
  | start => exact ⟨clausesChecked_nil, clausesChecked_nil⟩
  | call _ c ih => exact ih.call c
  | group _ _ join ih ihinner =>
    split
    · exact ih
    · exact ⟨ih.wheres.append (.singleton (.group ihinner.wheres)), ih.having⟩
  | has _ _ relation ih ihinner =>
    exact ⟨ih.wheres.append (.singleton (.has ihinner.wheres)), ih.having⟩

/-- Whether clauses that select from rows ask a pattern test: the rows before are answered, and
the evaluation on a row comes to a predicate that asks it. -/
def SelectionAsks (clauses : List Clause) (rows : List Json) (t : PatternTest) : Prop :=
  ∃ before row after p, rows = before ++ row :: after ∧
    (∀ other ∈ before, ∃ kept, clausesHold other clauses = .ok kept) ∧
      ComesTo row clauses p ∧ p.Asks row t

theorem keep_eq_error_iff {clauses : List Clause} {rows : List Json} {e : SearchError} :
    keep clauses rows = .error e ↔ ∃ t, SelectionAsks clauses rows t ∧ t.Fails ∧ e = t.error := by
  have hfirst : keep clauses rows = .error e ↔ ∃ before row after, rows = before ++ row :: after ∧
      (∀ other ∈ before, ∃ kept, clausesHold other clauses = .ok kept) ∧
        clausesHold row clauses = .error e := by
    refine first_iff (fun rows => keep clauses rows = .error e) (by simp [keep]) fun row rows => ?_
    rw [keep]
    cases clausesHold row clauses with
    | error f => simp
    | ok kept => simp [map_eq_error_iff]
  rw [hfirst]
  constructor
  · rintro ⟨before, row, after, hrows, hbefore, hrow⟩
    obtain ⟨p, hp, hfails⟩ := clausesHold_eq_error_iff.mp hrow
    obtain ⟨t, hasks, ht⟩ := Predicate.exists_asks hfails
    exact ⟨t, ⟨before, row, after, p, hrows, hbefore, hp, hasks⟩, ht⟩
  · rintro ⟨t, ⟨before, row, after, p, hrows, hbefore, hp, hasks⟩, ht, rfl⟩
    exact ⟨before, row, after, hrows, hbefore,
      clausesHold_eq_error_iff.mpr ⟨p, hp, hasks.holds_eq_error ht⟩⟩

/-- The pattern tests that are asked when a query is answered. The having is asked of the groups,
or of the rows where the query does not group, once the conditions have answered on every row. -/
inductive Asks (q : Query) (rows : List Json) : PatternTest → Prop where
  | wheres {t : PatternTest} (h : SelectionAsks q.wheres rows t) : Asks q rows t
  | having {kept : List Json} {t : PatternTest} (hkept : keep q.wheres rows = .ok kept)
      (h : SelectionAsks q.having (if q.groups.isEmpty then kept else groupRows q.groups kept) t) :
      Asks q rows t

theorem matching_eq_error_iff {q : Query} {rows : List Json} {e : SearchError} :
    q.matching rows = .error e ↔ ∃ t, q.Asks rows t ∧ t.Fails ∧ e = t.error := by
  rw [matching, bind_eq_error_iff, keep_eq_error_iff]
  constructor
  · rintro (⟨t, h, ht⟩ | ⟨kept, hkept, hrest⟩)
    · exact ⟨t, .wheres h, ht⟩
    · rcases bind_eq_error_iff.mp hrest with hhaving | ⟨left, _, hleft⟩
      · obtain ⟨t, h, ht⟩ := keep_eq_error_iff.mp hhaving
        exact ⟨t, .having hkept h, ht⟩
      · cases hleft
  · rintro ⟨t, hasks, ht⟩
    cases hasks with
    | wheres h => exact .inl ⟨t, h, ht⟩
    | having hkept h =>
      exact .inr ⟨_, hkept, bind_eq_error_iff.mpr (.inl (keep_eq_error_iff.mpr ⟨t, h, ht⟩))⟩

/-- Whatever calls have built a query, to count or to fetch rows fails exactly where a pattern test
is asked of a scalar and the pattern is none, and never for an operator or the text of an
expression. -/
theorem Reached.fails_iff {q : Query} (hq : q.Reached) (rows : List Json) (e : SearchError) :
    q.Checked ∧
    (q.count rows = .error e ↔ ∃ t, q.Asks rows t ∧ t.Fails ∧ e = t.error) ∧
    (q.fetch rows = .error e ↔ ∃ t, q.Asks rows t ∧ t.Fails ∧ e = t.error) ∧
    (q.count rows = .error e ∨ q.fetch rows = .error e →
      (∀ text, e ≠ .invalidQuery (.unsupportedOperator text)) ∧
        ∀ sql fault, e ≠ .invalidQuery (.raw sql fault)) := by
  have hcount : q.count rows = .error e ↔ ∃ t, q.Asks rows t ∧ t.Fails ∧ e = t.error := by
    rw [count, map_eq_error_iff, matching_eq_error_iff]
  have hfetch : q.fetch rows = .error e ↔ ∃ t, q.Asks rows t ∧ t.Fails ∧ e = t.error := by
    rw [fetch, map_eq_error_iff, matching_eq_error_iff]
  refine ⟨hq.checked, hcount, hfetch, fun h => ?_⟩
  rw [hcount, hfetch, or_self] at h
  obtain ⟨t, _, _, rfl⟩ := h
  constructor
  · intro text htext
    cases htext
  · intro sql fault hraw
    cases hraw

def likeList : Query where
  wheres := [(.and, .group [(.and, .compare "name" (.like false false) (.array []))])]

def annRow : Json := .object [("name", .string "ann")]

theorem Reached.fails_iff_likeList :
    likeList.Reached ∧
    (∃ t, likeList.Asks [annRow] t ∧ t.Fails ∧
      likeList.count [annRow] = .error t.error ∧ likeList.fetch [annRow] = .error t.error) := by
  have hbody := (Reached.start.call (.compare .and "name" (.verbatim "resembles") (.array []))).call
    (.compare .and "name" (.verbatim "like") (.array []))
  have hreached : likeList.Reached := Reached.start.group hbody .and
  have hcomes (p : Predicate) : ComesTo annRow [(.and, p)] p :=
    ⟨[], [], [], [], rfl, by simp, by simp⟩
  have hasks : likeList.Asks [annRow] ⟨false, false, some (.string "ann"), .array []⟩ :=
    .wheres ⟨[], annRow, [], _, rfl, by simp, hcomes _, .group (hcomes _) .compare⟩
  have hfails : PatternTest.Fails ⟨false, false, some (.string "ann"), .array []⟩ :=
    ⟨⟨_, rfl, .string _⟩, .inr (.inl ⟨_, rfl⟩)⟩
  obtain ⟨_, hcount, hfetch, _⟩ := hreached.fails_iff [annRow] (PatternTest.error _)
  exact ⟨hreached, _, hasks, hfails, hcount.mpr ⟨_, hasks, hfails, rfl⟩,
    hfetch.mpr ⟨_, hasks, hfails, rfl⟩⟩

end Query
end RowSearch
