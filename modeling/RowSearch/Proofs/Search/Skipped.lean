import RowSearch.Proofs.Plan.Relations
import RowSearch.Proofs.Search.Paging
import RowSearch.Proofs.Search.Widening

/-! # Entries whose operators are skipped

An operator for lists that is given no list, or an empty one, is skipped. An entry of which
nothing is left asks nothing of its field, and without relations it asks nothing at all: its group
is left out. Relations are followed all the same, so that the entry drops the rows from which they
lead nowhere. The search is then the one without the entry, over the rows that are left.
-/
namespace RowSearch

/-- Whether all operators of a field are list operators without a list that has items. -/
def FieldCondition.AllSkipped (f : FieldCondition) : Prop :=
  ∀ c ∈ f.comparisons, (c.1 = .oneOf ∨ c.1 = .noneOf) ∧ ∀ v vs, c.2 ≠ .array (v :: vs)

theorem FieldCondition.allSkipped_iff {f : FieldCondition} : f.AllSkipped ↔ f.accepted = [] := by
  rw [accepted, List.filter_eq_nil_iff, AllSkipped]
  refine forall₂_congr fun c _ => ?_
  obtain ⟨operator, v⟩ := c
  cases operator with
  | oneOf | noneOf =>
    cases v with
    | array items => cases items <;> simp [Operator.accepts]
    | _ => simp [Operator.accepts]
  | _ => simp [Operator.accepts]

def reaches : List String → Json → Bool
  | [], _ => true
  | relation :: rest, row => (relatedRecords row (Text.lowerCamelCase relation)).any (reaches rest)

theorem reaches_iff {relations : List String} {row : Json} :
    reaches relations row = true ↔ ∃ record, Chain row relations record := by
  induction relations generalizing row with
  | nil => exact iff_of_true rfl ⟨row, .nil row⟩
  | cons relation rest ih =>
    rw [reaches, List.any_eq_true]
    constructor
    · rintro ⟨next, hmem, hnext⟩
      obtain ⟨record, hrecord⟩ := ih.mp hnext
      exact ⟨record, .cons (mem_relatedRecords_iff.mp hmem) hrecord⟩
    · rintro ⟨record, hchain⟩
      cases hchain with
      | cons hrelated hrest => exact ⟨_, mem_relatedRecords_iff.mpr hrelated, ih.mpr ⟨_, hrest⟩⟩

/-- Relations that are followed to ask nothing keep the rows that they lead somewhere from. -/
theorem clausesHold_reaches (relations : List String) (row : Json) :
    clausesHold row (relationClauses [] relations) = .ok (reaches relations row) := by
  induction relations generalizing row with
  | nil => rfl
  | cons relation rest ih =>
    rw [clausesHold_relation, reaches, funext ih]
    exact List.anyM_pure

def Table.reaching (t : Table) (relations : List String) : Table :=
  { t with rows := t.rows.filter (reaches relations) }

namespace Query
variable {q wide : Query} {rows : List Json} {relations : List String}

theorem matching_of_reaches (h : Widens (relationClauses [] relations) q wide)
    (hjoined : ∀ clause ∈ wide.wheres, clause.1 = .and)
    (hall : ∀ row ∈ rows, reaches relations row = true) : wide.matching rows = q.matching rows := by
  refine h.matching (keep_congr_of_mem fun row hrow => ?_)
  exact (h.keeps hjoined (clausesHold_reaches relations row)).1 (hall row hrow)

theorem matching_reaching {found : List Json} (h : Widens (relationClauses [] relations) q wide)
    (hjoined : ∀ clause ∈ wide.wheres, clause.1 = .and) (hq : q.matching rows = .ok found) :
    wide.matching rows = q.matching (rows.filter (reaches relations)) := by
  refine h.matching ?_
  obtain ⟨kept, hkept, -⟩ := bind_eq_ok_iff.mp hq
  have hown : ∀ row ∈ rows, clausesHold row q.wheres = .ok (clausesKeep q.wheres row) :=
    fun row hrow => clausesHold_eq_clausesKeep (clausesHold_of_keep hkept row hrow)
  have hwide : ∀ row ∈ rows, clausesHold row wide.wheres =
      .ok (reaches relations row && clausesKeep q.wheres row) := fun row hrow =>
    (h.keeps hjoined (clausesHold_reaches relations row)).2 _ (hown row hrow)
  rw [keep_eq_filter hwide,
    keep_eq_filter fun row hrow => hown row (List.mem_of_mem_filter hrow), List.filter_filter]
  congr 2
  funext row
  exact Bool.and_comm _ _

end Query

/-- A field whose operators are all skipped adds the relations that lead to it and nothing else. -/
theorem Plan.clauses_of_allSkipped {f : FieldCondition} (h : f.AllSkipped) :
    (Plan.fieldCall f).clauses = .ok (relationClauses [] f.path.relations) := by
  have hcalls : Plan.comparisonCalls f = [] := by
    rw [Plan.comparisonCalls, FieldCondition.allSkipped_iff.mp h, List.map_nil]
  rw [Plan.fieldCall, hcalls]
  cases f.path.relations with
  | nil => rfl
  | cons relation rest => exact Plan.relationCall_clauses (by simp) rfl relation rest

namespace Search
variable {config : Config} {registry : Registry} {t : Table} {r : Request}
  {before after : List Entry} {e : Entry} {f : FieldCondition}

/-- Where the request without the entry is answered, the entry drops the rows from which its
relations lead nowhere. -/
theorem answers_reaching {total : UInt64} (hr : r.wheres = before ++ after)
    (he : e.condition = .ok (some (.field f))) (hf : f.AllSkipped)
    (htotal : count registry t r = .ok total) :
    (∀ options, run config registry t { r with wheres := before ++ e :: after } options =
      run config registry (t.reaching f.path.relations) r options) ∧
    count registry t { r with wheres := before ++ e :: after } =
      count registry (t.reaching f.path.relations) r := by
  obtain ⟨q, hq, hcount⟩ := bind_eq_ok_iff.mp htotal
  obtain ⟨found, hfound, -⟩ := map_eq_ok_iff.mp hcount
  rcases query_insert t.model registry hr he (Plan.clauses_of_allSkipped hf) with
    ⟨failed, hfailed, -⟩ | ⟨q', wide, hq', hwide, hw, hjoined⟩
  · rw [hq] at hfailed
    cases hfailed
  · rw [hq] at hq'
    cases hq'
    exact answers_of_widens hq hwide hw (Query.matching_reaching hw hjoined hfound)

/-- An entry of which all operators are skipped changes no answer where its relations, if it has
any, lead somewhere from every row. Where the request without it is answered, its own answers are
those over the rows from which the relations lead somewhere; where that request has no query, both
fail alike. -/
theorem run_skipped (hr : r.wheres = before ++ after) (he : e.condition = .ok (some (.field f)))
    (hf : f.AllSkipped) :
    let wide := { r with wheres := before ++ e :: after }
    ((∀ row ∈ t.rows, ∃ record, Chain row f.path.relations record) →
      (∀ options, run config registry t wide options = run config registry t r options) ∧
      count registry t wide = count registry t r) ∧
    (∀ total, count registry t r = .ok total →
      (∀ options, run config registry t wide options =
        run config registry (t.reaching f.path.relations) r options) ∧
      count registry t wide = count registry (t.reaching f.path.relations) r) ∧
    ∀ failed, query r t.model registry = .error failed →
      (∀ options, run config registry t wide options = .error failed) ∧
      count registry t wide = .error failed := by
  intro wide
  refine ⟨?_, fun total => answers_reaching hr he hf, ?_⟩
  · intro hchain
    have hall := fun row hrow => reaches_iff.mpr (hchain row hrow)
    rcases query_insert t.model registry hr he (Plan.clauses_of_allSkipped hf) with
      ⟨failed, hq, hwide⟩ | ⟨q, wideQuery, hq, hwide, hw, hjoined⟩
    · obtain ⟨hrun, hcount⟩ := @answers_of_query_error config _ _ _ _ hq
      obtain ⟨hrun', hcount'⟩ := @answers_of_query_error config _ _ _ _ hwide
      exact ⟨fun options => (hrun' options).trans (hrun options).symm, hcount'.trans hcount.symm⟩
    · exact answers_of_widens hq hwide hw (Query.matching_of_reaches hw hjoined hall)
  · intro failed hfailed
    rcases query_insert t.model registry hr he (Plan.clauses_of_allSkipped hf) with
      ⟨other, hq, hwide⟩ | ⟨q, _, hq, _⟩
    · rw [hq] at hfailed
      cases hfailed
      exact answers_of_query_error hwide
    · rw [hq] at hfailed
      cases hfailed

def users : Table :=
  .ofRows "user" [.object [("id", .count 1), ("company", .null)],
    .object [("id", .count 2), ("company", .object [("name", .string "acme")])],
    .object [("company", .array [])]]

theorem users_reaching : (users.reaching ["company"]).rows = (users.rows.drop 1).take 1 := by
  have hreach : users.rows.map (reaches ["company"]) = [false, true, false] := by decide +kernel
  simp only [users, Table.ofRows, List.map_cons, List.cons.injEq] at hreach
  simp [Table.reaching, users, Table.ofRows, hreach]

def companyEntry : Entry := .keyed "company$name.in" (.array [])

def companyField : FieldCondition where
  path := ⟨["company"], "name"⟩
  comparisons := [(.oneOf, .array [])]
  mix := .and

theorem condition_companyEntry : companyEntry.condition = .ok (some (.field companyField)) := rfl

theorem allSkipped_companyField : companyField.AllSkipped := by
  rw [FieldCondition.allSkipped_iff]
  rfl

theorem matching_of_wheres {clauses : List Clause} {found : List Json}
    (hq : query r t.model registry = .ok { wheres := clauses })
    (h : Query.keep clauses t.rows = .ok found) : matching registry t r = .ok found := by
  rw [matching, hq]
  change Query.matching _ _ = _
  rw [Query.matching]
  simp only [h, bind, Except.bind]
  simp [pure, Except.pure]

def idRequest : Request := { wheres := [.positional (.callback [.notNull .and "id"])] }

theorem count_idRequest : count [] users idRequest = .ok 2 := by
  have hq : query idRequest users.model [] =
      .ok { wheres := [(.and, .group [(.and, .null "id" true)])] } := rfl
  rw [count_eq, matching_of_wheres hq rfl]
  rfl

theorem run_skipped_users :
    companyEntry.condition = .ok (some (.field companyField)) ∧ companyField.AllSkipped ∧
    count [] users idRequest = .ok 2 ∧
    (users.reaching ["company"]).rows = (users.rows.drop 1).take 1 ∧
    ∀ options, run {} [] users { wheres := companyEntry :: idRequest.wheres } options =
      run {} [] (users.reaching ["company"]) idRequest options := by
  have hskipped := @run_skipped {} [] users idRequest [] idRequest.wheres companyEntry
    companyField rfl condition_companyEntry allSkipped_companyField
  obtain ⟨_, hreaching, _⟩ := hskipped
  exact ⟨condition_companyEntry, allSkipped_companyField, count_idRequest, users_reaching,
    (hreaching 2 count_idRequest).1⟩

/-- The request for all users finds all three, and with the entry only the one with a company. -/
theorem run_emptyList :
    companyEntry.condition = .ok (some (.field companyField)) ∧ companyField.AllSkipped ∧
    run {} [] users {} {} = .ok (.rows users.rows) ∧ count [] users {} = .ok 3 ∧
    run {} [] users { wheres := [companyEntry] } {} =
      .ok (.rows ((users.rows.drop 1).take 1)) ∧
    count [] users { wheres := [companyEntry] } = .ok 1 := by
  have hall (t : Table) : matching [] t {} = .ok t.rows :=
    matching_of_wheres rfl (Query.keep_nil t.rows)
  have hrun (t : Table) : run {} [] t {} {} = .ok (.rows t.rows) := by
    rw [run_of_no_page rfl rfl, run_unpaged, hall]
    rfl
  have hcount (t : Table) : count [] t {} = .ok (UInt64.ofNat t.rows.length) := by
    rw [count_eq, hall]
    rfl
  obtain ⟨hwide, hone⟩ := @answers_reaching {} [] users {} [] [] companyEntry companyField _ rfl
    condition_companyEntry allSkipped_companyField (hcount users)
  have hleft : (users.reaching companyField.path.relations).rows = (users.rows.drop 1).take 1 :=
    users_reaching
  refine ⟨condition_companyEntry, allSkipped_companyField, hrun users, hcount users, ?_, ?_⟩
  · refine (hwide {}).trans ?_
    rw [hrun, hleft]
  · refine hone.trans ?_
    rw [hcount, hleft]
    rfl

end Search
end RowSearch
