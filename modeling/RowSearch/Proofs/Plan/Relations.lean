import RowSearch.Proofs.Plan.Isolation

/-! # Fields reached through relations

A condition on a field that relations lead to keeps a row when a chain of records leads from the
row, one relation at a time, to a record that meets the condition. All comparisons ask the same
record at the end of the chain, and on the way an object stands for itself and a list for each of
its items.
-/
namespace RowSearch

/-- What a row stores under a relation: the value under its camel case or, where that key is
missing, under the snake case of that spelling. -/
inductive Stored (row : Json) (relation : String) (v : Json) : Prop where
  | camel (h : row.get? (Text.lowerCamelCase relation) = some v)
  | snake (hc : row.get? (Text.lowerCamelCase relation) = none)
      (h : row.get? (Text.snakeCase (Text.lowerCamelCase relation)) = some v)

inductive Related (row : Json) (relation : String) : Json → Prop where
  | object {fields : Fields} (h : Stored row relation (.object fields)) :
      Related row relation (.object fields)
  | item {items : List Json} {v : Json} (h : Stored row relation (.array items)) (hv : v ∈ items) :
      Related row relation v

/-- A record at the end of a path of relations. -/
inductive Chain : Json → List String → Json → Prop where
  | nil (row : Json) : Chain row [] row
  | cons {row next record : Json} {relation : String} {rest : List String}
      (h : Related row relation next) (hrest : Chain next rest record) :
      Chain row (relation :: rest) record

def comparisonAnswer (field : String) (c : Operator × Json) (record : Json) :
    Except SearchError Bool :=
  match c.1 with
  | .compare comparison => do
    let comparator ← Comparator.ofText? comparison.sql
    comparator.holds (record.at? field) c.2
  | .oneOf => .ok (Comparator.listTest false (record.at? field) (Plan.listItems c.2))
  | .noneOf => .ok (Comparator.listTest true (record.at? field) (Plan.listItems c.2))
  | .isNull => .ok (Comparator.nullTest false (record.at? field))
  | .notNull => .ok (Comparator.nullTest true (record.at? field))

namespace FieldCondition

def Supported (f : FieldCondition) : Prop :=
  ∀ c v, (Operator.compare c, v) ∈ f.comparisons → ∃ k, Comparator.ofText? c.sql = .ok k

/-- Whether a record meets the accepted comparisons: all of them or, joined by `or`, one of
them if there are any. -/
def MetBy (f : FieldCondition) (record : Json) : Prop :=
  match f.mix with
  | .and => ∀ c ∈ f.accepted, comparisonAnswer f.path.field c record = .ok true
  | .or => f.accepted = [] ∨ ∃ c ∈ f.accepted, comparisonAnswer f.path.field c record = .ok true

/-- Whether the relations lead from a row to a record that meets the condition. -/
def Keeps (f : FieldCondition) (row : Json) : Prop :=
  ∃ record, Chain row f.path.relations record ∧ f.MetBy record

/-- Whether no comparison fails on a record that the relations lead to. -/
def Answered (f : FieldCondition) (row : Json) : Prop :=
  ∀ record, Chain row f.path.relations record →
    ∀ c ∈ f.accepted, ∃ b, comparisonAnswer f.path.field c record = .ok b

def answer (f : FieldCondition) (record : Json) : Except SearchError Bool :=
  match f.mix with
  | .and => f.accepted.allM (comparisonAnswer f.path.field · record)
  | .or =>
    if f.accepted = [] then .ok true
    else f.accepted.anyM (comparisonAnswer f.path.field · record)

theorem answer_iff {f : FieldCondition} {record : Json} {b : Bool} (h : f.answer record = .ok b) :
    b = true ↔ f.MetBy record := by
  rw [answer] at h
  rw [MetBy]
  cases hmix : f.mix with
  | and =>
    simp only [hmix] at h ⊢
    rw [← allM_eq_true_iff, h, Except.ok.injEq]
  | or =>
    simp only [hmix] at h ⊢
    by_cases hempty : f.accepted = []
    · rw [if_pos hempty] at h
      cases h
      exact iff_of_true rfl (Or.inl hempty)
    · rw [if_neg hempty] at h
      rw [anyM_eq_ok_iff h, or_iff_right hempty]

theorem answer_answers {f : FieldCondition} {record : Json}
    (h : ∀ c ∈ f.accepted, ∃ b, comparisonAnswer f.path.field c record = .ok b) :
    ∃ b, f.answer record = .ok b := by
  rw [answer]
  cases f.mix with
  | and => exact testM_answers (d := false) h
  | or =>
    by_cases hempty : f.accepted = []
    · exact ⟨true, if_pos hempty⟩
    · simp only [if_neg hempty]
      exact testM_answers (d := true) h

end FieldCondition

theorem related?_eq_some_iff {row v : Json} {relation : String} :
    related? row (Text.lowerCamelCase relation) = some v ↔ Stored row relation v := by
  rw [related?, Option.or_eq_some_iff]
  constructor
  · rintro (h | ⟨hc, h⟩)
    · exact .camel h
    · exact .snake hc h
  · rintro (h | ⟨hc, h⟩)
    · exact Or.inl h
    · exact Or.inr ⟨hc, h⟩

theorem mem_relatedRecords_iff {row record : Json} {relation : String} :
    record ∈ relatedRecords row (Text.lowerCamelCase relation) ↔ Related row relation record := by
  constructor
  · intro hmem
    rw [relatedRecords] at hmem
    split at hmem
    · next fields h =>
      obtain rfl := List.mem_singleton.mp hmem
      exact .object (related?_eq_some_iff.mp h)
    · next items h => exact .item (related?_eq_some_iff.mp h) hmem
    · exact absurd hmem List.not_mem_nil
  · rintro (h | ⟨h, hv⟩)
    · rw [relatedRecords, related?_eq_some_iff.mpr h]
      exact List.mem_singleton_self _
    · rw [relatedRecords, related?_eq_some_iff.mpr h]
      exact hv

def relationClauses (inner : List Clause) : List String → List Clause
  | [] => inner
  | relation :: rest => [(.and, .has (Text.lowerCamelCase relation) (relationClauses inner rest))]

theorem clausesHold_relation (row : Json) (inner : List Clause) (relation : String)
    (rest : List String) :
    clausesHold row (relationClauses inner (relation :: rest)) =
      (relatedRecords row (Text.lowerCamelCase relation)).anyM
        fun record => clausesHold record (relationClauses inner rest) := by
  rw [← anyRelated_eq_anyM, relationClauses, clausesHold, Predicate.holds]
  cases anyRelated row (Text.lowerCamelCase relation)
      fun record => clausesHold record (relationClauses inner rest) <;> rfl

/-- A row that has an answer is kept when some chain leads to a record that the clauses keep. -/
theorem clausesHold_relations_iff {inner : List Clause} {met : Json → Prop}
    (hinner : ∀ record b, clausesHold record inner = .ok b → (b = true ↔ met record))
    {relations : List String} {row : Json} {kept : Bool}
    (h : clausesHold row (relationClauses inner relations) = .ok kept) :
    kept = true ↔ ∃ record, Chain row relations record ∧ met record := by
  -- `met` is a property and not an answer: behind the item that decides the clauses may fail
  induction relations generalizing row kept with
  | nil =>
    rw [relationClauses] at h
    constructor
    · intro hk
      exact ⟨row, .nil row, (hinner row kept h).mp hk⟩
    · rintro ⟨record, hchain, hmet⟩
      cases hchain
      exact (hinner row kept h).mpr hmet
  | cons relation rest ih =>
    rw [clausesHold_relation] at h
    constructor
    · intro hk
      subst hk
      obtain ⟨next, hmem, hnext⟩ := exists_of_anyM_eq_true h
      obtain ⟨record, hchain, hmet⟩ := (ih hnext).mp rfl
      exact ⟨record, .cons (mem_relatedRecords_iff.mp hmem) hchain, hmet⟩
    · rintro ⟨record, hchain, hmet⟩
      cases hchain with
      | cons hrel hrest =>
        cases kept with
        | true => rfl
        | false =>
          have hnext := anyM_eq_false_iff.mp h _ (mem_relatedRecords_iff.mpr hrel)
          exact (ih hnext).mpr ⟨record, hrest, hmet⟩

theorem clausesHold_relations_answers {inner : List Clause} {relations : List String} {row : Json}
    (h : ∀ record, Chain row relations record → ∃ b, clausesHold record inner = .ok b) :
    ∃ kept, clausesHold row (relationClauses inner relations) = .ok kept := by
  induction relations generalizing row with
  | nil => exact h row (.nil row)
  | cons relation rest ih =>
    rw [clausesHold_relation]
    refine testM_answers (d := true) ?_
    intro next hmem
    apply ih
    intro record hchain
    exact h record (.cons (mem_relatedRecords_iff.mp hmem) hchain)

namespace Plan

/-- A comparison that rows can answer adds one clause, which gives the comparison's answer. -/
theorem comparisonCall_clauses (join : Connective) (column : String) {c : Operator × Json}
    (h : ∀ comparison, c.1 = .compare comparison → ∃ k, Comparator.ofText? comparison.sql = .ok k) :
    ∃ p : Predicate, (comparisonCall join column c.1 c.2).clauses = .ok [(join, p)] ∧
      ∀ record, p.holds record = comparisonAnswer column c record := by
  obtain ⟨operator, v⟩ := c
  cases operator with
  | compare comparison =>
    obtain ⟨k, hk⟩ := h comparison rfl
    refine ⟨.compare column k v, ?_, ?_⟩
    · rw [comparisonCall, Call.clauses, hk]
      rfl
    · intro record
      simp only [Predicate.holds, comparisonAnswer, hk]
      rfl
  | oneOf =>
    refine ⟨.listed column (listItems v) false, rfl, fun _ => ?_⟩
    rw [Predicate.holds, comparisonAnswer]
  | noneOf =>
    refine ⟨.listed column (listItems v) true, rfl, fun _ => ?_⟩
    rw [Predicate.holds, comparisonAnswer]
  | isNull =>
    refine ⟨.null column false, rfl, fun _ => ?_⟩
    rw [Predicate.holds, comparisonAnswer]
  | notNull =>
    refine ⟨.null column true, rfl, fun _ => ?_⟩
    rw [Predicate.holds, comparisonAnswer]

theorem comparisonCall_constrains (join : Connective) (column : String) (c : Operator × Json) :
    (comparisonCall join column c.1 c.2).constrains = true := by
  obtain ⟨operator, v⟩ := c
  cases operator <;> rfl

theorem comparisons_clauses (join : Connective) (column : String) {cs : List (Operator × Json)}
    (h : ∀ c ∈ cs, ∀ comparison, c.1 = .compare comparison →
      ∃ k, Comparator.ofText? comparison.sql = .ok k) :
    ∃ ps : List Predicate,
      clausesOf (cs.map fun c => comparisonCall join column c.1 c.2) =
        .ok (ps.map fun p => (join, p)) ∧
      (ps = [] ↔ cs = []) ∧
      ∀ record, allHold record ps = cs.allM (comparisonAnswer column · record) ∧
        ps.anyM (·.holds record) = cs.anyM (comparisonAnswer column · record) := by
  induction cs with
  | nil => exact ⟨[], rfl, by simp, fun _ => ⟨rfl, rfl⟩⟩
  | cons c cs ih =>
    obtain ⟨p, hp, hanswer⟩ := comparisonCall_clauses join column (h c List.mem_cons_self)
    obtain ⟨ps, hps, _, hrest⟩ := ih fun d hd => h d (List.mem_cons_of_mem c hd)
    refine ⟨p :: ps, ?_, by simp, ?_⟩
    · exact clausesOf_cons_ok.mpr ⟨_, _, hp, hps, rfl⟩
    · intro record
      obtain ⟨hall, hany⟩ := hrest record
      rw [allHold] at hall ⊢
      constructor
      · rw [List.allM_cons, List.allM_cons, hanswer, hall]
      · rw [List.anyM_cons, List.anyM_cons, hanswer, hany]

/-- The calls of a condition's comparisons add clauses that give the condition's answer. -/
theorem comparisonCalls_clauses {f : FieldCondition} (hf : f.Supported) :
    ∃ clauses, clausesOf (comparisonCalls f) = .ok clauses ∧
      ∀ record, clausesHold record clauses = f.answer record := by
  have hsupported : ∀ c ∈ f.accepted, ∀ comparison, c.1 = .compare comparison →
      ∃ k, Comparator.ofText? comparison.sql = .ok k := by
    rintro ⟨operator, v⟩ hmem comparison rfl
    exact hf comparison v (List.mem_filter.mp hmem).1
  obtain ⟨ps, hps, hnil, hanswer⟩ := comparisons_clauses f.mix f.path.field hsupported
  refine ⟨_, hps, ?_⟩
  intro record
  have hsnd : (ps.map fun p => (f.mix, p)).map Prod.snd = ps := by simp [Function.comp_def]
  rw [FieldCondition.answer]
  cases hmix : f.mix with
  | and =>
    rw [hmix] at hsnd
    rw [clausesHold_of_and (by simp), hsnd]
    exact (hanswer record).1
  | or =>
    rw [hmix] at hsnd
    by_cases hempty : f.accepted = []
    · rw [hnil.mpr hempty, hempty]
      rfl
    · have hne : (ps.map fun p => (Connective.or, p)) ≠ [] :=
        fun h => hempty (hnil.mp (List.map_eq_nil_iff.mp h))
      rw [clausesHold_of_or hne (by simp), hsnd, (hanswer record).2]
      simp [hempty]

theorem comparisonCalls_constrain (f : FieldCondition) :
    ∀ c ∈ comparisonCalls f, c.constrains = true := by
  intro c hc
  obtain ⟨comparison, _, rfl⟩ := List.mem_map.mp hc
  exact comparisonCall_constrains f.mix f.path.field comparison

theorem relationCall_clauses {body : List Call} {inner : List Clause}
    (hc : ∀ c ∈ body, c.constrains = true) (h : clausesOf body = .ok inner) (relation : String)
    (rest : List String) :
    (relationCall body relation rest).clauses = .ok (relationClauses inner (relation :: rest)) := by
  induction rest generalizing relation with
  | nil =>
    rw [relationCall, Call.clauses, Query.ofCalls_of_clausesOf hc h]
    rfl
  | cons next rest ih =>
    have hcall : clausesOf [relationCall body next rest] =
        .ok (relationClauses inner (next :: rest)) :=
      clausesOf_cons_ok.mpr ⟨_, [], ih next, rfl, (List.append_nil _).symm⟩
    have hconstrains : ∀ c ∈ [relationCall body next rest], c.constrains = true := by
      obtain ⟨calls, hhas⟩ := relationCall_has body next rest
      simp [hhas, Call.constrains]
    rw [relationCall, Call.clauses, Query.ofCalls_of_clausesOf hconstrains hcall]
    rfl

/-- A field's call adds what its comparisons ask at the end of the path; a group that asks
nothing is left out. -/
theorem fieldCall_clauses {f : FieldCondition} (hf : f.Supported) :
    ∃ inner clauses, (∀ record, clausesHold record inner = f.answer record) ∧
      (fieldCall f).clauses = .ok clauses ∧
      ∀ row, clausesHold row clauses =
        clausesHold row (relationClauses inner f.path.relations) := by
  obtain ⟨inner, hinner, hanswer⟩ := comparisonCalls_clauses hf
  have hconstrains := comparisonCalls_constrain f
  rw [fieldCall]
  cases f.path.relations with
  | nil =>
    refine ⟨inner, if inner.isEmpty then [] else [(.and, .group inner)], hanswer, ?_, ?_⟩
    · simp only [Call.clauses, Query.ofCalls_of_clausesOf hconstrains hinner, Except.map]
    · intro row
      cases inner with
      | nil => rfl
      | cons clause inner =>
        simp only [List.isEmpty_cons, Bool.false_eq_true, if_false, relationClauses]
        rw [clausesHold_of_and (by simp)]
        simp only [List.map_cons, List.map_nil]
        rw [allHold_singleton, Predicate.holds]
  | cons relation rest =>
    refine ⟨inner, relationClauses inner (relation :: rest), hanswer, ?_, fun _ => rfl⟩
    exact relationCall_clauses hconstrains hinner relation rest

/-- The step of a field condition adds clauses to any query. They keep a row when the relations
lead from it to a record that meets the condition, and the step alone finds such rows. -/
theorem run_field {f : FieldCondition} (hf : f.Supported) :
    ∃ clauses,
      (∀ q : Query, q.run (stepCalls (.field f)) = (q.addClauses clauses, none)) ∧
      (∀ row kept, clausesHold row clauses = .ok kept → (kept = true ↔ f.Keeps row)) ∧
      (∀ row, f.Answered row → ∃ kept, clausesHold row clauses = .ok kept) ∧
      ∀ rows : List Json, (∀ row ∈ rows, f.Answered row) →
        ∃ keeps : Json → Bool, (∀ row ∈ rows, keeps row = true ↔ f.Keeps row) ∧
          (Query.ofCalls (stepCalls (.field f)) >>= (·.fetch rows)) = .ok (rows.filter keeps) := by
  obtain ⟨inner, clauses, hanswer, hclauses, hsame⟩ := fieldCall_clauses hf
  have hcalls : clausesOf (stepCalls (.field f)) = .ok clauses :=
    clausesOf_cons_ok.mpr ⟨clauses, [], hclauses, rfl, (List.append_nil clauses).symm⟩
  have hconstrains := (fieldStep_apart f).constrains
  have hkept : ∀ row kept, clausesHold row clauses = .ok kept → (kept = true ↔ f.Keeps row) := by
    intro row kept h
    rw [hsame] at h
    refine clausesHold_relations_iff ?_ h
    intro record b hb
    rw [hanswer] at hb
    exact FieldCondition.answer_iff hb
  have hanswered : ∀ row, f.Answered row → ∃ kept, clausesHold row clauses = .ok kept := by
    intro row h
    rw [hsame]
    apply clausesHold_relations_answers
    intro record hchain
    rw [hanswer]
    exact FieldCondition.answer_answers (h record hchain)
  refine ⟨clauses, fun q => Query.run_of_clausesOf q hconstrains hcalls, hkept, hanswered, ?_⟩
  intro rows h
  have hkeeps : ∀ row ∈ rows, clausesHold row clauses = .ok (clausesKeep clauses row) :=
    fun row hrow => clausesHold_eq_clausesKeep (hanswered row (h row hrow))
  refine ⟨clausesKeep clauses, fun row hrow => hkept row _ (hkeeps row hrow), ?_⟩
  rw [Query.ofCalls_of_clausesOf hconstrains hcalls]
  exact (Query.fetch_of_wheres clauses rows).trans (Query.keep_eq_filter hkeeps)

def makerTown : FieldCondition where
  path := ⟨["order_items", "maker"], "town"⟩
  comparisons := [(.compare (.verbatim "LIKE"), .string "R%"), (.oneOf, .array []),
    (.isNull, .bool false)]
  mix := .or

def orderOf (town : Json) : Json :=
  .object [("order_items", .array [.object [("maker", .null)],
    .object [("maker", .object [("town", town)])]])]

theorem run_field_makerTown :
    makerTown.Supported ∧ (∀ row, makerTown.Answered row) ∧
    makerTown.Keeps (orderOf (.string "Rome")) ∧ makerTown.Keeps (orderOf .null) ∧
    ¬ makerTown.Keeps (orderOf (.string "Oslo")) ∧ ¬ makerTown.Keeps (.object []) := by
  have hsupported : makerTown.Supported := by
    intro c v hmem
    have hc : Operator.compare c = .compare (.verbatim "LIKE") := by
      simp [makerTown] at hmem
      rw [hmem.1]
    cases hc
    exact exists_of_isOk (by decide +kernel)
  have hanswered : ∀ row, makerTown.Answered row := by
    intro row record _ c hc
    have hcases : c = (.compare (.verbatim "LIKE"), .string "R%") ∨ c = (.isNull, .bool false) := by
      simpa [FieldCondition.accepted, makerTown, Operator.accepts] using hc
    rcases hcases with rfl | rfl
    · have hlike : (Comparator.ofText? "LIKE").toOption = some (.like false false) := by
        decide +kernel
      cases hk : Comparator.ofText? "LIKE" with
      | error e => simp [hk, Except.toOption] at hlike
      | ok k =>
        obtain rfl : k = .like false false := by simpa [hk, Except.toOption] using hlike
        simp only [comparisonAnswer, Comparison.sql, hk, bind, Except.bind, Comparator.holds]
        cases (Json.present (record.at? makerTown.path.field)).bind Json.scalarText? with
        | none => exact ⟨false, rfl⟩
        | some text => exact ⟨_, rfl⟩
    · exact ⟨_, rfl⟩
  obtain ⟨_, _, _, _, hfetch⟩ := run_field hsupported
  have hone (row : Json) : makerTown.Keeps row ↔
      ((Query.ofCalls (stepCalls (.field makerTown)) >>= (·.fetch [row])).toOption.map
        List.length) = some 1 := by
    obtain ⟨keeps, hkeeps, hfound⟩ := hfetch [row] fun r _ => hanswered r
    rw [hfound, ← hkeeps row List.mem_cons_self]
    cases h : keeps row <;> simp [h, Except.toOption]
  refine ⟨hsupported, hanswered, (hone _).mpr ?_, (hone _).mpr ?_, mt (hone _).mp ?_,
    mt (hone _).mp ?_⟩ <;> decide +kernel

end Plan
end RowSearch
