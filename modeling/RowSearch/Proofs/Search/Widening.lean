import RowSearch.Proofs.Plan.Isolation
import RowSearch.Proofs.Plan.Ordering
import RowSearch.Search.Basic

/-! # One condition more

An entry for a field, put anywhere among the conditions of a request, is one step more in the plan
and one call more among those that build the query. The call changes nothing but the conditions,
where its clauses stand among those of the others, all of them joined by `and`. So rows for which
the new clauses hold are kept as before, and of the rows that have an answer no others are kept;
whatever groups, sorts and cuts the rows does it alike.
-/
namespace RowSearch

theorem mem_clausesOf {calls : List Call} {clauses : List Clause} {clause : Clause}
    (h : clausesOf calls = .ok clauses) (hclause : clause ∈ clauses) :
    ∃ call ∈ calls, ∃ added, call.clauses = .ok added ∧ clause ∈ added := by
  induction calls generalizing clauses with
  | nil =>
    cases h
    cases hclause
  | cons c calls ih =>
    obtain ⟨first, rest, hfirst, hrest, rfl⟩ := clausesOf_cons_ok.mp h
    rcases List.mem_append.mp hclause with hclause | hclause
    · exact ⟨c, List.mem_cons_self, first, hfirst, hclause⟩
    · obtain ⟨call, hcall, hadded⟩ := ih hrest hclause
      exact ⟨call, List.mem_cons_of_mem c hcall, hadded⟩

namespace Query

def behind (q : Query) (clauses : List Clause) : Query :=
  { q with wheres := clauses ++ q.wheres }

theorem foldl_addSort_behind (q : Query) (clauses : List Clause)
    (keys : List (String × Direction)) :
    keys.foldl addSort (q.behind clauses) = (keys.foldl addSort q).behind clauses := by
  rw [foldl_addSort_eq, foldl_addSort_eq]
  rfl

theorem foldl_addGroup_behind (q : Query) (clauses : List Clause) (columns : List String) :
    columns.foldl addGroup (q.behind clauses) = (columns.foldl addGroup q).behind clauses := by
  induction columns generalizing q with
  | nil => rfl
  | cons column columns ih =>
    have hfirst : (q.behind clauses).addGroup column = (q.addGroup column).behind clauses := by
      by_cases h : q.groups.contains column = true
      · rw [addGroup, addGroup, if_pos h, if_pos (by exact h)]
      · rw [addGroup, addGroup, if_neg h, if_neg (by exact h)]
        rfl
    rw [List.foldl_cons, List.foldl_cons, hfirst, ih]

theorem addGroups_behind (q : Query) (clauses : List Clause) (groups : GroupList) :
    (q.behind clauses).addGroups groups =
      ((q.addGroups groups).1.behind clauses, (q.addGroups groups).2) := by
  induction groups generalizing q with
  | nil => rfl
  | cons group groups ih =>
    rw [addGroups, addGroups]
    cases groupColumns group with
    | error e => rfl
    | ok names =>
      simp only [foldl_addGroup_behind]
      exact ih _

/-- What a call does, it does behind other conditions too. -/
theorem call_behind (q : Query) (clauses : List Clause) (c : Call) :
    (q.behind clauses).call c = ((q.call c).1.behind clauses, (q.call c).2) := by
  by_cases hc : c.constrains = true
  · rw [call_of_constrains _ hc, call_of_constrains _ hc]
    cases c.clauses with
    | error e => rfl
    | ok added => simp [orKeep, behind, addClauses]
  · cases c with
    | orderByRaw fragment =>
      rw [call, call]
      cases Raw.orderColumns fragment.sql with
      | error e => rfl
      | ok keys => simp only [orKeep, foldl_addSort_behind]
    | groupBy groups =>
      rw [call, call]
      exact addGroups_behind q clauses groups
    | havingRaw join fragment =>
      rw [call, call]
      cases Raw.parse fragment <;> rfl
    | orderBy | skip | take => rfl
    | _ => exact absurd rfl hc

theorem run_behind (q : Query) (clauses : List Clause) (calls : List Call) :
    (q.behind clauses).run calls = ((q.run calls).1.behind clauses, (q.run calls).2) := by
  induction calls generalizing q with
  | nil => rfl
  | cons c calls ih =>
    rw [run, run, call_behind]
    obtain ⟨q', _ | e⟩ := q.call c
    · exact ih q'
    · rfl

/-- Whether a query has the same parts as another one and some more conditions, which stand
somewhere among its own. -/
def Widens (added : List Clause) (q wide : Query) : Prop :=
  ∃ before after, q.wheres = before ++ after ∧
    wide = { q with wheres := before ++ added ++ after }

/-- A call that constrains, put among others, fails nothing and adds its clauses. -/
theorem ofCalls_insert (first more : List Call) {c : Call} {added : List Clause}
    (hc : c.constrains = true) (h : c.clauses = .ok added) :
    (∃ e, ofCalls (first ++ more) = .error e ∧ ofCalls (first ++ c :: more) = .error e) ∨
    ∃ q wide, ofCalls (first ++ more) = .ok q ∧ ofCalls (first ++ c :: more) = .ok wide ∧
      Widens added q wide := by
  rw [ofCalls, ofCalls, run_append, run_append]
  obtain ⟨mid, _ | e⟩ := run {} first
  · obtain ⟨base, clauses, rfl, hbase⟩ : ∃ base clauses, mid = behind base clauses ∧
        base.wheres = [] := by
      refine ⟨{ mid with wheres := [] }, mid.wheres, ?_, rfl⟩
      rw [behind, List.append_nil]
    have hcall : (base.behind clauses).call c = (base.behind (clauses ++ added), none) := by
      rw [call_of_constrains _ hc, h]
      simp [orKeep, addClauses, behind, hbase]
    simp only [run, hcall, run_behind]
    obtain ⟨q, _ | e⟩ := run base more
    · exact .inr ⟨_, _, rfl, rfl, clauses, q.wheres, rfl, rfl⟩
    · exact .inl ⟨e, rfl, rfl⟩
  · exact .inl ⟨e, rfl, rfl⟩

section Rows
variable {added : List Clause} {q wide : Query} {rows left : List Json}

/-- What more conditions, all joined by `and`, change for a row that they have an answer for. -/
theorem Widens.keeps {row : Json} {b : Bool} (h : Widens added q wide)
    (hjoined : ∀ clause ∈ wide.wheres, clause.1 = .and)
    (hadded : clausesHold row added = .ok b) :
    (b = true → clausesHold row wide.wheres = clausesHold row q.wheres) ∧
    ∀ kept, clausesHold row q.wheres = .ok kept →
      clausesHold row wide.wheres = .ok (b && kept) := by
  obtain ⟨before, after, hq, rfl⟩ := h
  have hsub : ∀ clause ∈ before ++ after, clause ∈ before ++ added ++ after := by
    intro clause hclause
    simp only [List.mem_append] at hclause ⊢
    tauto
  have hpart : ∀ clause ∈ added, clause ∈ before ++ added ++ after := by
    intro clause hclause
    simp [hclause]
  rw [clausesHold_of_and fun clause hclause => hjoined clause (hpart clause hclause)] at hadded
  simp only [hq]
  rw [clausesHold_of_and hjoined,
    clausesHold_of_and fun clause hclause => hjoined clause (hsub clause hclause)]
  simp only [List.map_append, allHold_append, hadded]
  cases allHold row (before.map Prod.snd) with
  | error e => simp
  | ok first => cases first <;> cases b <;> simp

theorem keep_congr_of_mem {a b : List Clause}
    (h : ∀ row ∈ rows, clausesHold row a = clausesHold row b) : keep a rows = keep b rows := by
  induction rows with
  | nil => rfl
  | cons row rows ih =>
    obtain ⟨hrow, hrows⟩ := List.forall_mem_cons.mp h
    rw [keep, keep, hrow, ih hrows]

/-- Rows that the conditions of another query keep alike are answered alike. -/
theorem Widens.matching (h : Widens added q wide)
    (hkeep : keep wide.wheres rows = keep q.wheres left) :
    wide.matching rows = q.matching left := by
  obtain ⟨before, after, _, rfl⟩ := h
  rw [Query.matching, hkeep]
  rfl

end Rows

end Query
namespace Plan
variable {m : Model} {registry : Registry}

/-- A call of a step stands apart or does not constrain. -/
theorem apart_of_mem_stepCalls {s : Step} {call : Call} (h : call ∈ stepCalls s) :
    call.Apart ∨ call.constrains = false := by
  cases s with
  | field f =>
    rw [List.mem_singleton.mp h]
    exact .inl (fieldCall_apart f)
  | raw | callback | scope =>
    rw [List.mem_singleton.mp h]
    exact .inl trivial
  | groupBy | having =>
    rw [List.mem_singleton.mp h]
    exact .inr rfl
  | order term =>
    cases term <;>
    · rw [List.mem_singleton.mp h]
      exact .inr rfl
  | window offset limit =>
    rcases List.mem_pair.mp h with rfl | rfl <;> exact .inr rfl

/-- The conditions of a plan's query are all joined by `and`. -/
theorem joined_of_ofCalls {p : Plan} {q : Query} (h : Query.ofCalls p.calls = .ok q) :
    ∀ clause ∈ q.wheres, clause.1 = .and := by
  intro clause hclause
  obtain ⟨call, hcall, added, hadded, hclause⟩ :=
    mem_clausesOf (Query.clausesOf_of_ofCalls h) hclause
  obtain ⟨s, _, hcall⟩ := List.mem_flatMap.mp hcall
  rcases apart_of_mem_stepCalls hcall with hapart | hnot
  · exact hapart.joined hadded clause hclause
  · rw [Call.clauses_of_not_constrains hnot] at hadded
    cases hadded
    cases hclause

def laterSteps (c : Criteria) : Plan :=
  (if c.groupBy.isEmpty then [] else [Step.groupBy c.groupBy]) ++
    (c.having.filterMap havingStep? ++
      (c.order.map Step.order ++ if c.limit = 0 then [] else [Step.window c.offset c.limit]))

theorem build_eq_map (c : Criteria) :
    build c m registry = (c.wheres.mapM (whereStep m registry)).map fun wheres =>
      (c.keyword?.bind (keywordStep? · m)).toList ++ (wheres ++ laterSteps c) := by
  rw [build]
  cases c.wheres.mapM (whereStep m registry) with
  | error e => rfl
  | ok wheres => simp [bind, Except.bind, pure, Except.pure, Except.map, laterSteps]

/-- A field condition among others is a step among theirs. -/
theorem build_insert (c : Criteria) (before after : List Condition) (f : FieldCondition) :
    (∃ e, build { c with wheres := before ++ after } m registry = .error e ∧
      build { c with wheres := before ++ .field f :: after } m registry = .error e) ∨
    ∃ first more, build { c with wheres := before ++ after } m registry = .ok (first ++ more) ∧
      build { c with wheres := before ++ .field f :: after } m registry =
        .ok (first ++ .field f :: more) := by
  rw [build_eq_map, build_eq_map]
  simp only [List.mapM_append, List.mapM_cons, whereStep]
  cases before.mapM (whereStep m registry) with
  | error e => exact .inl ⟨e, rfl, rfl⟩
  | ok first =>
    cases after.mapM (whereStep m registry) with
    | error e => exact .inl ⟨e, rfl, rfl⟩
    | ok more =>
      refine .inr ⟨(c.keyword?.bind (keywordStep? · m)).toList ++ first, more ++ laterSteps c,
        ?_, ?_⟩
      · simp [bind, Except.bind, pure, Except.pure, Except.map, laterSteps]
      · simp [bind, Except.bind, pure, Except.pure, Except.map, laterSteps]

end Plan

namespace Search

section Entries
variable {r : Request} {before after : List Entry} {e : Entry} {f : FieldCondition}

theorem wheresOf_insert (before after : List Entry) (he : e.condition = .ok (some (.field f))) :
    (∃ failed, Criteria.wheresOf (before ++ after) = .error failed ∧
      Criteria.wheresOf (before ++ e :: after) = .error failed) ∨
    ∃ first more, Criteria.wheresOf (before ++ after) = .ok (first ++ more) ∧
      Criteria.wheresOf (before ++ e :: after) = .ok (first ++ .field f :: more) := by
  rw [Criteria.wheresOf, Criteria.wheresOf, List.mapM_append, List.mapM_append, List.mapM_cons, he]
  cases before.mapM Entry.condition with
  | error failed => exact .inl ⟨failed, rfl, rfl⟩
  | ok first =>
    cases after.mapM Entry.condition with
    | error failed => exact .inl ⟨failed, rfl, rfl⟩
    | ok more =>
      refine .inr ⟨first.filterMap id, more.filterMap id, ?_, ?_⟩
      · simp [bind, Except.bind, pure, Except.pure, Except.map]
      · simp [bind, Except.bind, pure, Except.pure, Except.map]

/-- An entry for a field is a step among those of the other conditions. -/
theorem plan_insert (m : Model) (registry : Registry) (hr : r.wheres = before ++ after)
    (he : e.condition = .ok (some (.field f))) :
    (∃ failed, plan r m registry = .error failed ∧
      plan { r with wheres := before ++ e :: after } m registry = .error failed) ∨
    ∃ first more, plan r m registry = .ok (first ++ more) ∧
      plan { r with wheres := before ++ e :: after } m registry =
        .ok (first ++ .field f :: more) := by
  rw [plan, plan, Criteria.ofRequest, Criteria.ofRequest, hr]
  rcases wheresOf_insert before after he with
    ⟨failed, hwheres, hwide⟩ | ⟨first, more, hwheres, hwide⟩
  · rw [hwheres, hwide]
    exact .inl ⟨failed, rfl, rfl⟩
  · rw [hwheres, hwide]
    cases Criteria.havingOf r.having with
    | error failed => exact .inl ⟨failed, rfl, rfl⟩
    | ok having =>
      exact Plan.build_insert ⟨[], r.order, r.groupBy, having, Criteria.keywordOf? r.keyword?,
        r.page?, r.pageSize?, r.offset, r.limit⟩ first more f

/-- An entry for a field adds the clauses of its call to the query. -/
theorem query_insert {added : List Clause} (m : Model) (registry : Registry)
    (hr : r.wheres = before ++ after) (he : e.condition = .ok (some (.field f)))
    (hf : (Plan.fieldCall f).clauses = .ok added) :
    (∃ failed, query r m registry = .error failed ∧
      query { r with wheres := before ++ e :: after } m registry = .error failed) ∨
    ∃ q wide, query r m registry = .ok q ∧
      query { r with wheres := before ++ e :: after } m registry = .ok wide ∧
      Query.Widens added q wide ∧ ∀ clause ∈ wide.wheres, clause.1 = .and := by
  rw [query, query]
  rcases plan_insert m registry hr he with
    ⟨failed, hplan, hwide⟩ | ⟨first, more, hplan, hwide⟩
  · rw [hplan, hwide]
    exact .inl ⟨failed, rfl, rfl⟩
  · have hcalls : Plan.calls (first ++ more) = Plan.calls first ++ Plan.calls more :=
      List.flatMap_append
    have hcalls' : Plan.calls (first ++ .field f :: more) =
        Plan.calls first ++ Plan.fieldCall f :: Plan.calls more := List.flatMap_append
    rw [hplan, hwide]
    change (∃ failed, Query.ofCalls (Plan.calls _) = .error failed ∧
      Query.ofCalls (Plan.calls _) = .error failed) ∨ ∃ q wide,
      Query.ofCalls (Plan.calls _) = .ok q ∧ Query.ofCalls (Plan.calls _) = .ok wide ∧ _ ∧ _
    rcases Query.ofCalls_insert (Plan.calls first) (Plan.calls more)
      (Plan.fieldCall_apart f).constrains hf with h | ⟨q, wide, hq, hwide, hwidens⟩
    · rw [hcalls, hcalls']
      exact .inl h
    · rw [← hcalls'] at hwide
      rw [hcalls]
      exact .inr ⟨q, wide, hq, hwide, hwidens, Plan.joined_of_ofCalls hwide⟩

end Entries

section Answers
variable {config : Config} {registry : Registry} {t : Table} {r : Request} {q wide : Query}

theorem answerPage_congr {rows left : List Json} (h : wide.matching rows = q.matching left)
    (w : PageWindow) (shape : Shape) :
    answerPage wide rows w shape = answerPage q left w shape := by
  have hcount : Query.count { wide with offset := w.offset } rows =
      Query.count { q with offset := w.offset } left :=
    congrArg (Except.map fun found : List Json => UInt64.ofNat found.length) h
  have hfetch (limit : UInt64) :
      Query.fetch { wide with offset := w.offset, limit? := some limit } rows =
        Query.fetch { q with offset := w.offset, limit? := some limit } left :=
    congrArg (Except.map fun found : List Json => (found.drop w.offset.toNat).take limit.toNat) h
  cases shape <;> simp only [answerPage, hcount, hfetch]

/-- Requests that differ in their conditions and match the same rows are answered alike. -/
theorem answers_of_widens {added : List Clause} {wheres : List Entry} {left : List Json}
    (hq : query r t.model registry = .ok q)
    (hwide : query { r with wheres := wheres } t.model registry = .ok wide)
    (hw : Query.Widens added q wide) (h : wide.matching t.rows = q.matching left) :
    (∀ options, run config registry t { r with wheres := wheres } options =
      run config registry { t with rows := left } r options) ∧
    count registry t { r with wheres := wheres } = count registry { t with rows := left } r := by
  have hfetch : wide.fetch t.rows = q.fetch left := by
    obtain ⟨before, after, _, rfl⟩ := hw
    rw [Query.fetch, h]
    rfl
  constructor
  · intro options
    simp only [run, hwide, hq, bind, Except.bind]
    cases r.page? with
    | none => simp only [hfetch]
    | some page => exact answerPage_congr h _ _
  · simp only [count, hwide, hq, bind, Except.bind, Query.count, h]

/-- Where a request has no query its searches and its count fail alike. -/
theorem answers_of_query_error {failed : SearchError}
    (h : query r t.model registry = .error failed) :
    (∀ options, run config registry t r options = .error failed) ∧
      count registry t r = .error failed := by
  constructor
  · intro options
    rw [run, h]
    rfl
  · rw [count, h]
    rfl

end Answers

end Search
end RowSearch
