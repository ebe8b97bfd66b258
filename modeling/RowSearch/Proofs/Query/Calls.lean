import RowSearch.Proofs.Answers
import RowSearch.Query.Basic

/-! # What calls do to a query

Of the calls of a query some constrain the rows and the others group, sort or cut them. A call
that constrains appends clauses that do not depend on the query, or fails and changes nothing.
So the conditions of a query are the clauses of its calls in order, and calls of the other kinds
can be dropped from the body of a group or a relation, at any depth.
-/
namespace RowSearch

/-- Whether a call constrains the rows. -/
def Call.constrains : Call → Bool
  | .orderBy _ _ | .orderByRaw _ | .groupBy _ | .havingRaw _ _ | .skip _ | .take _ => false
  | _ => true

def Call.setsWindow : Call → Bool
  | .skip _ | .take _ => true
  | _ => false

def Call.clauses : Call → Except SearchError (List Clause)
  | .compare join field comparison value =>
    (Comparator.ofText? comparison.sql).map fun c => [(join, .compare field c value)]
  | .oneOf join field values => .ok [(join, .listed field values false)]
  | .noneOf join field values => .ok [(join, .listed field values true)]
  | .isNull join field => .ok [(join, .null field false)]
  | .notNull join field => .ok [(join, .null field true)]
  | .group join body =>
    (Query.ofCalls body).map fun inner =>
      if inner.wheres.isEmpty then [] else [(join, .group inner.wheres)]
  | .has relation body =>
    (Query.ofCalls body).map fun inner => [(.and, .has relation inner.wheres)]
  | .raw join fragment => (Raw.parse fragment).map fun e => [(join, .raw e)]
  | .refuse message => .error (.invalidQuery (.refused message))
  | _ => .ok []

def clausesOf : List Call → Except SearchError (List Clause)
  | [] => .ok []
  | c :: cs => do
    let first ← c.clauses
    let rest ← clausesOf cs
    return first ++ rest

theorem Call.clauses_of_not_constrains {c : Call} (h : c.constrains = false) :
    c.clauses = .ok [] := by
  cases c with
  | orderBy | orderByRaw | groupBy | havingRaw | skip | take => rfl
  | _ => exact absurd h Bool.noConfusion

theorem clausesOf_cons_ok {c : Call} {cs : List Call} {clauses : List Clause} :
    clausesOf (c :: cs) = .ok clauses ↔
      ∃ first rest, c.clauses = .ok first ∧ clausesOf cs = .ok rest ∧ clauses = first ++ rest := by
  rw [clausesOf]
  cases c.clauses with
  | error e => simp [bind, Except.bind]
  | ok first =>
    cases clausesOf cs with
    | error e => simp [bind, Except.bind]
    | ok rest => simp [bind, Except.bind, pure, Except.pure, eq_comm]

theorem clausesOf_append {cs ds : List Call} {first rest : List Clause}
    (hcs : clausesOf cs = .ok first) (hds : clausesOf ds = .ok rest) :
    clausesOf (cs ++ ds) = .ok (first ++ rest) := by
  induction cs generalizing first with
  | nil =>
    cases hcs
    exact hds
  | cons c cs ih =>
    obtain ⟨a, b, ha, hb, rfl⟩ := clausesOf_cons_ok.mp hcs
    rw [List.append_assoc]
    exact clausesOf_cons_ok.mpr ⟨a, b ++ rest, ha, ih hb, rfl⟩

namespace Query

def addClauses (q : Query) (clauses : List Clause) : Query :=
  { q with wheres := q.wheres ++ clauses }

@[simp] theorem addClauses_nil (q : Query) : q.addClauses [] = q := by
  simp [addClauses]

@[simp] theorem addClauses_append (q : Query) (a b : List Clause) :
    (q.addClauses a).addClauses b = q.addClauses (a ++ b) := by
  simp [addClauses]

theorem ofCalls_eq_ok_iff {calls : List Call} {q : Query} :
    ofCalls calls = .ok q ↔ run {} calls = (q, none) := by
  rw [ofCalls]
  obtain ⟨inner, _ | e⟩ := run {} calls <;> simp

/-- A call that constrains appends its clauses; where these fail the query stays as it is. -/
theorem call_of_constrains (q : Query) {c : Call} (h : c.constrains = true) :
    q.call c = q.orKeep c.clauses q.addClauses := by
  cases c with
  | compare join field comparison value =>
    rw [call, Call.clauses]
    cases Comparator.ofText? comparison.sql <;> rfl
  | raw join fragment =>
    rw [call, Call.clauses]
    cases Raw.parse fragment <;> rfl
  | group join body =>
    rw [call, Call.clauses, ofCalls]
    obtain ⟨inner, _ | e⟩ := run {} body
    · by_cases hw : inner.wheres.isEmpty = true
      · simp [orKeep, Except.map, hw]
      · simp [orKeep, Except.map, hw, addWhere, addClauses]
    · rfl
  | has relation body =>
    rw [call, Call.clauses, ofCalls]
    obtain ⟨inner, _ | e⟩ := run {} body <;> rfl
  | oneOf => rfl
  | noneOf => rfl
  | isNull => rfl
  | notNull => rfl
  | refuse => rfl
  | orderBy | orderByRaw | groupBy | havingRaw | skip | take => exact absurd h Bool.noConfusion

/-- Sort keys change nothing but the sort. -/
theorem foldl_addSort (q : Query) (keys : List (String × Direction)) :
    ∃ sort, keys.foldl addSort q = { q with sort := sort } := by
  induction keys generalizing q with
  | nil => exact ⟨q.sort, rfl⟩
  | cons key keys ih =>
    obtain ⟨sort, h⟩ := ih (q.addSort key)
    exact ⟨sort, h⟩

/-- Columns to group by change nothing but the group columns: those that are new go to the end,
each once. -/
theorem foldl_addGroup (q : Query) (columns : List String) :
    ∃ more, columns.foldl addGroup q = { q with groups := q.groups ++ more } ∧ more.Nodup ∧
      ∀ column, column ∈ more ↔ column ∈ columns ∧ column ∉ q.groups := by
  induction columns generalizing q with
  | nil => exact ⟨[], by simp⟩
  | cons first columns ih =>
    rw [List.foldl_cons, addGroup]
    by_cases hfirst : q.groups.contains first = true
    · rw [if_pos hfirst]
      obtain ⟨more, hq, hnodup, hmem⟩ := ih q
      refine ⟨more, hq, hnodup, fun column => ?_⟩
      have hgroups : first ∈ q.groups := List.contains_iff_mem.mp hfirst
      grind
    · rw [if_neg hfirst]
      obtain ⟨more, hq, hnodup, hmem⟩ := ih { q with groups := q.groups ++ [first] }
      have hgroups : first ∉ q.groups := fun h => hfirst (List.contains_iff_mem.mpr h)
      refine ⟨first :: more, by simpa using hq, List.nodup_cons.mpr ⟨?_, hnodup⟩, fun column => ?_⟩
      · simp [hmem]
      · simp only [hmem, List.mem_cons, List.mem_append, List.not_mem_nil, or_false]
        grind

/-- A grouping changes nothing but the group columns, also where it fails half way. -/
theorem addGroups_fst (q : Query) (groups : GroupList) :
    ∃ columns, (q.addGroups groups).1 = { q with groups := columns } := by
  induction groups generalizing q with
  | nil => exact ⟨q.groups, rfl⟩
  | cons group groups ih =>
    rw [addGroups]
    cases groupColumns group with
    | error e => exact ⟨q.groups, rfl⟩
    | ok names =>
      obtain ⟨columns, hfold, _⟩ := foldl_addGroup q names
      obtain ⟨rest, hrest⟩ := ih (names.foldl addGroup q)
      refine ⟨rest, ?_⟩
      rw [hfold] at hrest
      simpa only [hfold] using hrest

/-- A call that does not constrain leaves the conditions, adds expressions it has read to the
having at most, and moves the window only if it is meant to. -/
theorem call_of_not_constrains (q : Query) {c : Call} (h : c.constrains = false) :
    (q.call c).1.wheres = q.wheres ∧
    (∃ added, (q.call c).1.having = q.having ++ added ∧
      ∀ clause ∈ added, ∃ fragment e, Raw.parse fragment = .ok e ∧ clause.2 = .raw e) ∧
    (c.setsWindow = false →
      (q.call c).1.offset = q.offset ∧ (q.call c).1.limit? = q.limit?) := by
  have nothing : ∃ added, q.having = q.having ++ added ∧
      ∀ clause ∈ added, ∃ fragment e, Raw.parse fragment = .ok e ∧ clause.2 = .raw e :=
    ⟨[], (List.append_nil _).symm, fun _ hclause => absurd hclause List.not_mem_nil⟩
  cases c with
  | orderBy field direction => exact ⟨rfl, nothing, fun _ => ⟨rfl, rfl⟩⟩
  | orderByRaw fragment =>
    rw [call]
    cases Raw.orderColumns fragment.sql with
    | error e => exact ⟨rfl, nothing, fun _ => ⟨rfl, rfl⟩⟩
    | ok keys =>
      obtain ⟨sort, hs⟩ := foldl_addSort q keys
      simp only [orKeep, hs, true_and, and_self, implies_true, and_true]
      exact nothing
  | groupBy groups =>
    obtain ⟨columns, hc⟩ := addGroups_fst q groups
    rw [call, hc]
    exact ⟨rfl, nothing, fun _ => ⟨rfl, rfl⟩⟩
  | havingRaw join fragment =>
    rw [call]
    cases he : Raw.parse fragment with
    | error e => exact ⟨rfl, nothing, fun _ => ⟨rfl, rfl⟩⟩
    | ok e =>
      refine ⟨rfl, ⟨[(join, .raw e)], rfl, fun clause hclause => ?_⟩, fun _ => ⟨rfl, rfl⟩⟩
      cases List.mem_singleton.mp hclause
      exact ⟨fragment, e, he, rfl⟩
  | skip | take => exact ⟨rfl, nothing, fun hw => absurd hw Bool.noConfusion⟩
  | _ => exact absurd h Bool.noConfusion

/-- Only `skip` and `take` move the window. -/
theorem call_window (q : Query) {c : Call} (h : c.setsWindow = false) :
    (q.call c).1.offset = q.offset ∧ (q.call c).1.limit? = q.limit? := by
  by_cases hc : c.constrains = true
  · rw [call_of_constrains q hc]
    cases c.clauses <;> exact ⟨rfl, rfl⟩
  · exact (call_of_not_constrains q (Bool.eq_false_iff.mpr hc)).2.2 h

theorem run_window (q : Query) {calls : List Call} (h : ∀ c ∈ calls, c.setsWindow = false) :
    (q.run calls).1.offset = q.offset ∧ (q.run calls).1.limit? = q.limit? := by
  induction calls generalizing q with
  | nil => exact ⟨rfl, rfl⟩
  | cons c calls ih =>
    have hc := call_window q (h c List.mem_cons_self)
    rw [run]
    generalize q.call c = r at hc ⊢
    obtain ⟨q', _ | e⟩ := r
    · have hrest := ih q' fun d hd => h d (List.mem_cons_of_mem c hd)
      exact ⟨hrest.1.trans hc.1, hrest.2.trans hc.2⟩
    · exact hc

theorem run_append (q : Query) (calls more : List Call) :
    q.run (calls ++ more) = match q.run calls with
      | (q', none) => q'.run more
      | (q', some e) => (q', some e) := by
  induction calls generalizing q with
  | nil => rfl
  | cons c calls ih =>
    rw [List.cons_append, run, run]
    obtain ⟨q', _ | e⟩ := q.call c
    · exact ih q'
    · rfl

/-- A call that succeeds has added its clauses to the conditions. -/
theorem clauses_of_call {q q' : Query} {c : Call} (h : q.call c = (q', none)) :
    ∃ clauses, c.clauses = .ok clauses ∧ q'.wheres = q.wheres ++ clauses := by
  by_cases hc : c.constrains = true
  · rw [call_of_constrains q hc] at h
    cases hclauses : c.clauses with
    | error e => simp [hclauses, orKeep] at h
    | ok clauses =>
      simp only [hclauses, orKeep, Prod.mk.injEq, and_true] at h
      exact ⟨clauses, rfl, by rw [← h, addClauses]⟩
  · have hf : c.constrains = false := Bool.eq_false_iff.mpr hc
    refine ⟨[], Call.clauses_of_not_constrains hf, ?_⟩
    rw [List.append_nil, ← (call_of_not_constrains q hf).1, h]

/-- The conditions of a query are the clauses of the calls that have built it. -/
theorem clausesOf_of_run {q q' : Query} {calls : List Call} (h : q.run calls = (q', none)) :
    ∃ clauses, clausesOf calls = .ok clauses ∧ q'.wheres = q.wheres ++ clauses := by
  induction calls generalizing q with
  | nil =>
    cases h
    exact ⟨[], rfl, (List.append_nil _).symm⟩
  | cons c calls ih =>
    rw [run] at h
    cases hc : q.call c with
    | mk mid failed =>
      rw [hc] at h
      cases failed with
      | some e => cases h
      | none =>
        obtain ⟨first, hfirst, hmid⟩ := clauses_of_call hc
        obtain ⟨rest, hrest, hq'⟩ := ih h
        refine ⟨first ++ rest, clausesOf_cons_ok.mpr ⟨first, rest, hfirst, hrest, rfl⟩, ?_⟩
        rw [hq', hmid, List.append_assoc]

/-- Calls that all constrain do nothing but add their clauses. -/
theorem run_of_clausesOf (q : Query) {calls : List Call} {clauses : List Clause}
    (hc : ∀ c ∈ calls, c.constrains = true) (h : clausesOf calls = .ok clauses) :
    q.run calls = (q.addClauses clauses, none) := by
  induction calls generalizing q clauses with
  | nil =>
    cases h
    rw [run, addClauses_nil]
  | cons c calls ih =>
    obtain ⟨first, rest, hfirst, hrest, rfl⟩ := clausesOf_cons_ok.mp h
    rw [run, call_of_constrains q (hc c List.mem_cons_self), hfirst, orKeep]
    simp only
    rw [ih _ (fun d hd => hc d (List.mem_cons_of_mem c hd)) hrest, addClauses_append]

theorem ofCalls_of_clausesOf {calls : List Call} {clauses : List Clause}
    (hc : ∀ c ∈ calls, c.constrains = true) (h : clausesOf calls = .ok clauses) :
    ofCalls calls = .ok { wheres := clauses } := by
  rw [ofCalls_eq_ok_iff, run_of_clausesOf {} hc h]
  rfl

theorem clausesOf_of_ofCalls {calls : List Call} {q : Query} (h : ofCalls calls = .ok q) :
    clausesOf calls = .ok q.wheres := by
  obtain ⟨clauses, hclauses, hq⟩ := clausesOf_of_run (ofCalls_eq_ok_iff.mp h)
  rw [hclauses, hq]
  rfl

end Query

mutual

/-- The call without the calls in its body that do not constrain. -/
def Call.bare : Call → Call
  | .group join body => .group join (bareBody body)
  | .has relation body => .has relation (bareBody body)
  | c => c

def bareBody : List Call → List Call
  | [] => []
  | c :: cs => if c.constrains then c.bare :: bareBody cs else bareBody cs

end

theorem Call.constrains_bare (c : Call) : c.bare.constrains = c.constrains := by
  cases c <;> simp only [Call.bare, Call.constrains]

theorem constrains_of_mem_bareBody {calls : List Call} :
    ∀ c ∈ bareBody calls, c.constrains = true := by
  induction calls with
  | nil => simp [bareBody]
  | cons d calls ih =>
    intro c hc
    rw [bareBody] at hc
    by_cases hd : d.constrains = true
    · rw [if_pos hd] at hc
      rcases List.mem_cons.mp hc with rfl | hc
      · rwa [Call.constrains_bare]
      · exact ih c hc
    · rw [if_neg hd] at hc
      exact ih c hc

/-- A body whose clauses stay has as good a query when it is bare. -/
theorem Query.ofCalls_bareBody {body : List Call} {q : Query}
    (hb : ∀ clauses, clausesOf body = .ok clauses → clausesOf (bareBody body) = .ok clauses)
    (hq : ofCalls body = .ok q) : ofCalls (bareBody body) = .ok { wheres := q.wheres } :=
  ofCalls_of_clausesOf constrains_of_mem_bareBody (hb q.wheres (clausesOf_of_ofCalls hq))

mutual

theorem Call.clauses_bare :
    ∀ c : Call, ∀ clauses, c.clauses = .ok clauses → c.bare.clauses = .ok clauses
  | .group join body => by
    intro clauses h
    obtain ⟨q, hq, hclauses⟩ := map_eq_ok_iff.mp h
    rw [Call.bare, Call.clauses, Query.ofCalls_bareBody (clausesOf_bareBody body) hq, ← hclauses]
    rfl
  | .has relation body => by
    intro clauses h
    obtain ⟨q, hq, hclauses⟩ := map_eq_ok_iff.mp h
    rw [Call.bare, Call.clauses, Query.ofCalls_bareBody (clausesOf_bareBody body) hq, ← hclauses]
    rfl
  | .compare .. | .oneOf .. | .noneOf .. | .isNull .. | .notNull .. | .raw .. | .orderBy ..
  | .orderByRaw .. | .groupBy .. | .havingRaw .. | .skip .. | .take .. | .refuse .. => by
    intro clauses h
    simpa only [Call.bare] using h

/-- Calls in a body that do not constrain add nothing to the conditions, at any depth. -/
theorem clausesOf_bareBody :
    ∀ calls : List Call, ∀ clauses,
      clausesOf calls = .ok clauses → clausesOf (bareBody calls) = .ok clauses
  | [] => by
    intro clauses h
    exact h
  | c :: cs => by
    intro clauses h
    obtain ⟨first, rest, hfirst, hrest, rfl⟩ := clausesOf_cons_ok.mp h
    have hcs := clausesOf_bareBody cs rest hrest
    rw [bareBody]
    by_cases hc : c.constrains = true
    · rw [if_pos hc]
      exact clausesOf_cons_ok.mpr ⟨first, rest, Call.clauses_bare c first hfirst, hcs, rfl⟩
    · rw [if_neg hc, hcs]
      rw [Call.clauses_of_not_constrains (Bool.eq_false_iff.mpr hc)] at hfirst
      cases hfirst
      rfl

end

end RowSearch
