import RowSearch.Plan.Basic
import RowSearch.Proofs.Query.Calls
import RowSearch.Proofs.Query.Matching
import RowSearch.Proofs.Query.Runs
import Mathlib.Data.List.Basic

/-! # Conditions stand apart

Every condition of a plan asks in a group, a relation or an expression of its own, joined to its
siblings by `and`. So a plan of many conditions finds the rows that the plan of each of them
finds, whatever connectives stand inside, and calls inside that only group, sort or cut count for
nothing.
-/
namespace RowSearch

/-- A call whose clause is joined to what stands before it by `and`. -/
def Call.Apart : Call → Prop
  | .group .and _ | .has _ _ | .raw .and _ => True
  | _ => False

theorem Call.Apart.constrains {c : Call} (h : c.Apart) : c.constrains = true := by
  cases c with
  | orderBy | orderByRaw | groupBy | havingRaw | skip | take => exact False.elim h
  | _ => rfl

theorem Call.Apart.setsWindow {c : Call} (h : c.Apart) : c.setsWindow = false := by
  cases c with
  | skip | take => exact False.elim h
  | _ => rfl

theorem Call.Apart.joined {c : Call} (h : c.Apart) {clauses : List Clause}
    (hc : c.clauses = .ok clauses) : ∀ clause ∈ clauses, clause.1 = .and := by
  cases c with
  | group join body =>
    cases join with
    | or => exact False.elim h
    | and =>
      obtain ⟨inner, _, rfl⟩ := map_eq_ok_iff.mp hc
      split <;> simp
  | has relation body =>
    obtain ⟨inner, _, rfl⟩ := map_eq_ok_iff.mp hc
    simp
  | raw join fragment =>
    cases join with
    | or => exact False.elim h
    | and =>
      obtain ⟨e, _, rfl⟩ := map_eq_ok_iff.mp hc
      simp
  | _ => exact False.elim h

def Step.Apart (s : Step) : Prop := ∃ call : Call, Plan.stepCalls s = [call] ∧ call.Apart

theorem Step.Apart.constrains {s : Step} (h : s.Apart) :
    ∀ call ∈ Plan.stepCalls s, call.constrains = true := by
  obtain ⟨call, hcall, hapart⟩ := h
  rw [hcall]
  simpa using hapart.constrains

theorem Step.Apart.setsWindow {s : Step} (h : s.Apart) :
    ∀ call ∈ Plan.stepCalls s, call.setsWindow = false := by
  obtain ⟨call, hcall, hapart⟩ := h
  rw [hcall]
  simpa using hapart.setsWindow

theorem Step.Apart.joined {s : Step} (h : s.Apart) {clauses : List Clause}
    (hclauses : clausesOf (Plan.stepCalls s) = .ok clauses) :
    ∀ clause ∈ clauses, clause.1 = .and := by
  obtain ⟨call, hcall, hapart⟩ := h
  rw [hcall] at hclauses
  obtain ⟨first, rest, hfirst, hrest, rfl⟩ := clausesOf_cons_ok.mp hclauses
  cases hrest
  rw [List.append_nil]
  exact hapart.joined hfirst

namespace Plan
variable (m : Model) (registry : Registry)

def ofConditions (cs : List Condition) : Except SearchError Plan :=
  build ⟨cs, [], [], [], none, none, none, 0, 0⟩ m registry

/-- The rows that the plan of conditions finds. -/
def findRows (cs : List Condition) (rows : List Json) : Except SearchError (List Json) := do
  let p ← ofConditions m registry cs
  (← Query.ofCalls p.calls).fetch rows

/-- Whether the plan of one condition finds a row, asked about this row alone. -/
def findsRow (c : Condition) (row : Json) : Bool :=
  match findRows m registry [c] [row] with
  | .ok (_ :: _) => true
  | _ => false

def conditionClauses (c : Condition) : Except SearchError (List Clause) := do
  let s ← whereStep m registry c
  clausesOf (stepCalls s)

/-- The clauses that a condition adds, none where it fails. -/
def addedClauses (c : Condition) : List Clause := (conditionClauses m registry c).toOption.getD []

variable {m registry}

theorem addedClauses_eq {c : Condition} {clauses : List Clause}
    (h : conditionClauses m registry c = .ok clauses) : addedClauses m registry c = clauses := by
  rw [addedClauses, h]
  rfl

theorem relationCall_has (body : List Call) (relation : String) (rest : List String) :
    ∃ inner, relationCall body relation rest = .has (Text.lowerCamelCase relation) inner := by
  cases rest with
  | nil => exact ⟨body, rfl⟩
  | cons next rest => exact ⟨[relationCall body next rest], rfl⟩

theorem fieldCall_apart (f : FieldCondition) : (fieldCall f).Apart := by
  rw [fieldCall]
  cases f.path.relations with
  | nil => trivial
  | cons relation rest =>
    obtain ⟨inner, h⟩ := relationCall_has (comparisonCalls f) relation rest
    simp only [h]
    trivial

theorem fieldStep_apart (f : FieldCondition) : (Step.field f).Apart :=
  ⟨fieldCall f, rfl, fieldCall_apart f⟩

/-- A condition makes one call, which stands apart. -/
theorem whereStep_apart {c : Condition} {s : Step} (h : whereStep m registry c = .ok s) :
    s.Apart := by
  cases c with
  | field f =>
    cases h
    exact fieldStep_apart f
  | raw fragment =>
    cases h
    exact ⟨.raw .and fragment, rfl, trivial⟩
  | callback body =>
    cases h
    exact ⟨.group .and body, rfl, trivial⟩
  | scope ref =>
    rw [whereStep, scopeStep] at h
    obtain ⟨owner, _, h⟩ := bind_eq_ok_iff.mp h
    cases hbody : owner.scope? ref.name with
    | none => simp [hbody, throw, throwThe, MonadExceptOf.throw] at h
    | some body =>
      simp only [hbody] at h
      cases h
      exact ⟨.group .and (body ref.args), rfl, trivial⟩

theorem joined_of_conditionClauses {c : Condition} {clauses : List Clause}
    (h : conditionClauses m registry c = .ok clauses) : ∀ clause ∈ clauses, clause.1 = .and := by
  obtain ⟨s, hs, hclauses⟩ := bind_eq_ok_iff.mp h
  exact (whereStep_apart hs).joined hclauses

theorem ofConditions_eq (cs : List Condition) :
    ofConditions m registry cs = cs.mapM (whereStep m registry) := by
  rw [ofConditions, build]
  cases cs.mapM (whereStep m registry) with
  | error e => rfl
  | ok steps => simp [bind, Except.bind, pure, Except.pure]

/-- The calls of conditions add their clauses one after the other. -/
theorem calls_of_conditionClauses {clauses : Condition → List Clause} {cs : List Condition}
    (h : ∀ c ∈ cs, conditionClauses m registry c = .ok (clauses c)) :
    ∃ p : Plan, cs.mapM (whereStep m registry) = .ok p ∧
      (∀ call ∈ p.calls, call.constrains = true) ∧
      clausesOf p.calls = .ok (cs.flatMap clauses) := by
  induction cs with
  | nil => exact ⟨[], rfl, fun _ hc => absurd hc List.not_mem_nil, rfl⟩
  | cons c cs ih =>
    obtain ⟨s, hs, hclauses⟩ := bind_eq_ok_iff.mp (h c List.mem_cons_self)
    obtain ⟨p, hp, hconstrains, hrest⟩ := ih fun d hd => h d (List.mem_cons_of_mem c hd)
    have hcalls : Plan.calls (s :: p) = stepCalls s ++ p.calls := List.flatMap_cons
    refine ⟨s :: p, ?_, ?_, ?_⟩
    · rw [List.mapM_cons, hs, hp]
      rfl
    · rw [hcalls]
      exact List.forall_mem_append.mpr ⟨(whereStep_apart hs).constrains, hconstrains⟩
    · rw [hcalls]
      exact clausesOf_append hclauses hrest

theorem findRows_eq_keep {clauses : Condition → List Clause} {cs : List Condition}
    (h : ∀ c ∈ cs, conditionClauses m registry c = .ok (clauses c)) (rows : List Json) :
    findRows m registry cs rows = Query.keep (cs.flatMap clauses) rows := by
  obtain ⟨p, hp, hconstrains, hclauses⟩ := calls_of_conditionClauses h
  rw [findRows, ofConditions_eq, hp]
  change (Query.ofCalls p.calls >>= fun q => q.fetch rows) = _
  rw [Query.ofCalls_of_clausesOf hconstrains hclauses]
  exact Query.fetch_of_wheres (cs.flatMap clauses) rows

theorem conditionClauses_of_findRows {c : Condition} {rows found : List Json}
    (h : findRows m registry [c] rows = .ok found) :
    ∃ clauses, conditionClauses m registry c = .ok clauses := by
  rw [findRows, ofConditions_eq] at h
  obtain ⟨p, hp, h⟩ := bind_eq_ok_iff.mp h
  obtain ⟨q, hq, _⟩ := bind_eq_ok_iff.mp h
  rw [List.mapM_cons, List.mapM_nil] at hp
  obtain ⟨s, hs, hp⟩ := bind_eq_ok_iff.mp hp
  cases hp
  have hclauses := Query.clausesOf_of_ofCalls hq
  have hcalls : Plan.calls [s] = stepCalls s := by simp [Plan.calls]
  rw [hcalls] at hclauses
  exact ⟨q.wheres, bind_eq_ok_iff.mpr ⟨s, hs, hclauses⟩⟩

/-- The clauses of a condition answer a row as its plan does. -/
theorem clausesHold_eq_findsRow {c : Condition} {clauses : List Clause} {rows found : List Json}
    (hc : conditionClauses m registry c = .ok clauses)
    (h : findRows m registry [c] rows = .ok found) :
    ∀ row ∈ rows, clausesHold row clauses = .ok (findsRow m registry c row) := by
  have hone (rs : List Json) : findRows m registry [c] rs = Query.keep clauses rs := by
    have hclauses : ∀ d ∈ [c], conditionClauses m registry d = .ok ((fun _ => clauses) d) := by
      simpa using hc
    simpa using findRows_eq_keep hclauses rs
  intro row hrow
  rw [hone] at h
  obtain ⟨kept, hkept⟩ := Query.clausesHold_of_keep h row hrow
  have hrow' : findRows m registry [c] [row] = .ok (if kept then [row] else []) := by
    rw [hone, Query.keep, hkept]
    rfl
  rw [hkept, findsRow, hrow']
  cases kept <;> rfl

/-- The clauses of conditions keep a row when those of every one of them do. -/
theorem clausesHold_conditions {clauses : Condition → List Clause} {cs : List Condition}
    {row : Json} {test : Condition → Bool}
    (hc : ∀ c ∈ cs, conditionClauses m registry c = .ok (clauses c))
    (h : ∀ c ∈ cs, clausesHold row (clauses c) = .ok (test c)) :
    clausesHold row (cs.flatMap clauses) = .ok (cs.all test) := by
  have hjoined : ∀ clause ∈ cs.flatMap clauses, clause.1 = .and := by
    intro clause hclause
    obtain ⟨c, hmem, hclause⟩ := List.mem_flatMap.mp hclause
    exact joined_of_conditionClauses (hc c hmem) clause hclause
  rw [clausesHold_of_and hjoined]
  clear hjoined
  induction cs with
  | nil => rfl
  | cons c cs ih =>
    have hfirst := h c List.mem_cons_self
    rw [clausesHold_of_and (joined_of_conditionClauses (hc c List.mem_cons_self))] at hfirst
    have hrest := ih (fun d hd => hc d (List.mem_cons_of_mem c hd))
      fun d hd => h d (List.mem_cons_of_mem c hd)
    rw [List.flatMap_cons, List.map_append, allHold_append, hfirst, hrest, List.all_cons]
    cases test c <;> rfl

theorem findRows_eq_filter {clauses : Condition → List Clause} {cs : List Condition}
    {rows : List Json}
    (hc : ∀ c ∈ cs, conditionClauses m registry c = .ok (clauses c))
    (h : ∀ c ∈ cs, ∃ found, findRows m registry [c] rows = .ok found) :
    findRows m registry cs rows =
      .ok (rows.filter fun row => cs.all (findsRow m registry · row)) := by
  rw [findRows_eq_keep hc]
  apply Query.keep_eq_filter
  intro row hrow
  apply clausesHold_conditions hc
  intro c hmem
  obtain ⟨found, hfound⟩ := h c hmem
  exact clausesHold_eq_findsRow (hc c hmem) hfound row hrow

end Plan

def Condition.bare : Condition → Condition
  | .callback body => .callback (bareBody body)
  | c => c

namespace Plan
variable {m : Model} {registry : Registry}

theorem conditionClauses_bare {c : Condition} {clauses : List Clause}
    (h : conditionClauses m registry c = .ok clauses) :
    conditionClauses m registry c.bare = .ok clauses := by
  cases c with
  | callback body => exact clausesOf_bareBody [.group .and body] clauses h
  | _ => exact h

theorem findRows_bare {cs : List Condition}
    (hc : ∀ c ∈ cs, conditionClauses m registry c = .ok (addedClauses m registry c))
    (rows : List Json) :
    findRows m registry (cs.map Condition.bare) rows = findRows m registry cs rows := by
  have hsame : ∀ c ∈ cs, addedClauses m registry c.bare = addedClauses m registry c :=
    fun c hmem => addedClauses_eq (conditionClauses_bare (hc c hmem))
  have hbare : ∀ d ∈ cs.map Condition.bare,
      conditionClauses m registry d = .ok (addedClauses m registry d) := by
    intro d hd
    obtain ⟨c, hmem, rfl⟩ := List.mem_map.mp hd
    rw [hsame c hmem]
    exact conditionClauses_bare (hc c hmem)
  rw [findRows_eq_keep hbare, findRows_eq_keep hc, List.flatMap_map, List.flatMap_congr hsame]

/-- Conditions that each find rows find together the rows that all of them find, in whatever
order they come and without the calls in their bodies that do not constrain. -/
theorem findRows_conditions {cs : List Condition} {rows : List Json}
    (h : ∀ c ∈ cs, ∃ found, findRows m registry [c] rows = .ok found) :
    (∀ c ∈ cs, findRows m registry [c] rows = .ok (rows.filter (findsRow m registry c))) ∧
    findRows m registry cs rows =
      .ok (rows.filter fun row => cs.all (findsRow m registry · row)) ∧
    (∀ ds : List Condition, ds.Perm cs →
      findRows m registry ds rows = findRows m registry cs rows) ∧
    findRows m registry (cs.map Condition.bare) rows = findRows m registry cs rows := by
  have hc : ∀ c ∈ cs, conditionClauses m registry c = .ok (addedClauses m registry c) := by
    intro c hmem
    obtain ⟨found, hfound⟩ := h c hmem
    obtain ⟨clauses, hclauses⟩ := conditionClauses_of_findRows hfound
    rw [addedClauses_eq hclauses, hclauses]
  have hall := findRows_eq_filter hc h
  refine ⟨?_, hall, ?_, findRows_bare hc rows⟩
  · intro c hmem
    have hone : ∀ d ∈ [c], d ∈ cs := by simpa using hmem
    simpa using findRows_eq_filter (fun d hd => hc d (hone d hd)) fun d hd => h d (hone d hd)
  · intro ds hperm
    rw [hall, findRows_eq_filter (fun d hd => hc d (hperm.mem_iff.mp hd))
      fun d hd => h d (hperm.mem_iff.mp hd)]
    congr 2
    funext row
    exact hperm.all_eq

def shopModel : Model :=
  Model.withScope ⟨"item", [], []⟩ "onOffer" fun args =>
    [.oneOf .and "price" args, .isNull .or "price", .orderBy "price" .desc, .take 1]

def shopRows : List Json :=
  [.object [("price", .count 2), ("maker", .object [("city", .string "Rome")])],
   .object [("price", .null), ("maker", .object [("city", .string "Oslo")])],
   .object [("price", .count 9), ("maker", .object [("city", .string "Rome")])],
   .object [("price", .count 2), ("maker", .null)]]

def shopConditions : List Condition :=
  [.scope ⟨"on_offer", none, [.count 2]⟩,
   .raw ⟨"price > ? or price is null", [.count 1]⟩,
   .callback [.has "maker" [.oneOf .and "city" [.string "Rome"], .oneOf .or "city" [.string "Oslo"]],
     .skip 3]]

theorem findRows_shop :
    (∀ c ∈ shopConditions, ∃ found, findRows shopModel [] [c] shopRows = .ok found) ∧
    findRows shopModel [] shopConditions shopRows =
      .ok (shopRows.filter fun row => shopConditions.all (findsRow shopModel [] · row)) ∧
    findRows shopModel [] shopConditions.reverse shopRows =
      findRows shopModel [] shopConditions shopRows ∧
    findRows shopModel [] (shopConditions.map Condition.bare) shopRows =
      findRows shopModel [] shopConditions shopRows ∧
    (shopRows.map fun row => shopConditions.all (findsRow shopModel [] · row)) =
      [true, true, false, false] := by
  have h : ∀ c ∈ shopConditions, (findRows shopModel [] [c] shopRows).isOk = true := by
    decide +kernel
  have hfound := fun c hc => exists_of_isOk (h c hc)
  obtain ⟨_, hall, hperm, hbare⟩ := findRows_conditions hfound
  exact ⟨hfound, hall, hperm _ (List.reverse_perm _), hbare, by decide +kernel⟩
end Plan
end RowSearch
