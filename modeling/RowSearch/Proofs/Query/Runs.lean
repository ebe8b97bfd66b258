import RowSearch.Proofs.Answers
import RowSearch.Query.Clause

/-! # Clauses as runs

A list of clauses cut at every `or` is a list of runs. A row is kept when all predicates of one
run keep it; the test of a row asks for exactly this, run by run and up to the first error. Where
all clauses are joined alike the cut is simple: joined by `and` they are one run, joined by `or`
each of them is a run. A relation asks its records in the same way, one after the other.
-/
namespace RowSearch

def laterRuns : List Clause → List Predicate × List (List Predicate)
  | [] => ([], [])
  | (.and, p) :: rest => (p :: (laterRuns rest).1, (laterRuns rest).2)
  | (.or, p) :: rest => ([], (p :: (laterRuns rest).1) :: (laterRuns rest).2)

/-- The runs of a list of clauses. No clauses are one run that asks nothing. -/
def runs : List Clause → List (List Predicate)
  | [] => [[]]
  | (_, p) :: rest => (p :: (laterRuns rest).1) :: (laterRuns rest).2

def allHold (row : Json) (run : List Predicate) : Except SearchError Bool :=
  run.allM (·.holds row)

def anyHolds (row : Json) (rs : List (List Predicate)) : Except SearchError Bool :=
  rs.anyM (allHold row)

theorem allHold_cons (row : Json) (p : Predicate) (run : List Predicate) :
    allHold row (p :: run) = match p.holds row with
      | .ok true => allHold row run
      | r => r := by
  rw [allHold, List.allM_cons]
  cases p.holds row with
  | error e => rfl
  | ok b => cases b <;> rfl

theorem allHold_append (row : Json) (ps qs : List Predicate) :
    allHold row (ps ++ qs) = match allHold row ps with
      | .ok true => allHold row qs
      | r => r := by
  induction ps with
  | nil => rfl
  | cons p ps ih =>
    rw [List.cons_append, allHold_cons, allHold_cons, ih]
    cases p.holds row with
    | error e => rfl
    | ok b => cases b <;> rfl

theorem anyHolds_cons (row : Json) (run : List Predicate) (rs : List (List Predicate)) :
    anyHolds row (run :: rs) = match allHold row run with
      | .ok false => anyHolds row rs
      | r => r := by
  rw [anyHolds, List.anyM_cons]
  cases allHold row run with
  | error e => rfl
  | ok b => cases b <;> rfl

/-- A run that has held so far goes on; one that has failed leaves the row to the later runs. -/
theorem laterHold_eq (row : Json) (run : Bool) (clauses : List Clause) :
    laterHold row run clauses =
      if run then anyHolds row ((laterRuns clauses).1 :: (laterRuns clauses).2)
      else anyHolds row (laterRuns clauses).2 := by
  induction clauses generalizing run with
  | nil => cases run <;> rfl
  | cons clause rest ih =>
    obtain ⟨join, p⟩ := clause
    cases join <;> cases run
    case and.false =>
      rw [laterHold, ih]
      rfl
    case or.true =>
      rw [laterHold]
      rfl
    all_goals
      simp only [laterHold, laterRuns, anyHolds_cons, allHold_cons, if_true]
      cases p.holds row with
      | error e => rfl
      | ok b => cases b <;> simp [ih, anyHolds_cons]

/-- The test of a row is the test of its clauses' runs, errors included. -/
theorem clausesHold_eq (row : Json) (clauses : List Clause) :
    clausesHold row clauses = anyHolds row (runs clauses) := by
  cases clauses with
  | nil => rfl
  | cons clause rest =>
    obtain ⟨join, p⟩ := clause
    simp only [clausesHold, runs, anyHolds_cons, allHold_cons]
    cases p.holds row with
    | error e => rfl
    | ok b => cases b <;> simp [laterHold_eq, anyHolds_cons]

theorem laterRuns_of_and {clauses : List Clause} (h : ∀ c ∈ clauses, c.1 = .and) :
    laterRuns clauses = (clauses.map Prod.snd, []) := by
  induction clauses with
  | nil => rfl
  | cons clause rest ih =>
    obtain ⟨join, p⟩ := clause
    obtain rfl : join = .and := h (join, p) List.mem_cons_self
    rw [laterRuns, ih fun c hc => h c (List.mem_cons_of_mem _ hc)]
    rfl

theorem laterRuns_of_or {clauses : List Clause} (h : ∀ c ∈ clauses, c.1 = .or) :
    laterRuns clauses = ([], clauses.map fun c => [c.2]) := by
  induction clauses with
  | nil => rfl
  | cons clause rest ih =>
    obtain ⟨join, p⟩ := clause
    obtain rfl : join = .or := h (join, p) List.mem_cons_self
    rw [laterRuns, ih fun c hc => h c (List.mem_cons_of_mem _ hc)]
    rfl

theorem clausesHold_of_and {row : Json} {clauses : List Clause}
    (h : ∀ c ∈ clauses, c.1 = .and) :
    clausesHold row clauses = allHold row (clauses.map Prod.snd) := by
  rw [clausesHold_eq]
  cases clauses with
  | nil => rfl
  | cons clause rest =>
    rw [runs, laterRuns_of_and fun c hc => h c (List.mem_cons_of_mem _ hc), List.map_cons,
      anyHolds_cons]
    cases allHold row (clause.2 :: rest.map Prod.snd) with
    | error e => rfl
    | ok b => cases b <;> rfl

theorem allHold_singleton (row : Json) (p : Predicate) : allHold row [p] = p.holds row := by
  rw [allHold_cons]
  cases p.holds row with
  | error e => rfl
  | ok b => cases b <;> rfl

theorem anyHolds_map_singleton (row : Json) (ps : List Predicate) :
    anyHolds row (ps.map fun p => [p]) = ps.anyM (·.holds row) := by
  induction ps with
  | nil => rfl
  | cons p ps ih =>
    rw [List.map_cons, anyHolds_cons, allHold_singleton, ih, List.anyM_cons]
    cases p.holds row with
    | error e => rfl
    | ok b => cases b <;> rfl

theorem clausesHold_singleton (row : Json) (join : Connective) (p : Predicate) :
    clausesHold row [(join, p)] = p.holds row := by
  rw [clausesHold]
  cases p.holds row <;> rfl

/-- Clauses joined by `or` ask for one of them, if there are any. -/
theorem clausesHold_of_or {row : Json} {clauses : List Clause} (hne : clauses ≠ [])
    (h : ∀ c ∈ clauses, c.1 = .or) :
    clausesHold row clauses = (clauses.map Prod.snd).anyM (·.holds row) := by
  have hruns : runs clauses = (clauses.map Prod.snd).map fun p => [p] := by
    cases clauses with
    | nil => exact absurd rfl hne
    | cons clause rest =>
      rw [runs, laterRuns_of_or fun c hc => h c (List.mem_cons_of_mem _ hc)]
      simp
  rw [clausesHold_eq, hruns, anyHolds_map_singleton]

def relatedRecords (row : Json) (relation : String) : List Json :=
  match related? row relation with
  | some (.object fields) => [.object fields]
  | some (.array items) => items
  | _ => []

theorem anyItem_eq_anyM (test : Json → Except SearchError Bool) (items : List Json) :
    anyItem test items = items.anyM test := by
  induction items with
  | nil => rfl
  | cons v vs ih =>
    rw [anyItem, List.anyM_cons]
    cases test v with
    | error e => rfl
    | ok b => cases b <;> simp [ih, bind, Except.bind, pure, Except.pure]

theorem anyRelated_eq_anyM (row : Json) (relation : String)
    (test : Json → Except SearchError Bool) :
    anyRelated row relation test = (relatedRecords row relation).anyM test := by
  rw [anyRelated, relatedRecords]
  cases related? row relation with
  | none => rfl
  | some v =>
    cases v with
    | object fields => exact (anyM_singleton test _).symm
    | array items => exact anyItem_eq_anyM test items
    | _ => rfl

end RowSearch
