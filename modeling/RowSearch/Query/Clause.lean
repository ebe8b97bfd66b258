import RowSearch.Condition.Operator
import RowSearch.Raw.Expr

/-! # Clauses

A clause is a predicate and how it is joined to the clauses before it. In a list of clauses
`and` binds tighter than `or`: the list is cut into runs at every `or`, and a row is kept when
all predicates of one run keep it. Runs are tried in order, and a run that has failed asks no
further predicate. How the first clause is joined does not matter.
-/
namespace RowSearch

inductive Predicate where
  | compare (field : String) (comparator : Comparator) (value : Json)
  | listed (field : String) (values : List Json) (negated : Bool)
  | null (field : String) (negated : Bool)
  | group (clauses : List (Connective × Predicate))
  | has (relation : String) (clauses : List (Connective × Predicate))
  | raw (e : Raw.Expr)

abbrev Clause := Connective × Predicate

/-- The record or records a row stores under a relation, by its name or the snake case of it. -/
def related? (row : Json) (relation : String) : Option Json :=
  (row.get? relation).or (row.get? (Text.snakeCase relation))

/-- Whether a test holds of one item of a list; the first that holds or fails decides. -/
def anyItem (test : Json → Except SearchError Bool) : List Json → Except SearchError Bool
  | [] => .ok false
  | v :: vs =>
    match test v with
    | .ok false => anyItem test vs
    | r => r

/-- A test of what a row stores under a relation: the object there, or one item of the list. -/
def anyRelated (row : Json) (relation : String) (test : Json → Except SearchError Bool) :
    Except SearchError Bool :=
  match related? row relation with
  | some (.object fields) => test (.object fields)
  | some (.array items) => anyItem test items
  | _ => .ok false

mutual

def Predicate.holds (row : Json) : Predicate → Except SearchError Bool
  | .compare field comparator value => comparator.holds (row.at? field) value
  | .listed field values negated => .ok (Comparator.listTest negated (row.at? field) values)
  | .null field negated => .ok (Comparator.nullTest negated (row.at? field))
  | .group clauses => clausesHold row clauses
  | .has relation clauses => anyRelated row relation fun record => clausesHold record clauses
  | .raw e => e.holds row

def clausesHold (row : Json) : List Clause → Except SearchError Bool
  | [] => .ok true
  | (_, p) :: rest =>
    match p.holds row with
    | .ok run => laterHold row run rest
    | .error e => .error e

/-- The clauses after the first. `run` tells whether the current run has held so far. -/
def laterHold (row : Json) (run : Bool) : List Clause → Except SearchError Bool
  | [] => .ok run
  | (join, p) :: rest =>
    match join, run with
    | .or, true => .ok true
    | .and, false => laterHold row false rest
    | _, _ =>
      match p.holds row with
      | .ok run => laterHold row run rest
      | .error e => .error e

end

end RowSearch
