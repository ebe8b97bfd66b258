import RowSearch.Query.Call
import RowSearch.Query.Clause
import RowSearch.Raw.Columns
import RowSearch.Raw.Parser

/-! # Queries

A query over rows in memory, and the calls that build it. Operators and raw text are read when
the call is made. The body of a group or a relation builds a query of its own, of which only the
conditions count; a group without conditions is left out. A call that fails leaves the query as it
was, except that a grouping keeps the columns read before the one that fails.
-/
namespace RowSearch

structure Query where
  wheres : List Clause := []
  groups : List String := []
  having : List Clause := []
  sort : List (String × Direction) := []
  offset : UInt64 := 0
  limit? : Option UInt64 := none

namespace Query

def addWhere (q : Query) (join : Connective) (p : Predicate) : Query :=
  { q with wheres := q.wheres ++ [(join, p)] }

def addSort (q : Query) (key : String × Direction) : Query :=
  { q with sort := q.sort.filter (·.1 ≠ key.1) ++ [key] }

def addGroup (q : Query) (column : String) : Query :=
  if q.groups.contains column then q else { q with groups := q.groups ++ [column] }

def groupColumns : GroupTerm → Except SearchError (List String)
  | .column name => .ok [name]
  | .raw fragment => Raw.columns fragment.sql

def addGroups (q : Query) : GroupList → Query × Option SearchError
  | [] => (q, none)
  | g :: gs =>
    match groupColumns g with
    | .ok names => addGroups (names.foldl addGroup q) gs
    | .error e => (q, some e)

/-- Changes a query by something that may fail, and not at all if it does. -/
def orKeep {α : Type} (q : Query) (r : Except SearchError α) (change : α → Query) :
    Query × Option SearchError :=
  match r with
  | .ok a => (change a, none)
  | .error e => (q, some e)

mutual

/-- The query after a call, and the call's error if it fails. -/
def call (q : Query) : Call → Query × Option SearchError
  | .compare join field comparison value =>
    q.orKeep (Comparator.ofText? comparison.sql) fun c =>
      q.addWhere join (.compare field c value)
  | .oneOf join field values => (q.addWhere join (.listed field values false), none)
  | .noneOf join field values => (q.addWhere join (.listed field values true), none)
  | .isNull join field => (q.addWhere join (.null field false), none)
  | .notNull join field => (q.addWhere join (.null field true), none)
  | .group join body =>
    match run {} body with
    | (inner, none) =>
      (if inner.wheres.isEmpty then q else q.addWhere join (.group inner.wheres), none)
    | (_, some e) => (q, some e)
  | .has relation body =>
    match run {} body with
    | (inner, none) => (q.addWhere .and (.has relation inner.wheres), none)
    | (_, some e) => (q, some e)
  | .raw join fragment =>
    q.orKeep (Raw.parse fragment) fun e => q.addWhere join (.raw e)
  | .orderBy field direction => (q.addSort (field, direction), none)
  | .orderByRaw fragment =>
    q.orKeep (Raw.orderColumns fragment.sql) fun keys => keys.foldl addSort q
  | .groupBy groups => q.addGroups groups
  | .havingRaw join fragment =>
    q.orKeep (Raw.parse fragment) fun e => { q with having := q.having ++ [(join, .raw e)] }
  | .skip count => ({ q with offset := count }, none)
  | .take count => ({ q with limit? := some count }, none)
  | .refuse message => (q, some (.invalidQuery (.refused message)))

def run (q : Query) : List Call → Query × Option SearchError
  | [] => (q, none)
  | c :: cs =>
    match call q c with
    | (q, none) => run q cs
    | (q, some e) => (q, some e)

end

def ofCalls (calls : List Call) : Except SearchError Query :=
  match run {} calls with
  | (q, none) => .ok q
  | (_, some e) => .error e

end Query
end RowSearch
