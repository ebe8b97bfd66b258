import RowSearch.Query.Basic

/-! # Answering a query

The rows a query keeps are grouped, if it groups, into one row for each combination of the group
columns' values, in order of first appearance and with a count; then the having clauses and the
sort apply, and last the window.
-/
namespace RowSearch.Query

def keep (clauses : List Clause) : List Json → Except SearchError (List Json)
  | [] => .ok []
  | row :: rows =>
    match clausesHold row clauses with
    | .ok kept => (keep clauses rows).map fun rest => if kept then row :: rest else rest
    | .error e => .error e

def countColumn : String := "count"

def keyValues (groups : List String) (row : Json) : List Json :=
  groups.map fun column => (row.at? column).getD .null

def groupKey (groups : List String) (row : Json) : List Char :=
  Json.canonical (.array (keyValues groups row))

def newGroup (groups : List String) (row : Json) : Fields :=
  let columns := Fields.insertAll (groups.zip (keyValues groups row)) []
  columns.insert countColumn (.count 1)

def countOne (group : Fields) : Fields :=
  let n := match group.get? countColumn with
    | some (.number (.integer n _)) => n.toNat
    | _ => 0
  group.insert countColumn (.count (UInt64.ofNat (n + 1)))

/-- Puts a row into its group, a new one at the end if there is none yet. -/
def addToGroup (groups : List String) (row : Json) (key : List Char) :
    List (List Char × Fields) → List (List Char × Fields)
  | [] => [(key, newGroup groups row)]
  | (k, group) :: rest =>
    if k = key then (k, countOne group) :: rest else (k, group) :: addToGroup groups row key rest

def groupRows (groups : List String) (rows : List Json) : List Json :=
  let grouped := rows.foldl (fun gs row => addToGroup groups row (groupKey groups row) gs) []
  grouped.map fun g => .object g.2

/-- The order of two rows under sort keys; the first key that tells them apart decides. -/
def compareRows (a b : Json) : List (String × Direction) → Ordering
  | [] => .eq
  | (field, direction) :: rest =>
    match Json.compareMissing (a.at? field) (b.at? field) with
    | .eq => compareRows a b rest
    | order =>
      match direction with
      | .asc => order
      | .desc => order.swap

/-- Sorts rows; rows equal on all keys keep their order. -/
def sortRows (keys : List (String × Direction)) (rows : List Json) : List Json :=
  rows.mergeSort fun a b => compareRows a b keys != .gt

/-- The rows of the answer without the window. -/
def matching (q : Query) (rows : List Json) : Except SearchError (List Json) := do
  let kept ← keep q.wheres rows
  let grouped := if q.groups.isEmpty then kept else groupRows q.groups kept
  let kept ← keep q.having grouped
  return sortRows q.sort kept

def count (q : Query) (rows : List Json) : Except SearchError UInt64 :=
  (q.matching rows).map fun r => UInt64.ofNat r.length

def fetch (q : Query) (rows : List Json) : Except SearchError (List Json) :=
  (q.matching rows).map fun r =>
    let r := r.drop q.offset.toNat
    match q.limit? with
    | some limit => r.take limit.toNat
    | none => r

end RowSearch.Query
