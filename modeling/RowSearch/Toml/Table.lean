import RowSearch.Toml.Scalar

/-! # Tables of a configuration

A table holds values and further tables under its keys. A key may be given once; a table may be
opened by one header, and a table that a dotted key or a value has made may not be opened again.
Dotted keys add to tables that dotted keys have made, not to those of headers. Inline tables are
values: nothing outside their braces adds to them.
-/
namespace RowSearch.Toml

inductive Value where
  | string (s : String)
  | scalar (s : Scalar)
  | array
  | inlineTable (fields : List (String × Value))

/-- How a table came to be: by its header, on the way to another one's, or by a dotted key. -/
inductive Made where
  | header
  | onTheWay
  | dotted
deriving DecidableEq

inductive Node where
  | value (v : Value)
  | table (made : Made) (entries : List (String × Node))
  | tables (items : List (List (String × Node)))

instance : Inhabited Node := ⟨.value .array⟩

abbrev Table := List (String × Node)

def put {α : Type} (key : String) (x : α) : List (String × α) → List (String × α)
  | [] => [(key, x)]
  | (k, y) :: rest => if k = key then (k, x) :: rest else (k, y) :: put key x rest

/-- Adds a field under a key that is not taken. A dotted key goes through the inline tables on
its way, whether dotted keys or braces have made them. -/
def addField (v : Value) : List String → List (String × Value) → Option (List (String × Value))
  | [], _ => none
  | [key], fields => if (fields.lookup key).isSome then none else some (put key v fields)
  | key :: rest, fields =>
    match fields.lookup key with
    | none => (addField v rest []).map fun inner => put key (.inlineTable inner) fields
    | some (.inlineTable inner) =>
      (addField v rest inner).map fun inner => put key (.inlineTable inner) fields
    | some _ => none

/-- Changes the table at the end of a path; the change is told how that table came to be, which
is `here` for the first one. Missing tables on the way are made, in the given way; a dotted key
does not go through a table that has a header. -/
def changeAt (made : Made) (change : Made → Table → Option Table) (here : Made) :
    List String → Table → Option Table
  | [], t => change here t
  | key :: rest, t =>
    match t.lookup key with
    | none => (changeAt made change made rest []).map fun new => put key (.table made new) t
    | some (.table m inner) =>
      if made = .dotted ∧ m = .header then none
      else (changeAt made change m rest inner).map fun new => put key (.table m new) t
    | some (.tables items) =>
      match items.reverse with
      | [] => none
      | last :: before =>
        (changeAt made change .header rest last).map fun new =>
          put key (.tables (new :: before).reverse) t
    | some (.value _) => none

/-- Adds a value under a key that is not taken. A dotted key adds to a table of dotted keys
only. -/
def addValue (path : List String) (v : Value) (t : Table) : Option Table :=
  let add (reached : Made) (inner : Table) : Option Table :=
    let key := path.getLastD ""
    if (1 < path.length ∧ reached ≠ .dotted) ∨ (inner.lookup key).isSome then none
    else some (put key (.value v) inner)
  changeAt .dotted add .header path.dropLast t

def openTable (path : List String) (t : Table) : Option Table :=
  let add (inner : Table) : Option Table :=
    let key := path.getLastD ""
    match inner.lookup key with
    | none => some (put key (.table .header []) inner)
    | some (.table .onTheWay entries) => some (put key (.table .header entries) inner)
    | some _ => none
  changeAt .onTheWay (fun _ => add) .header path.dropLast t

def openNext (path : List String) (t : Table) : Option Table :=
  let add (inner : Table) : Option Table :=
    let key := path.getLastD ""
    match inner.lookup key with
    | none => some (put key (.tables [[]]) inner)
    | some (.tables items) => some (put key (.tables (items ++ [[]])) inner)
    | some _ => none
  changeAt .onTheWay (fun _ => add) .header path.dropLast t

end RowSearch.Toml
