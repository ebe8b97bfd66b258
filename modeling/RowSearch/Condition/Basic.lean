import RowSearch.Condition.FieldPath
import RowSearch.Condition.Operator

/-! # Conditions, sorts and groups

The parts of a search after its mixed forms have been brought to one: conditions, the terms of
an order and the terms of a grouping. `OrderList.push` keeps one term for a column, in the place
of its last mention; `GroupList.push` keeps the first of equal terms.
-/
namespace RowSearch

structure Fragment where
  sql : String
  bindings : List Json
deriving BEq

inductive Direction where
  | asc
  | desc
deriving DecidableEq

def Direction.keyword : Direction → String
  | .asc => "asc"
  | .desc => "desc"

/-- Reads `asc` or `desc` in any ASCII case, blanks around it aside. -/
def Direction.ofText? (text : String) : Option Direction :=
  let t := Text.trim text
  if sameIgnoringCase t "asc" then some .asc
  else if sameIgnoringCase t "desc" then some .desc
  else none

inductive OrderTerm where
  | column (field : String) (direction : Direction)
  | raw (fragment : Fragment)

/-- A sort token: `+field` ascends, `-field` descends, anything else is no term. -/
def OrderTerm.ofToken? (token : String) : Option OrderTerm :=
  let column (direction : Direction) (cs : List Char) : Option OrderTerm :=
    let field := Text.trimChars Text.isWhiteSpace cs
    if field.isEmpty then none else some (.column (String.ofList field) direction)
  match token.toList with
  | '+' :: cs => column .asc cs
  | '-' :: cs => column .desc cs
  | _ => none

def OrderTerm.isColumn (field : String) : OrderTerm → Bool
  | .column f _ => f == field
  | .raw _ => false

abbrev OrderList := List OrderTerm

namespace OrderList

/-- Adds a term at the end; an earlier one for the same column goes. -/
def push (order : OrderList) : OrderTerm → OrderList
  | .column field direction =>
    order.filter (!·.isColumn field) ++ [.column field direction]
  | .raw fragment => order ++ [.raw fragment]

def pushAll (order : OrderList) (terms : List OrderTerm) : OrderList := terms.foldl push order

def direction? (order : OrderList) (field : String) : Option Direction :=
  order.findSome? fun
    | .column f direction => if f = field then some direction else none
    | .raw _ => none

end OrderList

inductive GroupTerm where
  | column (name : String)
  | raw (fragment : Fragment)
deriving BEq

abbrev GroupList := List GroupTerm

def GroupList.push (groups : GroupList) (term : GroupTerm) : GroupList :=
  if groups.contains term then groups else groups ++ [term]

/-- A predicate that a model declares, by name. Without an owner it is the searched model's. -/
structure ScopeRef where
  name : String
  owner? : Option String
  args : List Json

structure FieldCondition where
  path : FieldPath
  comparisons : List (Operator × Json)
  mix : Connective

namespace FieldCondition

def accepted (f : FieldCondition) : List (Operator × Json) :=
  f.comparisons.filter fun c => c.1.accepts c.2

end FieldCondition
end RowSearch
