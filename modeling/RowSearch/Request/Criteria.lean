import RowSearch.Request.Basic

/-! # Criteria

A request whose entries have been brought to one form. A key with an operator is a map of one
operator, a value without one is compared for equality, and a map is taken as it is. A field whose
map has no operators asks nothing and is dropped. Having takes fields and raw fragments only.
-/
namespace RowSearch

inductive Condition where
  | field (f : FieldCondition)
  | raw (fragment : Fragment)
  | callback (body : List Call)
  | scope (ref : ScopeRef)

inductive HavingCondition where
  | field (f : FieldCondition)
  | raw (fragment : Fragment)

def HavingCondition.toCondition : HavingCondition → Condition
  | .field f => .field f
  | .raw fragment => .raw fragment

structure Criteria where
  wheres : List Condition
  order : OrderList
  groupBy : GroupList
  having : List HavingCondition
  keyword? : Option String
  page? : Option UInt64
  pageSize? : Option UInt64
  offset : UInt64
  limit : UInt64

namespace Entry

/-- The condition of an operator map, unless the map has no operators. -/
def fieldCondition? (path : FieldPath) (operators : Fields) : Option Condition :=
  let comparisons := (operators.filter (·.1 ≠ mixKey)).map fun o => (Operator.ofToken o.1, o.2)
  if comparisons.isEmpty then none
  else some (.field ⟨path, comparisons, .ofMix (operators.get? mixKey)⟩)

def keyedOperators (operator? : Option String) (v : Json) : Fields :=
  match operator?, v with
  | some op, v => [(op, v)]
  | none, .object fields => fields
  | none, v => [("eq", v)]

def keyedCondition (key : String) (v : Json) : Except SearchError (Option Condition) :=
  (ConditionKey.parse? key).map fun k => fieldCondition? k.path (keyedOperators k.operator? v)

def structuredCondition (v : Json) : Except SearchError (Option Condition) :=
  match v with
  | .object fields =>
    match Fields.get? "field" fields with
    | some (.string field) =>
      match Fields.get? "value" fields with
      | some (.object operators) =>
        (FieldPath.parsePositional? field).map (fieldCondition? · operators)
      | some other => .error (.malformed field (.operatorsExpected other))
      | none => .error (.malformed field .missingOperators)
    | _ => .error (.malformed positionalLabel .missingField)
  | v => .error (.malformed positionalLabel (.unsupportedEntry v))

/-- The condition of an entry, if it asks anything. -/
def condition (e : Entry) : Except SearchError (Option Condition) :=
  match e.key?, e.item with
  | none, .raw fragment => .ok (some (.raw fragment))
  | none, .callback body => .ok (some (.callback body))
  | none, .scope ref => .ok (some (.scope ref))
  | none, .value v => structuredCondition v
  | some key, .value v => keyedCondition key v
  | some key, _ => .error (.malformed key .notPositional)

def havingCondition (e : Entry) : Except SearchError (Option HavingCondition) := do
  match ← e.condition with
  | none => return none
  | some (.field f) => return some (.field f)
  | some (.raw fragment) => return some (.raw fragment)
  | some (.callback _) => throw (.malformed e.label (.notForHaving "callback"))
  | some (.scope _) => throw (.malformed e.label (.notForHaving "scope"))

end Entry

namespace Criteria

def wheresOf (entries : List Entry) : Except SearchError (List Condition) :=
  (entries.mapM Entry.condition).map (·.filterMap id)

def havingOf (entries : List Entry) : Except SearchError (List HavingCondition) :=
  (entries.mapM Entry.havingCondition).map (·.filterMap id)

def keywordOf? (keyword? : Option String) : Option String :=
  (keyword?.map Text.trim).filter (!·.isEmpty)

def ofRequest (r : Request) : Except SearchError Criteria := do
  let wheres ← wheresOf r.wheres
  let having ← havingOf r.having
  return {
    wheres, having
    order := r.order
    groupBy := r.groupBy
    keyword? := keywordOf? r.keyword?
    page? := r.page?
    pageSize? := r.pageSize?
    offset := r.offset
    limit := r.limit }

end Criteria
end RowSearch
