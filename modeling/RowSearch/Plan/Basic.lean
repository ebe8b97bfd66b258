import RowSearch.Plan.Model
import RowSearch.Request.Criteria

/-! # Plans

A plan is the list of steps that criteria ask of a model: keyword, conditions, grouping, having,
order and window, in this order. Scopes are resolved when the plan is built, so a plan that
exists has them all. What a plan does is a list of calls; the calls of a callback or a scope stand
in a group of their own, so an `or` among them joins nothing outside.
-/
namespace RowSearch

inductive Step where
  | field (f : FieldCondition)
  | raw (fragment : Fragment)
  | callback (body : List Call)
  | scope (ref : ScopeRef) (owner : String) (body : List Call)
  | groupBy (groups : GroupList)
  | having (fragment : Fragment)
  | order (term : OrderTerm)
  | window (offset limit : UInt64)

abbrev Plan := List Step

namespace Plan

/-- The scope that takes over the search for a keyword, where a model declares it. -/
def keywordScope : String := "searchKeyword"

def keywordColumn : String := "name"

/-- The pattern of values that contain a keyword; percent signs at its ends are dropped. -/
def keywordPattern (keyword : String) : String :=
  "%" ++ Text.trimBy (· == '%') keyword ++ "%"

def keywordCondition (keyword : String) : FieldCondition where
  path := .column keywordColumn
  comparisons := [(.compare (.verbatim "like"), .string (keywordPattern keyword))]
  mix := .and

def keywordStep? (keyword : String) (m : Model) : Option Step :=
  match m.scope? keywordScope with
  | some body =>
    let args := [.string keyword]
    some (.scope ⟨keywordScope, none, args⟩ m.name (body args))
  | none =>
    if m.hasColumn keywordColumn then some (.field (keywordCondition keyword)) else none

def scopeOwner (ref : ScopeRef) (m : Model) (registry : Registry) : Except SearchError Model :=
  match ref.owner? with
  | none => .ok m
  | some owner =>
    if owner = m.name then .ok m
    else match registry.model? owner with
      | some other => .ok other
      | none => .error (.scopeNotFound ref.name owner)

def scopeStep (ref : ScopeRef) (m : Model) (registry : Registry) : Except SearchError Step := do
  let owner ← scopeOwner ref m registry
  match owner.scope? ref.name with
  | some body => return .scope ref owner.name (body ref.args)
  | none => throw (.scopeNotFound ref.name owner.name)

def whereStep (m : Model) (registry : Registry) : Condition → Except SearchError Step
  | .field f => .ok (.field f)
  | .raw fragment => .ok (.raw fragment)
  | .callback body => .ok (.callback body)
  | .scope ref => scopeStep ref m registry

def listItems (v : Json) : List Json := v.array?.getD []

def havingPart (column : String) (operator : Operator) (v : Json) : String × List Json :=
  let list (keyword : String) : String × List Json :=
    let marks := ", ".intercalate ((listItems v).map fun _ => "?")
    (s!"{column} {keyword} ({marks})", listItems v)
  match operator with
  | .compare c => (s!"{column} {c.sql} ?", [v])
  | .oneOf => list "in"
  | .noneOf => list "not in"
  | .isNull => (s!"{column} is null", [])
  | .notNull => (s!"{column} is not null", [])

/-- A field condition as a fragment: its accepted comparisons, joined by its connective. -/
def havingFragment? (f : FieldCondition) : Option Fragment :=
  let parts := f.accepted.map fun c => havingPart f.path.text c.1 c.2
  if parts.isEmpty then none
  else some ⟨s!" {f.mix.keyword} ".intercalate (parts.map Prod.fst), parts.flatMap Prod.snd⟩

def havingStep? : HavingCondition → Option Step
  | .field f => (havingFragment? f).map .having
  | .raw fragment => some (.having fragment)

def build (c : Criteria) (m : Model) (registry : Registry) : Except SearchError Plan := do
  let keyword := (c.keyword?.bind (keywordStep? · m)).toList
  let wheres ← c.wheres.mapM (whereStep m registry)
  let groups := if c.groupBy.isEmpty then [] else [Step.groupBy c.groupBy]
  let having := c.having.filterMap havingStep?
  let order := c.order.map Step.order
  let window := if c.limit = 0 then [] else [Step.window c.offset c.limit]
  return keyword ++ wheres ++ groups ++ having ++ order ++ window

def comparisonCall (join : Connective) (column : String) (operator : Operator) (v : Json) : Call :=
  match operator with
  | .compare c => .compare join column c v
  | .oneOf => .oneOf join column (listItems v)
  | .noneOf => .noneOf join column (listItems v)
  | .isNull => .isNull join column
  | .notNull => .notNull join column

def comparisonCalls (f : FieldCondition) : List Call :=
  f.accepted.map fun c => comparisonCall f.mix f.path.field c.1 c.2

/-- A call that follows relations, one inside the other, to the calls at their end. -/
def relationCall (body : List Call) (relation : String) : List String → Call
  | [] => .has (Text.lowerCamelCase relation) body
  | next :: rest => .has (Text.lowerCamelCase relation) [relationCall body next rest]

def fieldCall (f : FieldCondition) : Call :=
  match f.path.relations with
  | [] => .group .and (comparisonCalls f)
  | relation :: rest => relationCall (comparisonCalls f) relation rest

def stepCalls : Step → List Call
  | .field f => [fieldCall f]
  | .raw fragment => [.raw .and fragment]
  | .callback body => [.group .and body]
  | .scope _ _ body => [.group .and body]
  | .groupBy groups => [.groupBy groups]
  | .having fragment => [.havingRaw .and fragment]
  | .order (.column field direction) => [.orderBy field direction]
  | .order (.raw fragment) => [.orderByRaw fragment]
  | .window offset limit => [.skip offset, .take limit]

def calls (p : Plan) : List Call := p.flatMap stepCalls

end Plan
end RowSearch
