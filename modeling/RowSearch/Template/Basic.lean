import RowSearch.Config
import RowSearch.Request.Basic
import RowSearch.Template.Value

/-! # Templates

A template declares, for the input of a request, which conditions, order, grouping and having the
request gets. Binding takes the page and the sorts out of the input first, so the template sees
what is left: the fields under `more` lifted, then the page aliases and the sort aliases removed.
-/
namespace RowSearch

inductive PageField where
  | page
  | pageSize
deriving DecidableEq

structure Template where
  wheres : Input → List TemplateEntry := fun _ => []
  order : Input → TemplateValue := fun _ => .value .null
  groupBy : Input → TemplateValue := fun _ => .value .null
  having : Input → List TemplateEntry := fun _ => []
  /-- The paths that give the page and its size; of those that are there, the last wins. -/
  pageAliases : List (String × PageField) := [
    ("paginator.page", .page), ("page", .page), ("paginator.limit", .pageSize),
    ("page_size", .pageSize)]
  /-- The paths that can hold the keyword, the strongest first. -/
  keywordAliases : List String := []

namespace Template

def sortAliases : List String := ["paginator.sort", "paginator.sorts"]

structure Paging where
  page? : Option UInt64 := none
  pageSize? : Option UInt64 := none

def Paging.set (p : Paging) (count? : Option UInt64) : PageField → Paging
  | .page => { p with page? := count? }
  | .pageSize => { p with pageSize? := count? }

def Paging.orDefault (p : Paging) (config : Config) : Paging :=
  if config.paginateByDefault then
    ⟨some (p.page?.getD 1), some (p.pageSize?.getD config.defaultPageSize)⟩
  else p

def takeAlias (s : Paging × Input) (name : String × PageField) : Paging × Input :=
  if s.2.has name.1 then
    let (v, rest) := s.2.take name.1
    (s.1.set (v.bind Json.toCount?) name.2, rest)
  else s

def takePaging (aliases : List (String × PageField)) (input : Input) : Paging × Input :=
  aliases.foldl takeAlias ({}, input)

def takeSorts (input : Input) : List Json × Input :=
  sortAliases.foldl (fun s name =>
    let (v, rest) := s.2.take name
    (s.1 ++ v.toList, rest)) ([], input)

def leafTerms : TemplateValue → List OrderTerm
  | .value (.string token) => (Request.sortTerm? token).toList
  | .value (.array items) => (items.filterMap Json.string?).filterMap Request.sortTerm?
  | .raw fragment => [.raw fragment]
  | _ => []

/-- The order of a template, with the sorts of the input after it. -/
def bindOrder (order : TemplateValue) (sorts : List Json) : Except SearchError OrderList := do
  let declared ← order.leaves
  let leaves := declared ++ sorts.map .value
  return OrderList.pushAll [] (leaves.flatMap leafTerms)

mutual

def jsonGroups : Json → List GroupTerm
  | .string text =>
    let name := Text.trim text
    if name.isEmpty then [] else [.column name]
  | .array items => jsonGroupsOf items
  | _ => []

def jsonGroupsOf : List Json → List GroupTerm
  | [] => []
  | v :: vs => jsonGroups v ++ jsonGroupsOf vs

end

def leafGroups : TemplateValue → List GroupTerm
  | .value v => jsonGroups v
  | .raw fragment => [.raw fragment]
  | _ => []

def bindGroupBy (groups : TemplateValue) : Except SearchError GroupList :=
  groups.leaves.map fun leaves => (leaves.flatMap leafGroups).foldl GroupList.push []

def keyedEntries (key : String) (v : Json) : List Entry :=
  if v.blank then [] else [.keyed key v]

/-- The entries of a value without a key. A scalar names an input, whose value it becomes. -/
def positionalEntries (v : Json) (input : Input) : Except SearchError (List Entry) :=
  match v with
  | .null => .ok []
  | .object fields =>
    if Fields.has "field" fields then .ok [.positional (.value (.object fields))]
    else .error (.invalidTemplate (.entryNotInput (.object fields)))
  | .array items => .error (.invalidTemplate (.entryNotInput (.array items)))
  | scalar =>
    let path := scalar.scalarText?.getD ""
    .ok ((input.given? path).map (Entry.keyed path)).toList

def concreteEntries (key? : Option String) (v : TemplateValue) (input : Input) :
    Except SearchError (List Entry) :=
  match v with
  | .raw fragment => .ok [.positional (.raw fragment)]
  | .callback body => .ok [.positional (.callback body)]
  | .scope ref => .ok [.positional (.scope ref)]
  | .value v =>
    match key? with
    | some key => .ok (keyedEntries key v)
    | none => positionalEntries v input
  | v => .error (.invalidTemplate (.entryKind (key?.getD Entry.positionalLabel) v.kind))

def whereEntries (input : Input) (e : TemplateEntry) : Except SearchError (List Entry) := do
  concreteEntries e.1 (← e.2.resolve) input

/-- The having entries of a declared one. Without a key it may be a map of keyed ones or a list
of entries. -/
def havingEntries (input : Input) (e : TemplateEntry) : Except SearchError (List Entry) := do
  match e.1, ← e.2.resolve with
  | none, .entries inner => return (← inner.mapM (whereEntries input)).flatten
  | none, .value (.object fields) =>
    if Fields.has "field" fields then return [.positional (.value (.object fields))]
    else return fields.flatMap fun f => keyedEntries f.1 f.2
  | key?, v => concreteEntries key? v input

/-- The keyword of the input: the first alias that is given and holds a scalar. -/
def keyword? (aliases : List String) (input : Input) : Option String :=
  aliases.findSome? fun name => (input.given? name).bind Json.scalarText?

/-- Binds a template to the input that is left after paging and sorts. `extra` entries come
before the template's own. -/
def bindRest (t : Template) (extra : List TemplateEntry) (paging : Paging) (sorts : List Json)
    (input : Input) : Except SearchError Request := do
  let order ← bindOrder (t.order input) sorts
  let groupBy ← bindGroupBy (t.groupBy input)
  let having ← (t.having input).mapM (havingEntries input)
  let wheres ← (extra ++ t.wheres input).mapM (whereEntries input)
  return {
    wheres := wheres.flatten
    order, groupBy
    having := having.flatten
    keyword? := keyword? t.keywordAliases input
    page? := paging.page?
    pageSize? := paging.pageSize? }

def bind (t : Template) (config : Config) (extra : List TemplateEntry) (v : Json) :
    Except SearchError Request := do
  let input := (← Input.ofJson v).flatten
  let (paging, input) := takePaging t.pageAliases input
  let (sorts, input) := takeSorts input
  t.bindRest extra (paging.orDefault config) sorts input

end Template
end RowSearch
