import RowSearch.Condition.Basic
import RowSearch.Json.Compare
import RowSearch.Json.Parser
import RowSearch.Query.Call

/-! # Requests

A request as it arrives: entries in any of their forms, an order, a grouping, a keyword and a
page. Entries under a key hold a value; entries without one hold a structured value, a raw
fragment, a callback or a scope.
-/
namespace RowSearch

inductive Item where
  | value (v : Json)
  | raw (fragment : Fragment)
  | callback (body : List Call)
  | scope (ref : ScopeRef)

/-- An entry of the conditions. Without a key it is positional. -/
structure Entry where
  key? : Option String
  item : Item

namespace Entry

def positionalLabel : String := "<positional>"

def label (e : Entry) : String := e.key?.getD positionalLabel

def keyed (key : String) (v : Json) : Entry := ⟨some key, .value v⟩

def structured (field : String) (operators : Json) : Entry :=
  ⟨none, .value (.object [("field", .string field), ("value", operators)])⟩

def positional (item : Item) : Entry := ⟨none, item⟩

end Entry

structure Request where
  wheres : List Entry := []
  order : OrderList := []
  groupBy : GroupList := []
  having : List Entry := []
  keyword? : Option String := none
  page? : Option UInt64 := none
  pageSize? : Option UInt64 := none
  offset : UInt64 := 0
  limit : UInt64 := 0

namespace Request

def rawTag : String := "$raw"

def scopeTag : String := "$scope"

/-- A list of values, or a single one; null and a missing value are no values. -/
def valueList : Option Json → List Json
  | some (.array vs) => vs
  | some .null | none => []
  | some v => [v]

def rawFragment? (fields : Fields) : Except SearchError (Option Fragment) :=
  match fields.get? rawTag with
  | none => .ok none
  | some (.string sql) => .ok (some ⟨sql, valueList (fields.get? "bindings")⟩)
  | some _ => .error (.malformed rawTag .rawNotText)

def scopeRef (name : String) (fields : Fields) : ScopeRef where
  name := name
  owner? := (fields.get? "model").bind Json.string?
  args := valueList (fields.get? "args")

def positionalEntry (v : Json) : Except SearchError Entry :=
  match v with
  | .object fields => do
    match ← rawFragment? fields with
    | some fragment => return .positional (.raw fragment)
    | none =>
      match Fields.get? scopeTag fields with
      | some (.string name) => return .positional (.scope (scopeRef name fields))
      | some _ => throw (.malformed scopeTag .scopeNameNotText)
      | none => return .positional (.value v)
  | v => .error (.malformed Entry.positionalLabel (.entryNotObject v))

/-- The entries of a section: a map of keyed ones or a list of positional ones. -/
def entries (name : String) (v : Json) : Except SearchError (List Entry) :=
  match v with
  | .null => .ok []
  | .object fields => .ok (fields.map fun f => .keyed f.1 f.2)
  | .array items => (items.filter (!·.isNull)).mapM positionalEntry
  | v => .error (.malformed name (.notEntries v))

def sortTerm? (token : String) : Option OrderTerm := OrderTerm.ofToken? (Text.trim token)

def knownDirection (key text : String) : Except SearchError Direction :=
  match Direction.ofText? text with
  | some d => .ok d
  | none => .error (.malformed key (.unknownDirection text))

/-- The direction given beside a bare column; descending unless given. -/
def besideDirection (direction : Option Json) : Except SearchError Direction :=
  match direction.bind Json.string? with
  | some text => knownDirection "direction" text
  | none => .ok .desc

def rawTerms (fields : Fields) : Except SearchError (List OrderTerm) :=
  (rawFragment? fields).map fun f => (f.map OrderTerm.raw).toList

def directedTerms (fields : Fields) : Except SearchError (List OrderTerm) :=
  fields.mapM fun f => (knownDirection f.1 (f.2.string?.getD "")).map (.column f.1)

def itemTerms : Json → Except SearchError (List OrderTerm)
  | .string token => .ok (sortTerm? token).toList
  | .object fields => rawTerms fields
  | _ => .ok []

def startsWithSign (text : String) : Bool :=
  match text.toList with
  | c :: _ => c == '+' || c == '-'
  | [] => false

/-- The terms of an order: a bare column, a sort token, a raw fragment, a map of directions or a
list of tokens and fragments. -/
def orderTerms (v : Json) (direction : Option Json) : Except SearchError (List OrderTerm) :=
  match v with
  | .string text =>
    if startsWithSign text then .ok (sortTerm? text).toList
    else if (Text.trim text).isEmpty then .ok []
    else (besideDirection direction).map fun d => [.column (Text.trim text) d]
  | .object fields => if Fields.has rawTag fields then rawTerms fields else directedTerms fields
  | .array items => (items.mapM itemTerms).map List.flatten
  | _ => .ok []

def groupTerm? : Json → Option GroupTerm
  | .string text =>
    let name := Text.trim text
    if name.isEmpty then none else some (.column name)
  | .object fields =>
    match rawFragment? fields with
    | .ok (some fragment) => some (.raw fragment)
    | _ => none
  | _ => none

def groupItems : Json → List Json
  | .array items => items
  | v => [v]

def groupTerms (v : Json) : List GroupTerm := (groupItems v).filterMap groupTerm?

/-- The keys that can hold the keyword, the strongest first. -/
def keywordKeys : List String := ["keyword", "search", "key"]

def pageSizeOf? (fields : Fields) : Option UInt64 :=
  ((fields.get? "page_size").bind Json.toCount?).or
    ((fields.get? "pageSize").bind Json.toCount?)

def sectionEntries (name : String) (fields : Fields) : Except SearchError (List Entry) :=
  match fields.get? name with
  | some v => entries name v
  | none => .ok []

def sectionTerms (fields : Fields) : Except SearchError (List OrderTerm) :=
  match fields.get? "order" with
  | some v => orderTerms v (fields.get? "direction")
  | none => .ok []

def ofFields (fields : Fields) : Except SearchError Request := do
  let wheres ← sectionEntries "wheres" fields
  let having ← sectionEntries "having" fields
  let terms ← sectionTerms fields
  let groups := ((fields.get? "group_by").map groupTerms).getD []
  let count? (key : String) : Option UInt64 := (fields.get? key).bind Json.toCount?
  return {
    wheres, having
    order := OrderList.pushAll [] terms
    groupBy := groups.foldl GroupList.push []
    keyword? := keywordKeys.findSome? fun key => (fields.get? key).bind Json.string?
    page? := count? "page"
    pageSize? := pageSizeOf? fields
    offset := (count? "offset").getD 0
    limit := (count? "limit").getD 0 }

/-- Reads a request; keys without a meaning are passed over. -/
def ofJson (v : Json) : Except SearchError Request :=
  match v with
  | .object fields => ofFields fields
  | _ => .error (.invalidQuery .requestNotObject)

def ofText (text : String) : Except SearchError Request :=
  match Json.parse? text with
  | some v => ofJson v
  | none => .error .unreadable

end Request
end RowSearch
