import RowSearch.Json.Number

/-! # Documents

A document is a JSON value whose objects keep the order of their keys. Equality of documents
does not depend on that order. The fields of an object are read and changed by key: a new key
goes to the end, a present key keeps its place, and a removed key leaves the others in order.
-/
namespace RowSearch

inductive Json where
  | null
  | bool (b : Bool)
  | number (n : Json.Number)
  | string (s : String)
  | array (items : List Json)
  | object (fields : List (String × Json))

instance : Inhabited Json := ⟨.null⟩

abbrev Fields := List (String × Json)

namespace Fields

def get? (key : String) : Fields → Option Json
  | [] => none
  | (k, v) :: rest => if k = key then some v else get? key rest

def has (key : String) (fields : Fields) : Bool := (fields.get? key).isSome

/-- Puts a value under a key, in the key's place if it has one and at the end otherwise. -/
def insert (key : String) (value : Json) : Fields → Fields
  | [] => [(key, value)]
  | (k, v) :: rest => if k = key then (k, value) :: rest else (k, v) :: insert key value rest

def erase (key : String) (fields : Fields) : Fields := fields.filter (·.1 ≠ key)

def insertAll (more fields : Fields) : Fields :=
  more.foldl (fun fields f => fields.insert f.1 f.2) fields

end Fields

namespace Json

mutual

/-- Equality up to the order of keys. -/
def same : Json → Json → Bool
  | .null, .null => true
  | .bool a, .bool b => a == b
  | .number a, .number b => a == b
  | .string a, .string b => a == b
  | .array a, .array b => sameItems a b
  | .object a, .object b => a.length == b.length && sameFields a b
  | _, _ => false

def sameItems : List Json → List Json → Bool
  | [], [] => true
  | v :: vs, w :: ws => same v w && sameItems vs ws
  | _, _ => false

def sameFields : Fields → Fields → Bool
  | [], _ => true
  | (k, v) :: rest, other =>
    (match Fields.get? k other with
      | some w => same v w
      | none => false) && sameFields rest other

end

instance : BEq Json := ⟨same⟩

def isNull : Json → Bool
  | .null => true
  | _ => false

def string? : Json → Option String
  | .string s => some s
  | _ => none

def array? : Json → Option (List Json)
  | .array items => some items
  | _ => none

def object? : Json → Option Fields
  | .object fields => some fields
  | _ => none

def get? (key : String) : Json → Option Json
  | .object fields => Fields.get? key fields
  | _ => none

def count (n : UInt64) : Json := .number (.ofCount n)

end Json
end RowSearch
