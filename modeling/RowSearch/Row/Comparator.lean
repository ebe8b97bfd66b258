import RowSearch.Error
import RowSearch.Json.Compare
import RowSearch.Row.Pattern

/-! # Comparators

The comparisons a row can answer. A missing or null value on either side never compares; only a
pattern that is not a scalar is an error, and only where there is a scalar to match it with.
-/
namespace RowSearch

inductive Comparator where
  | eq
  | ne
  | gt
  | ge
  | lt
  | le
  | like (negated ignoreCase : Bool)
deriving DecidableEq

namespace Comparator

def spellings : List (String × Comparator) := [
  ("=", .eq), ("==", .eq), ("<>", .ne), ("!=", .ne), (">", .gt), (">=", .ge), ("<", .lt),
  ("<=", .le), ("like", .like false false), ("not like", .like true false),
  ("ilike", .like false true), ("not ilike", .like true true)]

def normalSpelling (text : String) : String :=
  String.ofList ((" ".intercalate (Text.words text)).toList.flatMap Text.lower)

def ofText? (text : String) : Except SearchError Comparator :=
  match spellings.lookup (normalSpelling text) with
  | some c => .ok c
  | none => .error (.invalidQuery (.unsupportedOperator text))

def likeName (negated ignoreCase : Bool) : String :=
  (if negated then "not " else "") ++ (if ignoreCase then "ilike" else "like")

def ordered (actual : Option Json) (expected : Json) (p : Ordering → Bool) : Bool :=
  match Json.present actual, expected with
  | none, _ | _, .null => false
  | some v, e => ((v.compare? e).map p).getD false

/-- Whether two present values are both there and alike, or both there and not. -/
def equated (actual : Option Json) (expected : Json) (wanted : Bool) : Bool :=
  match Json.present actual, expected with
  | none, _ | _, .null => false
  | some v, e => v.alike e == wanted

def holds (c : Comparator) (actual : Option Json) (expected : Json) : Except SearchError Bool :=
  match c with
  | .eq => .ok (equated actual expected true)
  | .ne => .ok (equated actual expected false)
  | .gt => .ok (ordered actual expected (· == .gt))
  | .ge => .ok (ordered actual expected (· != .lt))
  | .lt => .ok (ordered actual expected (· == .lt))
  | .le => .ok (ordered actual expected (· != .gt))
  | .like negated ignoreCase =>
    match (Json.present actual).bind Json.scalarText? with
    | none => .ok false
    | some text =>
      match expected.scalarText? with
      | none => .error (.invalidQuery (.patternNotScalar (likeName negated ignoreCase) expected))
      | some pattern => .ok (Pattern.accepts ignoreCase pattern text != negated)

def inList (actual : Option Json) (values : List Json) : Bool :=
  match Json.present actual with
  | none => false
  | some v => values.any (v.alike ·)

/-- A list test. A value that is not there is neither in a list nor out of it. -/
def listTest (negated : Bool) (actual : Option Json) (values : List Json) : Bool :=
  (Json.present actual).isSome && inList actual values != negated

/-- A null test, which a missing value passes. -/
def nullTest (negated : Bool) (actual : Option Json) : Bool :=
  (Json.present actual).isNone != negated

end Comparator
end RowSearch
