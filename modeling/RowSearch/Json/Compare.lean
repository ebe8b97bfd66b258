import RowSearch.Json.Path
import RowSearch.Json.Printer

/-! # Comparing documents

Truth, blankness and order of values as a search sees them. Numbers compare as doubles, and a
string that reads as a number compares with numbers; values of other kinds have no order. The
canonical text of a value sorts the keys of objects, so equal values have equal texts.
-/
namespace RowSearch.Json

/-- Null, `false`, zero, `""`, `"0"` and empty containers are not truthy. -/
def truthy : Json → Bool
  | .null => false
  | .bool b => b
  | .number n => !n.approx.isZero
  | .string s => s ≠ "" && s ≠ "0"
  | .array items => !items.isEmpty
  | .object fields => !fields.isEmpty

def blank : Json → Bool
  | .null => true
  | .string s => s.isEmpty
  | _ => false

/-- Null, white space and the empty list are empty input. -/
def emptyInput : Json → Bool
  | .null => true
  | .string s => (Text.trim s).isEmpty
  | .array items => items.isEmpty
  | _ => false

def scalarText? : Json → Option String
  | .string s => some s
  | .number n => some (String.ofList n.text)
  | .bool b => some (if b then "true" else "false")
  | _ => none

def toCount? : Json → Option UInt64
  | .number n => n.toCount?
  | .string s => readCount? (Text.trimChars Text.isWhiteSpace s.toList)
  | _ => none

def numeric? (s : String) : Option Extended :=
  Double.read? (Text.trimChars Text.isWhiteSpace s.toList)

def compare? : Json → Json → Option Ordering
  | .number m, .number n => some (m.approx.compare n.approx)
  | .string s, .string t => some (Ord.compare s t)
  | .bool a, .bool b => some (Ord.compare a b)
  | .number n, .string s => (numeric? s).bind (Extended.compare? (.finite n.approx))
  | .string s, .number n => (numeric? s).bind (Extended.compare? · (.finite n.approx))
  | _, _ => none

/-- Equality that takes numeric strings for numbers. -/
def alike (a b : Json) : Bool := a == b || a.compare? b == some .eq

def present (v : Option Json) : Option Json := v.filter (!·.isNull)

/-- The order of two values that may be missing. Missing and null come first; values without an
order count as equal. -/
def compareMissing (a b : Option Json) : Ordering :=
  match present a, present b with
  | none, none => .eq
  | none, some _ => .lt
  | some _, none => .gt
  | some a, some b => (a.compare? b).getD .eq

def sortByKey (texts : List (String × List Char)) : List (String × List Char) :=
  texts.mergeSort fun a b => decide (a.1 ≤ b.1)

def canonicalField (f : String × List Char) : List Char := '"' :: f.1.toList ++ '"' :: ':' :: f.2

mutual

/-- The compact text with sorted keys. -/
def canonical : Json → List Char
  | .object fields =>
    '{' :: separated [','] ((sortByKey (canonicalFields fields)).map canonicalField) ++ ['}']
  | .array items => '[' :: separated [','] (canonicalItems items) ++ [']']
  | .null => compactChars .null
  | .bool b => compactChars (.bool b)
  | .number n => compactChars (.number n)
  | .string s => compactChars (.string s)

def canonicalItems : List Json → List (List Char)
  | [] => []
  | v :: vs => canonical v :: canonicalItems vs

def canonicalFields : Fields → List (String × List Char)
  | [] => []
  | (k, v) :: rest => (k, canonical v) :: canonicalFields rest

end

end RowSearch.Json
