import RowSearch.Error
import RowSearch.Json.Compare

/-! # Input

The input of a request, as templates see it: an object whose values are found by path. Paging and
sorting are taken out of it before the conditions are bound.
-/
namespace RowSearch

structure Input where
  fields : Fields

namespace Input

/-- The input in a document; null is no input at all. -/
def ofJson (v : Json) : Except SearchError Input :=
  match v with
  | .object fields => .ok ⟨fields⟩
  | .null => .ok ⟨[]⟩
  | v => .error (.invalidQuery (.inputNotObject v))

def toJson (input : Input) : Json := .object input.fields

def at? (input : Input) (path : String) : Option Json := input.toJson.at? path

/-- Whether a path leads to a value, be it null. -/
def has (input : Input) (path : String) : Bool := (input.at? path).isSome

def given? (input : Input) (path : String) : Option Json := (input.at? path).filter (!·.blank)

def take (input : Input) (path : String) : Option Json × Input :=
  match input.toJson.remove? path with
  | some (v, .object fields) => (some v, ⟨fields⟩)
  | _ => (none, input)

def moreKey : String := "more"

/-- Lifts the fields under `more` to the top, over those that are there, and drops `more`. -/
def flatten (input : Input) : Input :=
  match input.take moreKey with
  | (some (.object more), rest) => ⟨Fields.insertAll more rest.fields⟩
  | (_, rest) => rest

def fire (input : Input) (path : String) (f : Json → Json) : Option Json :=
  (input.given? path).map f

def append (input : Input) (path extra : String) : Option Json :=
  ((input.given? path).bind Json.scalarText?).map fun text => .string (text ++ extra)

/-- Whether the value at a path is there, not empty, and not `false`. -/
def filled (input : Input) (path : String) : Bool :=
  match input.at? path with
  | some (.bool b) => b
  | some v => !v.emptyInput
  | none => false

def met (input : Input) (path : String) : Bool := ((input.at? path).map Json.truthy).getD false

end Input
end RowSearch
