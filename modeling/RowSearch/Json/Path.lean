import RowSearch.Json.Basic

/-! # Paths into documents

A path is a list of steps joined by points. A step names a key of an object or, in digits, a
place in a list. A path without a point is only ever a key of the document itself. `remove?`
takes a key out of the object that the steps before the last one lead to, and `take` does so in
place: it answers with the document afterwards, be anything removed or not.
-/
namespace RowSearch.Json

def steps (path : String) : List String := Text.pieces '.' path

/-- A place in a list: digits with an optional plus sign. -/
def place? (step : String) : Option Nat := (readCount? step.toList).map UInt64.toNat

def step? (v : Json) (step : String) : Option Json :=
  match v with
  | .object fields => Fields.get? step fields
  | .array items => (place? step).bind fun n => items[n]?
  | _ => none

def walk? (v : Json) : List String → Option Json
  | [] => some v
  | s :: rest => (v.step? s).bind (walk? · rest)

def at? (doc : Json) (path : String) : Option Json :=
  if path.toList.contains '.' then doc.walk? (steps path) else doc.get? path

def hasPath (doc : Json) (path : String) : Bool := (doc.at? path).isSome

/-- Puts a value in the place of the one a step away, which is there. -/
def replace (v : Json) (step : String) (new : Json) : Json :=
  match v with
  | .object fields => .object (Fields.insert step new fields)
  | .array items =>
    match place? step with
    | some n => .array (items.set n new)
    | none => v
  | _ => v

/-- Removes a key from the object at the end of a list of steps: the removed value and what is
left of the document. -/
def removeAt? (v : Json) (key : String) : List String → Option (Json × Json)
  | [] =>
    match v with
    | .object fields => (Fields.get? key fields).map (·, .object (Fields.erase key fields))
    | _ => none
  | s :: rest =>
    (v.step? s).bind fun inner =>
      (removeAt? inner key rest).map fun r => (r.1, v.replace s r.2)

def remove? (doc : Json) (path : String) : Option (Json × Json) :=
  let all := steps path
  doc.removeAt? (all.getLastD "") all.dropLast

/-- Changes the value at the end of a list of steps in its place: what the change answers, if the
steps lead to a value, and the document afterwards. -/
def changeAt {α : Type} (change : Json → Option α × Json) (v : Json) :
    List String → Option α × Json
  | [] => change v
  | s :: rest =>
    match v.step? s with
    | some inner =>
      let (answer, new) := inner.changeAt change rest
      (answer, v.replace s new)
    | none => (none, v)

def takeKey (key : String) : Json → Option Json × Json
  | .object fields => (Fields.get? key fields, .object (Fields.erase key fields))
  | v => (none, v)

/-- Takes the value at a path out of the object that has it under the path's last step. -/
def take (doc : Json) (path : String) : Option Json × Json :=
  let all := steps path
  doc.changeAt (takeKey (all.getLastD "")) all.dropLast

end RowSearch.Json
