import RowSearch.Query.Call

/-! # Transcripts

A transcript writes the calls of a query down instead of carrying them out. A comparison is
written by its SQL text. A body that refuses leaves nothing of its own group behind.
-/
namespace RowSearch

inductive Recorded where
  | compare (join : Connective) (field operator : String) (value : Json)
  | oneOf (join : Connective) (field : String) (values : List Json)
  | noneOf (join : Connective) (field : String) (values : List Json)
  | isNull (join : Connective) (field : String)
  | notNull (join : Connective) (field : String)
  | group (join : Connective) (body : List Recorded)
  | has (relation : String) (body : List Recorded)
  | raw (join : Connective) (fragment : Fragment)
  | orderBy (field : String) (direction : Direction)
  | orderByRaw (fragment : Fragment)
  | groupBy (groups : GroupList)
  | havingRaw (join : Connective) (fragment : Fragment)
  | skip (count : UInt64)
  | take (count : UInt64)

instance : Inhabited Recorded := ⟨.skip 0⟩

abbrev Transcript := List Recorded

namespace Transcript

mutual

def recordCall : Call → Except SearchError Recorded
  | .compare join field comparison value => .ok (.compare join field comparison.sql value)
  | .oneOf join field values => .ok (.oneOf join field values)
  | .noneOf join field values => .ok (.noneOf join field values)
  | .isNull join field => .ok (.isNull join field)
  | .notNull join field => .ok (.notNull join field)
  | .group join body =>
    match record body with
    | (ops, none) => .ok (.group join ops)
    | (_, some e) => .error e
  | .has relation body =>
    match record body with
    | (ops, none) => .ok (.has relation ops)
    | (_, some e) => .error e
  | .raw join fragment => .ok (.raw join fragment)
  | .orderBy field direction => .ok (.orderBy field direction)
  | .orderByRaw fragment => .ok (.orderByRaw fragment)
  | .groupBy groups => .ok (.groupBy groups)
  | .havingRaw join fragment => .ok (.havingRaw join fragment)
  | .skip count => .ok (.skip count)
  | .take count => .ok (.take count)
  | .refuse message => .error (.invalidQuery (.refused message))

/-- The calls written down up to the first that fails, and its error. -/
def record : List Call → Transcript × Option SearchError
  | [] => ([], none)
  | c :: cs =>
    match recordCall c with
    | .ok r =>
      let later := record cs
      (r :: later.1, later.2)
    | .error e => ([], some e)

end

mutual

/-- The calls a recorded one stands for, those of its body included. -/
def callCount : Recorded → Nat
  | .group _ body | .has _ body => 1 + size body
  | _ => 1

def size : List Recorded → Nat
  | [] => 0
  | r :: rs => callCount r + size rs

end

end Transcript
end RowSearch
