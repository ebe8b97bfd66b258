import RowSearch.Condition.Basic

/-! # Calls of a query

A query is built by calls, one after the other. A call that groups or follows a relation holds
the calls of its body, so a callback or the body of a scope is itself a list of calls. A body may
also refuse to go on, with a message of its own.
-/
namespace RowSearch

inductive Call where
  | compare (join : Connective) (field : String) (comparison : Comparison) (value : Json)
  | oneOf (join : Connective) (field : String) (values : List Json)
  | noneOf (join : Connective) (field : String) (values : List Json)
  | isNull (join : Connective) (field : String)
  | notNull (join : Connective) (field : String)
  | group (join : Connective) (body : List Call)
  | has (relation : String) (body : List Call)
  | raw (join : Connective) (fragment : Fragment)
  | orderBy (field : String) (direction : Direction)
  | orderByRaw (fragment : Fragment)
  | groupBy (groups : GroupList)
  | havingRaw (join : Connective) (fragment : Fragment)
  | skip (count : UInt64)
  | take (count : UInt64)
  | refuse (message : String)

instance : Inhabited Call := ⟨.skip 0⟩

end RowSearch
