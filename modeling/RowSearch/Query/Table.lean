import RowSearch.Plan.Model
import RowSearch.Query.Rows

/-! # Tables

The rows of a model, held in memory.
-/
namespace RowSearch

structure Table where
  model : Model
  rows : List Json

namespace Table

def rowKeys : Json → List String
  | .object fields => fields.map (·.1)
  | _ => []

/-- A table whose columns are the keys of its rows, in order of first appearance. -/
def ofRows (name : String) (rows : List Json) : Table :=
  ⟨Model.withColumns { name } (rows.flatMap rowKeys), rows⟩

end Table
end RowSearch
