import RowSearch.Query.Call
import RowSearch.Text.Words

/-! # Models

A model declares columns and named scopes. The body of a scope is a list of calls that depends on
its arguments. Scope names are the same when their snake cases are, with or without `scope` in
front.
-/
namespace RowSearch

abbrev ScopeBody := List Json → List Call

structure Model where
  name : String
  columns : List String := []
  /-- Bodies under the keys of their names. -/
  scopes : List (String × ScopeBody) := []

namespace Model

/-- What scope names that mean the same scope have in common. -/
def scopeKey (name : String) : String :=
  let snake := Text.snakeCase name
  match Text.dropPrefix? "scope_".toList snake.toList with
  | some (c :: cs) => String.ofList (c :: cs)
  | _ => snake

def addColumn (m : Model) (column : String) : Model :=
  if m.columns.contains column then m else { m with columns := m.columns ++ [column] }

def withColumns (m : Model) (columns : List String) : Model := columns.foldl addColumn m

/-- Declares a scope; an earlier one of the same name goes. -/
def withScope (m : Model) (name : String) (body : ScopeBody) : Model :=
  { m with scopes := (scopeKey name, body) :: m.scopes }

def scope? (m : Model) (name : String) : Option ScopeBody := m.scopes.lookup (scopeKey name)

def hasScope (m : Model) (name : String) : Bool := (m.scope? name).isSome

def hasColumn (m : Model) (column : String) : Bool := m.columns.contains column

end Model

abbrev Registry := List Model

namespace Registry

def register (r : Registry) (m : Model) : Registry := r.filter (·.name ≠ m.name) ++ [m]

def model? (r : Registry) (name : String) : Option Model := r.find? (·.name == name)

def ofModels (models : List Model) : Registry := models.foldl register []

end Registry
end RowSearch
