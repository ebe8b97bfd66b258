import RowSearch.Condition.Basic
import RowSearch.Raw.Lexer

/-! # Lists of columns

The raw forms of an order (`col [asc|desc], ..`) and of a grouping (`col, ..`). A column is a
run of letters, digits, underscores and points, with or without backquotes around it.
-/
namespace RowSearch.Raw

def column (text : String) : Except Fault String :=
  let name := Text.trimChars (· == backquote) text.toList
  if !name.isEmpty && name.all isWordChar then .ok (String.ofList name)
  else .error (.unsupportedColumn text)

/-- A column and its direction, ascending if none is given. -/
def orderColumn (part : String) : Except Fault (String × Direction) :=
  match Text.words part with
  | [name] => (column name).map (·, .asc)
  | [name, direction] =>
    match Direction.ofText? direction with
    | some d => (column name).map (·, d)
    | none => .error (.badDirection direction)
  | _ => .error (.unsortable (Text.trim part))

def inFragment {α : Type} (sql : String) : Except Fault α → Except SearchError α :=
  Except.mapError fun fault => .invalidQuery (.raw sql fault)

def orderColumns (sql : String) : Except SearchError (List (String × Direction)) :=
  inFragment sql ((Text.pieces ',' sql).mapM orderColumn)

def columns (sql : String) : Except SearchError (List String) :=
  inFragment sql ((Text.pieces ',' sql).mapM fun part => column (Text.trim part))

end RowSearch.Raw
