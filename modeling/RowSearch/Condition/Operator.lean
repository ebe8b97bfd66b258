import RowSearch.Json.Basic
import RowSearch.Text.Words

/-! # Operators

The operator of a condition is a token of its key or its operator map. Tokens without a meaning
of their own are comparisons handed on as they are: whether `like` or `regexp` means anything is
for the one who runs the query to say.
-/
namespace RowSearch

inductive Connective where
  | and
  | or
deriving DecidableEq

def Connective.keyword : Connective → String
  | .and => "and"
  | .or => "or"

def sameIgnoringCase (s t : String) : Bool :=
  s.toList.map Char.toLower == t.toList.map Char.toLower

/-- The text `or`, in any case, joins by or; anything else joins by and. -/
def Connective.ofMix (mix : Option Json) : Connective :=
  match mix with
  | some (.string s) => if sameIgnoringCase s "or" then .or else .and
  | _ => .and

/-- The key of an operator map that tells how its operators are joined. -/
def mixKey : String := "mix"

inductive Comparison where
  | eq
  | ne
  | gt
  | ge
  | lt
  | le
  | verbatim (token : String)
deriving DecidableEq

def Comparison.sql : Comparison → String
  | .eq => "="
  | .ne => "<>"
  | .gt => ">"
  | .ge => ">="
  | .lt => "<"
  | .le => "<="
  | .verbatim token => token

def Comparison.ofToken : String → Comparison
  | "eq" => .eq
  | "ne" => .ne
  | "gt" => .gt
  | "gte" => .ge
  | "ge" => .ge
  | "lt" => .lt
  | "lte" => .le
  | "le" => .le
  | token => .verbatim token

inductive Operator where
  | compare (c : Comparison)
  | oneOf
  | noneOf
  | isNull
  | notNull
deriving DecidableEq

namespace Operator

def ofToken (token : String) : Operator :=
  match token with
  | "in" => .oneOf
  | "not_in" => .noneOf
  | "is" => .isNull
  | token =>
    if Text.snakeCase token = "is_not" then .notNull else .compare (.ofToken token)

/-- Null tests do not look at their value. -/
def ignoresValue : Operator → Bool
  | .isNull | .notNull => true
  | _ => false

/-- List operators take non-empty lists only; with any other value they are left out. -/
def accepts (op : Operator) (v : Json) : Bool :=
  match op with
  | .oneOf | .noneOf =>
    match v with
    | .array (_ :: _) => true
    | _ => false
  | _ => true

def text : Operator → String
  | .compare c => c.sql
  | .oneOf => "in"
  | .noneOf => "not in"
  | .isNull => "is null"
  | .notNull => "is not null"

end Operator
end RowSearch
