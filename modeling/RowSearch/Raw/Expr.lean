import RowSearch.Raw.Token
import RowSearch.Row.Comparator

/-! # Raw expressions

A boolean expression over the columns of a row. `and` and `or` leave their right side alone when
the left one decides.
-/
namespace RowSearch.Raw

inductive Operand where
  | column (name : String)
  | literal (v : Json)

inductive Relation where
  | sign (s : Sign)
  | like (negated ignoreCase : Bool)
deriving DecidableEq

def Relation.text : Relation → String
  | .sign s => s.text
  | .like negated ignoreCase => Comparator.likeName negated ignoreCase

def Sign.comparator : Sign → Comparator
  | .equal | .doubleEqual => .eq
  | .bangEqual | .lessGreater => .ne
  | .less => .lt
  | .lessEqual => .le
  | .greater => .gt
  | .greaterEqual => .ge

def Relation.comparator : Relation → Comparator
  | .sign s => s.comparator
  | .like negated ignoreCase => .like negated ignoreCase

inductive Expr where
  | and (a b : Expr)
  | or (a b : Expr)
  | not (a : Expr)
  | compare (left : Operand) (relation : Relation) (right : Operand)
  | oneOf (left : Operand) (items : List Operand) (negated : Bool)
  | isNull (operand : Operand) (negated : Bool)
  | truthy (operand : Operand)

/-- The value of an operand in a row; none for a missing column. -/
def Operand.value? (o : Operand) (row : Json) : Option Json :=
  match o with
  | .column name => row.at? name
  | .literal v => some v

/-- Looks up the operators of comparisons, once and for all rows. -/
def Expr.validate : Expr → Except SearchError Unit
  | .and a b | .or a b => do
    a.validate
    b.validate
  | .not a => a.validate
  | .compare _ relation _ => (Comparator.ofText? relation.text).map fun _ => ()
  | .oneOf .. | .isNull .. | .truthy .. => .ok ()

def Expr.holds (row : Json) : Expr → Except SearchError Bool
  | .and a b =>
    match a.holds row with
    | .ok true => b.holds row
    | r => r
  | .or a b =>
    match a.holds row with
    | .ok false => b.holds row
    | r => r
  | .not a => (a.holds row).map (!·)
  | .compare left relation right =>
    match right.value? row with
    | some expected => do
      let comparator ← Comparator.ofText? relation.text
      comparator.holds (left.value? row) expected
    | none => .ok false
  | .oneOf left items negated =>
    .ok (Comparator.listTest negated (left.value? row) (items.filterMap (·.value? row)))
  | .isNull operand negated => .ok (Comparator.nullTest negated (operand.value? row))
  | .truthy operand => .ok (((operand.value? row).map Json.truthy).getD false)

/-- Every relation that can be written is the spelling of its comparator. -/
theorem Relation.ofText?_text (r : Relation) :
    Comparator.ofText? r.text = .ok r.comparator := by
  cases r with
  | sign s => cases s <;> rfl
  | like negated ignoreCase => cases negated <;> cases ignoreCase <;> rfl

theorem Expr.validate_eq (e : Expr) : e.validate = .ok () := by
  induction e with
  | and a b iha ihb | or a b iha ihb =>
    rw [validate, iha]
    exact ihb
  | not a ih => exact ih
  | compare left relation right =>
    rw [validate, relation.ofText?_text]
    rfl
  | oneOf | isNull | truthy => rfl

theorem Expr.holds_compare (left right : Operand) (relation : Relation) (row : Json) :
    (Expr.compare left relation right).holds row =
      match right.value? row with
      | some expected => relation.comparator.holds (left.value? row) expected
      | none => .ok false := by
  rw [holds, relation.ofText?_text]
  rfl

end RowSearch.Raw
