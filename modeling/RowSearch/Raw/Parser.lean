import RowSearch.Condition.Basic
import RowSearch.Raw.Expr
import RowSearch.Raw.Lexer

/-! # Reading raw expressions

`or` binds weaker than `and`, and both weaker than `not`; chains of `and` and of `or` associate
to the left. The placeholders of an expression take its bindings in order, one each. Parentheses
and negations together nest at most `nestingLimit` deep; chains may have any length.
-/
namespace RowSearch.Raw

/-- What is left to read: tokens, and bindings for the placeholders among them. -/
structure Pending where
  tokens : List Token
  bindings : List Json

abbrev Reader (α : Type) := Pending → Except Fault (α × Pending)

def Token.isKeyword (keyword : String) : Token → Bool
  | .word text => sameIgnoringCase text keyword
  | _ => false

def Pending.keyword? (p : Pending) (keyword : String) : Option Pending :=
  match p.tokens with
  | t :: rest => if t.isKeyword keyword then some { p with tokens := rest } else none
  | [] => none

def expect (wanted : Token) (p : Pending) : Except Fault Pending :=
  match p.tokens with
  | t :: rest =>
    if t = wanted then .ok { p with tokens := rest } else .error (.expected wanted (some t))
  | [] => .error (.expected wanted none)

/-- The tokens after `depth` parentheses have closed. -/
def skipClosed? : (depth : Nat) → List Token → Option (List Token)
  | 0, ts => some ts
  | _ + 1, [] => none
  | depth + 1, .opening :: ts => skipClosed? (depth + 2) ts
  | depth + 1, .closing :: ts => skipClosed? depth ts
  | depth + 1, _ :: ts => skipClosed? (depth + 1) ts

/-- The column that `count(..)` reads, whatever its arguments. -/
def countColumn : String := "count"

def wordOperand (text : String) : Reader Operand := fun p =>
  let lowered := text.toList.flatMap Text.lower
  if lowered = "null".toList then .ok (.literal .null, p)
  else if lowered = "true".toList then .ok (.literal (.bool true), p)
  else if lowered = "false".toList then .ok (.literal (.bool false), p)
  else match p.tokens with
    | .opening :: rest =>
      if lowered = countColumn.toList then
        match skipClosed? 1 rest with
        | some rest => .ok (.column countColumn, { p with tokens := rest })
        | none => .error .unbalanced
      else .error (.unsupportedFunction text)
    | _ => .ok (.column text, p)

def operand : Reader Operand := fun p =>
  match p.tokens with
  | [] => .error .unexpectedEnd
  | t :: rest =>
    let p : Pending := { p with tokens := rest }
    match t with
    | .number n => .ok (.literal (.number n), p)
    | .string s => .ok (.literal (.string s), p)
    | .placeholder =>
      match p.bindings with
      | v :: bindings => .ok (.literal v, { p with bindings })
      | [] => .error .missingBinding
    | .word text => wordOperand text p
    | t => .error (.unexpectedToken t)

/-- The items of a list after the first one. `fuel` bounds their number. -/
def moreItems (items : List Operand) (p : Pending) : Nat → Except Fault (List Operand × Pending)
  | 0 => .ok (items, p)
  | fuel + 1 =>
    match p.tokens with
    | .comma :: rest =>
      match operand { p with tokens := rest } with
      | .ok (item, p) => moreItems (items ++ [item]) p fuel
      | .error fault => .error fault
    | _ => .ok (items, p)

def itemList : Reader (List Operand) := fun p => do
  let p ← expect .opening p
  let (first, p) ← operand p
  let (items, p) ← moreItems [first] p p.tokens.length
  let p ← expect .closing p
  return (items, p)

/-- The pattern keyword a token is, as whether it ignores case. -/
def Token.likeKeyword? (t : Token) : Option Bool :=
  if t.isKeyword "like" then some false else if t.isKeyword "ilike" then some true else none

def afterNot (left : Operand) (negated : Bool) : Reader Expr := fun p =>
  match p.tokens.head?.bind Token.likeKeyword? with
  | some ignoreCase => do
    let (right, p) ← operand { p with tokens := p.tokens.tail }
    return (.compare left (.like negated ignoreCase) right, p)
  | none =>
    match p.keyword? "in" with
    | some p => do
      let (items, p) ← itemList p
      return (.oneOf left items negated, p)
    | none => if negated then .error .likeOrInExpected else .ok (.truthy left, p)

def afterOperand (left : Operand) : Reader Expr := fun p =>
  match p.tokens with
  | .sign s :: rest => do
    let (right, p) ← operand { p with tokens := rest }
    return (.compare left (.sign s) right, p)
  | _ =>
    match p.keyword? "is" with
    | some p =>
      let (negated, p) := match p.keyword? "not" with
        | some p => (true, p)
        | none => (false, p)
      match p.keyword? "null" with
      | some p => .ok (.isNull left negated, p)
      | none => .error .nullExpected
    | none =>
      match p.keyword? "not" with
      | some p => afterNot left true p
      | none => afterNot left false p

def test : Reader Expr := fun p => do
  let (left, p) ← operand p
  afterOperand left p

/-- The rest of a chain, whose left part is read. `fuel` bounds the number of its links. -/
def chainRest (keyword : String) (join : Expr → Expr → Expr) (link : Reader Expr) (left : Expr)
    (p : Pending) : Nat → Except Fault (Expr × Pending)
  | 0 => .ok (left, p)
  | fuel + 1 =>
    match p.keyword? keyword with
    | some p =>
      match link p with
      | .ok (right, p) => chainRest keyword join link (join left right) p fuel
      | .error fault => .error fault
    | none => .ok (left, p)

def chain (keyword : String) (join : Expr → Expr → Expr) (link : Reader Expr) : Reader Expr :=
  fun p =>
    match link p with
    | .ok (left, p) => chainRest keyword join link left p p.tokens.length
    | .error fault => .error fault

def conjunction (link : Reader Expr) : Reader Expr := chain "and" .and link

def disjunction (link : Reader Expr) : Reader Expr := chain "or" .or (conjunction link)

/-- A test, a negation or an expression in parentheses; `depth` levels may open. -/
def unary (depth : Nat) : Reader Expr := fun p =>
  match p.keyword? "not", p.tokens with
  | some p, _ =>
    match depth with
    | 0 => .error .tooDeep
    | depth + 1 => (unary depth p).map fun r => (.not r.1, r.2)
  | none, .opening :: rest =>
    match depth with
    | 0 => .error .tooDeep
    | depth + 1 => do
      let (e, p) ← disjunction (unary depth) { p with tokens := rest }
      let p ← expect .closing p
      return (e, p)
  | none, _ => test p

def parseTokens (tokens : List Token) (bindings : List Json) : Except Fault Expr :=
  match disjunction (unary nestingLimit) ⟨tokens, bindings⟩ with
  | .error fault => .error fault
  | .ok (_, ⟨t :: _, _⟩) => .error (.unexpectedToken t)
  | .ok (e, ⟨[], []⟩) => .ok e
  | .ok (_, ⟨[], left⟩) =>
    .error (.bindingCount (bindings.length - left.length) bindings.length)

/-- Reads the expression of a fragment, whose operators must be known. -/
def parse (f : Fragment) : Except SearchError Expr :=
  match lex f.sql.toList with
  | .error fault => .error (.invalidQuery (.raw f.sql fault))
  | .ok tokens =>
    match parseTokens tokens f.bindings with
    | .error fault => .error (.invalidQuery (.raw f.sql fault))
    | .ok e => e.validate.map fun _ => e

/-- No operator that has been read is refused. -/
theorem parse_eq_parseTokens (f : Fragment) : parse f =
    match lex f.sql.toList with
    | .error fault => .error (.invalidQuery (.raw f.sql fault))
    | .ok tokens =>
      match parseTokens tokens f.bindings with
      | .error fault => .error (.invalidQuery (.raw f.sql fault))
      | .ok e => .ok e := by
  simp only [parse, Expr.validate_eq]
  rfl

end RowSearch.Raw
