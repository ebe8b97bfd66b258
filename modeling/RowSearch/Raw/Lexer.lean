import RowSearch.Raw.Token
import RowSearch.Text.Alphabetic

/-! # Cutting a raw expression into tokens

Words are letters, digits, underscores and points, or anything between backquotes. Strings stand
between single or double quotes, an inner quote written twice. A minus sign belongs to a number
only where no operand can end before it.
-/
namespace RowSearch.Raw

def Token.endsOperand : Token → Bool
  | .word _ | .number _ | .string _ | .placeholder | .closing => true
  | .sign _ | .opening | .comma | .star => false

def takeQuoted? (quote : Char) : List Char → Option (List Char × List Char)
  | [] => none
  | c :: cs =>
    if c = quote then
      match cs with
      | [] => some ([], [])
      | d :: rest =>
        if d = quote then (takeQuoted? quote rest).map fun r => (quote :: r.1, r.2)
        else some ([], d :: rest)
    else (takeQuoted? quote cs).map fun r => (c :: r.1, r.2)

def backquote : Char := '\x60'

def takeName? : List Char → Option (List Char × List Char)
  | [] => none
  | c :: cs => if c = backquote then some ([], cs) else (takeName? cs).map fun r => (c :: r.1, r.2)

def isNumberChar (c : Char) : Bool := c.isDigit || c == '.'

def isWordStart (c : Char) : Bool := Text.isAlphabetic c || c == '_'

def isWordChar (c : Char) : Bool := Text.isAlphanumeric c || c == '_' || c == '.'

/-- A number: an integer if it fits 64 bits with a sign, else a finite double. -/
def readNumber? (cs : List Char) : Option Json.Number :=
  let (negative, ds) := match cs with
    | '-' :: ds => (true, ds)
    | ds => (false, ds)
  let n : Int := if negative then -(digitsValue ds : Int) else digitsValue ds
  if h : !ds.isEmpty ∧ ds.all Char.isDigit ∧ -9223372036854775808 ≤ n
      ∧ n ≤ 9223372036854775807 then
    some (.integer n ⟨h.2.2.1, by omega⟩)
  else match Double.read? cs with
    | some (.finite d) => some (.double d)
    | _ => none

def takeSign? (c : Char) (cs : List Char) : Option (Sign × List Char) :=
  match c, cs with
  | '=', '=' :: rest => some (.doubleEqual, rest)
  | '!', '=' :: rest => some (.bangEqual, rest)
  | '<', '=' :: rest => some (.lessEqual, rest)
  | '>', '=' :: rest => some (.greaterEqual, rest)
  | '<', '>' :: rest => some (.lessGreater, rest)
  | '=', rest => some (.equal, rest)
  | '<', rest => some (.less, rest)
  | '>', rest => some (.greater, rest)
  | _, _ => none

def startsNumber (operandBefore : Bool) (c : Char) (cs : List Char) : Bool :=
  c.isDigit || (c == '-' && (cs.head?.map Char.isDigit).getD false && !operandBefore)

def takeToken? (operandBefore : Bool) (c : Char) (cs : List Char) :
    Except Fault (Token × List Char) :=
  if c = '(' then .ok (.opening, cs)
  else if c = ')' then .ok (.closing, cs)
  else if c = ',' then .ok (.comma, cs)
  else if c = '*' then .ok (.star, cs)
  else if c = '?' then .ok (.placeholder, cs)
  else if c = '\'' ∨ c = '"' then
    match takeQuoted? c cs with
    | some (text, rest) => .ok (.string (String.ofList text), rest)
    | none => .error .unterminatedString
  else if c = backquote then
    match takeName? cs with
    | some (name, rest) => .ok (.word (String.ofList name), rest)
    | none => .error .unterminatedName
  else if startsNumber operandBefore c cs then
    let text := c :: cs.takeWhile isNumberChar
    match readNumber? text with
    | some n => .ok (.number n, cs.dropWhile isNumberChar)
    | none => .error (.badNumber (String.ofList text))
  else if isWordStart c then
    .ok (.word (String.ofList (c :: cs.takeWhile isWordChar)), cs.dropWhile isWordChar)
  else match takeSign? c cs with
    | some (sign, rest) => .ok (.sign sign, rest)
    | none => .error (if c = '!' then .loneBang else .unexpectedCharacter c)

theorem length_takeQuoted? {quote : Char} {cs text rest : List Char}
    (h : takeQuoted? quote cs = some (text, rest)) : rest.length ≤ cs.length := by
  fun_induction takeQuoted? quote cs generalizing text rest with
  | case1 => simp at h
  | case2 => simp_all
  | case3 rest' ih =>
    obtain ⟨r, hr, he⟩ := Option.map_eq_some_iff.1 h
    have := ih hr
    simp only [Prod.mk.injEq] at he
    simp only [List.length_cons, ← he.2]
    omega
  | case4 =>
    simp only [Option.some.injEq, Prod.mk.injEq] at h
    simp [← h.2]
  | case5 c cs _ ih =>
    obtain ⟨r, hr, he⟩ := Option.map_eq_some_iff.1 h
    have := ih hr
    simp only [Prod.mk.injEq] at he
    simp only [List.length_cons, ← he.2]
    omega

theorem length_takeName? {cs name rest : List Char} (h : takeName? cs = some (name, rest)) :
    rest.length ≤ cs.length := by
  fun_induction takeName? cs generalizing name rest with
  | case1 => simp at h
  | case2 => simp_all
  | case3 c cs _ ih =>
    obtain ⟨r, hr, he⟩ := Option.map_eq_some_iff.1 h
    have := ih hr
    simp only [Prod.mk.injEq] at he
    simp only [List.length_cons, ← he.2]
    omega

theorem length_takeSign? {c : Char} {cs rest : List Char} {sign : Sign}
    (h : takeSign? c cs = some (sign, rest)) : rest.length ≤ cs.length := by
  unfold takeSign? at h
  split at h <;> simp_all

theorem length_takeToken? {operandBefore : Bool} {c : Char} {cs rest : List Char} {t : Token}
    (h : takeToken? operandBefore c cs = .ok (t, rest)) : rest.length ≤ cs.length := by
  unfold takeToken? at h
  split at h
  · simp_all
  split at h
  · simp_all
  split at h
  · simp_all
  split at h
  · simp_all
  split at h
  · simp_all
  split at h
  · split at h
    · next hq =>
      simp only [Except.ok.injEq, Prod.mk.injEq] at h
      exact h.2 ▸ length_takeQuoted? hq
    · simp at h
  split at h
  · split at h
    · next hq =>
      simp only [Except.ok.injEq, Prod.mk.injEq] at h
      exact h.2 ▸ length_takeName? hq
    · simp at h
  split at h
  · dsimp only at h
    split at h
    · simp only [Except.ok.injEq, Prod.mk.injEq] at h
      exact h.2 ▸ (List.dropWhile_suffix _).length_le
    · simp at h
  split at h
  · simp only [Except.ok.injEq, Prod.mk.injEq] at h
    exact h.2 ▸ (List.dropWhile_suffix _).length_le
  split at h
  · next hq =>
    simp only [Except.ok.injEq, Prod.mk.injEq] at h
    exact h.2 ▸ length_takeSign? hq
  · simp at h

/-- The tokens of a text. `operandBefore` tells whether an operand ends right before it. -/
def lexFrom (operandBefore : Bool) (cs : List Char) : Except Fault (List Token) :=
  match cs with
  | [] => .ok []
  | c :: rest =>
    if Text.isWhiteSpace c then lexFrom operandBefore rest
    else match _h : takeToken? operandBefore c rest with
      | .error fault => .error fault
      | .ok (t, rest') => (lexFrom t.endsOperand rest').map (t :: ·)
termination_by cs.length
decreasing_by
  · simp
  · have := length_takeToken? _h
    simp only [List.length_cons]
    omega

def lex (cs : List Char) : Except Fault (List Token) := lexFrom false cs

end RowSearch.Raw
