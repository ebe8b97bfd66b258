import RowSearch.Double.Reading
import RowSearch.Text.Hex

/-! # Strings and scalars of a configuration text

Strings stand between double quotes, with escapes, or between single quotes, without; three
quotes instead of one let them go over lines. What is neither a string nor a container is a
scalar, read from the run of characters it is made of.
-/
namespace RowSearch.Toml

def isControl (c : Char) : Bool := (c.toNat < 0x20 && c != '\t') || c == '\x7f'

def lineBreak? : List Char → Option (List Char)
  | '\n' :: cs => some cs
  | '\r' :: '\n' :: cs => some cs
  | _ => none

def scalarOf? (digits : List Char) : Option Char := do
  let n ← Text.hexValue? digits
  if h : n.isValidChar then some (Char.ofNatAux n h) else none

def letterEscape? : Char → Option Char
  | 'b' => some '\x08'
  | 't' => some '\t'
  | 'n' => some '\n'
  | 'f' => some '\x0c'
  | 'r' => some '\r'
  | '"' => some '"'
  | '\\' => some '\\'
  | _ => none

def escape? : List Char → Option (Char × List Char)
  | 'u' :: a :: b :: c :: d :: cs => (scalarOf? [a, b, c, d]).map (·, cs)
  | 'U' :: a :: b :: c :: d :: e :: f :: g :: h :: cs =>
    (scalarOf? [a, b, c, d, e, f, g, h]).map (·, cs)
  | c :: cs => (letterEscape? c).map (·, cs)
  | [] => none

def basicString? (read : List Char) (cs : List Char) : Nat → Option (String × List Char)
  | 0 => none
  | fuel + 1 =>
    match cs with
    | '"' :: rest => some (String.ofList read.reverse, rest)
    | '\\' :: rest => do
      let (c, rest) ← escape? rest
      basicString? (c :: read) rest fuel
    | c :: rest => if isControl c then none else basicString? (c :: read) rest fuel
    | [] => none

def literalString? (read : List Char) : List Char → Option (String × List Char)
  | '\'' :: rest => some (String.ofList read.reverse, rest)
  | c :: rest => if isControl c then none else literalString? (c :: read) rest
  | [] => none

def isLineBlank (c : Char) : Bool := c == ' ' || c == '\t'

/-- What follows blanks and line breaks. A carriage return alone is neither. -/
def skipToText : List Char → List Char
  | '\n' :: cs => skipToText cs
  | '\r' :: '\n' :: cs => skipToText cs
  | c :: cs => if isLineBlank c then skipToText cs else c :: cs
  | [] => []

def endsLine (cs : List Char) : Bool := (lineBreak? (cs.dropWhile isLineBlank)).isSome

/-- The inside of a string over several lines, between three quotes. Up to two more quotes may
stand at its end. -/
def longString? (quote : Char) (read : List Char) (cs : List Char) :
    Nat → Option (String × List Char)
  | 0 => none
  | fuel + 1 =>
    let quotes := cs.takeWhile (· == quote)
    if !quotes.isEmpty then
      let rest := cs.drop quotes.length
      if quotes.length < 3 then longString? quote (quotes ++ read) rest fuel
      else if 5 < quotes.length then none
      else some (String.ofList (read.reverse ++ quotes.drop 3), rest)
    else match lineBreak? cs with
      | some rest => longString? quote ('\n' :: read) rest fuel
      | none =>
        match cs with
        | '\\' :: rest =>
          if quote = '\'' then longString? quote ('\\' :: read) rest fuel
          else if endsLine rest then longString? quote read (skipToText rest) fuel
          else do
            let (c, rest) ← escape? rest
            longString? quote (c :: read) rest fuel
        | c :: rest => if isControl c then none else longString? quote (c :: read) rest fuel
        | [] => none

def string? (cs : List Char) : Option (String × List Char) :=
  let fuel := cs.length + 1
  let afterBreak (rest : List Char) : List Char := (lineBreak? rest).getD rest
  match cs with
  | '"' :: '"' :: '"' :: rest => longString? '"' [] (afterBreak rest) fuel
  | '\'' :: '\'' :: '\'' :: rest => longString? '\'' [] (afterBreak rest) fuel
  | '"' :: rest => basicString? [] rest fuel
  | '\'' :: rest => literalString? [] rest
  | _ => none

inductive Scalar where
  | integer (n : Int)
  | float (x : Extended)
  | boolean (b : Bool)
  | dateTime

/-- Digits with single underscores between them, the underscores taken out. -/
def plainDigits? (isDigit : Char → Bool) : List Char → Option (List Char)
  | [] => none
  | [c] => if isDigit c then some [c] else none
  | c :: '_' :: cs => if isDigit c then (plainDigits? isDigit cs).map (c :: ·) else none
  | c :: cs => if isDigit c then (plainDigits? isDigit cs).map (c :: ·) else none

def withSign (cs : List Char) : Bool × List Char :=
  match cs with
  | '-' :: cs => (true, cs)
  | '+' :: cs => (false, cs)
  | cs => (false, cs)

def wholeDigits? (cs : List Char) : Option (List Char) := do
  let ds ← plainDigits? Char.isDigit cs
  if ds.head? = some '0' ∧ 1 < ds.length then none else some ds

def inBase? (base : Nat) (cs : List Char) : Option Nat := do
  let isDigit (c : Char) : Bool := ((Text.hexDigit? c).map (decide <| · < base)).getD false
  let ds ← plainDigits? isDigit cs
  return ds.foldl (fun n c => base * n + (Text.hexDigit? c).getD 0) 0

def decimal? (cs : List Char) : Option Int :=
  let (negative, ds) := withSign cs
  (wholeDigits? ds).map fun ds =>
    if negative then -(digitsValue ds : Int) else digitsValue ds

def wholeNumber? : List Char → Option Int
  | '0' :: 'x' :: ds => (inBase? 16 ds).map Int.ofNat
  | '0' :: 'o' :: ds => (inBase? 8 ds).map Int.ofNat
  | '0' :: 'b' :: ds => (inBase? 2 ds).map Int.ofNat
  | cs => decimal? cs

def integer? (cs : List Char) : Option Int :=
  (wholeNumber? cs).filter fun n =>
    -9223372036854775808 ≤ n ∧ n ≤ 9223372036854775807

def isFractional (ds : List Char) : Bool :=
  let isMark (c : Char) : Bool := c == 'e' || c == 'E'
  let mantissa := ds.takeWhile (!isMark ·)
  let exponent := (ds.dropWhile (!isMark ·)).drop 1
  let hasExponent := mantissa.length < ds.length
  let whole := mantissa.takeWhile (· != '.')
  let fraction := (mantissa.dropWhile (· != '.')).drop 1
  let hasFraction := whole.length < mantissa.length
  (hasExponent || hasFraction) && (wholeDigits? whole).isSome
    && (!hasFraction || (plainDigits? Char.isDigit fraction).isSome)
    && (!hasExponent || (plainDigits? Char.isDigit (withSign exponent).2).isSome)

/-- A number with a fraction or an exponent, or a special one. Digits may write a number below
the range, which is then minus infinity, but none above it. -/
def float? (cs : List Char) : Option Extended :=
  let ds := (withSign cs).2
  if ds = "inf".toList ∨ ds = "nan".toList then Double.read? cs
  else if isFractional ds then
    (Double.read? (cs.filter (· != '_'))).filter (· ≠ .infinite false)
  else none

def twoDigits? : List Char → Option (Nat × List Char)
  | a :: b :: cs =>
    if a.isDigit ∧ b.isDigit then some (digitsValue [a, b], cs) else none
  | _ => none

/-- What follows a date. Every month may have 31 days. -/
def date? (cs : List Char) : Option (List Char) := do
  let (_, cs) ← twoDigits? cs
  let (_, cs) ← twoDigits? cs
  let '-' :: cs := cs | none
  let (month, cs) ← twoDigits? cs
  let '-' :: cs := cs | none
  let (day, cs) ← twoDigits? cs
  if 1 ≤ month ∧ month ≤ 12 ∧ 1 ≤ day ∧ day ≤ 31 then some cs else none

def time? (cs : List Char) : Option (List Char) := do
  let (hour, cs) ← twoDigits? cs
  let ':' :: cs := cs | none
  let (minute, cs) ← twoDigits? cs
  let ':' :: cs := cs | none
  let (second, cs) ← twoDigits? cs
  if 23 < hour ∨ 59 < minute ∨ 60 < second then none
  else match cs with
    | '.' :: c :: cs => if c.isDigit then some (cs.dropWhile Char.isDigit) else none
    | cs => some cs

def isOffset : List Char → Bool
  | ['Z'] | ['z'] => true
  | c :: cs =>
    (c == '+' || c == '-') && match twoDigits? cs with
      | some (hour, ':' :: cs) =>
        match twoDigits? cs with
        | some (minute, []) => hour ≤ 23 && minute ≤ 59
        | _ => false
      | _ => false
  | [] => false

def isDateTime (cs : List Char) : Bool :=
  match date? cs with
  | some [] => true
  | some (c :: rest) =>
    (c == 'T' || c == 't' || c == ' ') && match time? rest with
      | some [] => true
      | some offset => isOffset offset
      | none => false
  | none => time? cs == some []

def scalar? (cs : List Char) : Option Scalar :=
  if cs = "true".toList then some (.boolean true)
  else if cs = "false".toList then some (.boolean false)
  else match integer? cs with
    | some n => some (.integer n)
    | none =>
      match float? cs with
      | some x => some (.float x)
      | none => if isDateTime cs then some .dateTime else none

def isScalarChar (c : Char) : Bool :=
  c.isAlphanum || c == '_' || c == '+' || c == '-' || c == '.' || c == ':'

/-- The run of characters of a scalar. A blank between a date and a time belongs to it. -/
def scalarRun (cs : List Char) : List Char × List Char :=
  let run := cs.takeWhile isScalarChar
  let rest := cs.dropWhile isScalarChar
  match date? run, rest with
  | some [], ' ' :: a :: more =>
    if a.isDigit then
      (run ++ ' ' :: a :: more.takeWhile isScalarChar, more.dropWhile isScalarChar)
    else (run, rest)
  | _, _ => (run, rest)

end RowSearch.Toml
