import RowSearch.Json.Basic
import RowSearch.Text.Hex

/-! # Reading documents

A strict reader: no comments, no trailing commas, no leading zeros, no raw control characters in
strings, no lone surrogate escapes. Containers may nest up to a given depth. A repeated key keeps
its first place and its last value.

A number without fraction and exponent that fits 64 bits is an integer. Every other number is a
double: as many of its digits as fit an unsigned 64-bit word, scaled once by a power of ten.
-/
namespace RowSearch.Json

abbrev nestingLimit : Nat := 127

def isBlankChar (c : Char) : Bool := c == ' ' || c == '\n' || c == '\t' || c == '\r'

def skipBlanks (cs : List Char) : List Char := cs.dropWhile isBlankChar

namespace Number

/-- A magnitude in the course of being read: `significand * 10 ^ exponent`. -/
structure Scaled where
  significand : Nat
  exponent : Int

def push? (significand : Nat) (d : Char) : Option Nat :=
  let n := 10 * significand + (d.toNat - '0'.toNat)
  if n < UInt64.size then some n else none

/-- Takes integer digits while they fit. The digits that no longer do, remain. -/
def takeWhole (significand : Nat) : List Char → Nat × List Char
  | [] => (significand, [])
  | c :: cs =>
    if c.isDigit then
      match push? significand c with
      | some n => takeWhole n cs
      | none => (significand, c :: cs)
    else (significand, c :: cs)

def takeFraction (s : Scaled) : List Char → Scaled × List Char
  | [] => (s, [])
  | c :: cs =>
    if c.isDigit then
      match push? s.significand c with
      | some n => takeFraction ⟨n, s.exponent - 1⟩ cs
      | none => (s, (c :: cs).dropWhile Char.isDigit)
    else (s, c :: cs)

def powerOfTen (k : Nat) : Double := ⟨false, Double.roundQuotient (tenPow k) 1 * Double.one⟩

abbrev largestPower : Nat := 308

/-- Divides by `10 ^ k`, in steps that each divide by a double. Three steps leave nothing of a
64-bit significand. -/
def scaleDown (x : Double) (k : Nat) : Nat → Double
  | 0 => ⟨false, 0⟩
  | steps + 1 =>
    if k ≤ largestPower then (x.div? (powerOfTen k)).getD x
    else scaleDown ((x.div? (powerOfTen largestPower)).getD x) (k - largestPower) steps

def Scaled.toDouble? (s : Scaled) : Option Double :=
  let x := Double.ofInt s.significand
  if x.isZero then some x
  else if s.exponent < 0 then some (scaleDown x (-s.exponent).toNat 4)
  else if s.exponent ≤ largestPower then x.mul? (powerOfTen s.exponent.toNat)
  else none

/-- The exponents that are read as such; beyond them a number is zero or out of range. -/
abbrev exponentLimit : Nat := 2147483647

def finish? (negative : Bool) (s : Scaled) (cs : List Char) : Option (Double × List Char) :=
  let signed (x : Double) : Double := { x with negative }
  match cs with
  | c :: rest =>
    if c = 'e' ∨ c = 'E' then
      let (down, rest) := match rest with
        | '-' :: rest => (true, rest)
        | '+' :: rest => (false, rest)
        | rest => (false, rest)
      let ds := rest.takeWhile Char.isDigit
      let rest := rest.dropWhile Char.isDigit
      let e := digitsValue ds
      if ds.isEmpty then none
      else if exponentLimit < e then
        if s.significand ≠ 0 ∧ !down then none else some (signed ⟨false, 0⟩, rest)
      else
        let exponent := if down then s.exponent - e else s.exponent + e
        (Scaled.toDouble? ⟨s.significand, exponent⟩).map fun x => (signed x, rest)
    else s.toDouble?.map fun x => (signed x, c :: rest)
  | [] => s.toDouble?.map fun x => (signed x, [])

/-- What follows the integer digits. `exact` tells that all of them are in the significand. -/
def afterWhole? (negative exact : Bool) (s : Scaled) (cs : List Char) :
    Option (Number × List Char) :=
  let double (r : Double × List Char) : Number × List Char := (.double r.1, r.2)
  match cs with
  | '.' :: c :: rest =>
    if c.isDigit then
      let (s, rest) := takeFraction s (c :: rest)
      (finish? negative s rest).map double
    else none
  | ['.'] => none
  | c :: rest =>
    if c = 'e' ∨ c = 'E' ∨ !exact then (finish? negative s (c :: rest)).map double
    else some (whole s.significand, c :: rest)
  | [] => if exact then some (whole s.significand, []) else (finish? negative s []).map double
where
  /-- An integer where it has a place; minus zero and what is below the range are doubles. -/
  whole (n : Nat) : Number :=
    if negative && n == 0 then .double ⟨true, 0⟩
    else
      let i : Int := if negative then -(n : Int) else n
      (ofInt? i).getD (.double (Double.ofInt i))

def read? (negative : Bool) : List Char → Option (Number × List Char)
  | '0' :: cs =>
    match cs with
    | c :: _ => if c.isDigit then none else afterWhole? negative true ⟨0, 0⟩ cs
    | [] => afterWhole? negative true ⟨0, 0⟩ cs
  | c :: cs =>
    if c.isDigit then
      let (n, rest) := takeWhole 0 (c :: cs)
      let extra := rest.takeWhile Char.isDigit
      afterWhole? negative extra.isEmpty ⟨n, extra.length⟩ (rest.dropWhile Char.isDigit)
    else none
  | [] => none

end Number

def unescape? : Char → Option Char
  | '"' => some '"'
  | '\\' => some '\\'
  | '/' => some '/'
  | 'b' => some '\x08'
  | 'f' => some '\x0c'
  | 'n' => some '\n'
  | 'r' => some '\r'
  | 't' => some '\t'
  | _ => none

/-- Reads the inside of a string up to its closing quote. `high` is a high surrogate that still
needs its partner; `read` holds the characters so far, last first. -/
def readString? (high : Option Nat) (read : List Char) :
    List Char → Option (String × List Char)
  | '\\' :: 'u' :: a :: b :: c :: d :: rest =>
    match Text.hexValue? [a, b, c, d], high with
    | none, _ => none
    | some n, some h =>
      if 0xDC00 ≤ n ∧ n < 0xE000 then
        let code := 0x10000 + (h - 0xD800) * 0x400 + (n - 0xDC00)
        readString? none (Char.ofNat code :: read) rest
      else none
    | some n, none =>
      if 0xD800 ≤ n ∧ n < 0xDC00 then readString? (some n) read rest
      else if 0xDC00 ≤ n ∧ n < 0xE000 then none
      else readString? none (Char.ofNat n :: read) rest
  | '\\' :: c :: rest =>
    match high, unescape? c with
    | none, some x => readString? none (x :: read) rest
    | _, _ => none
  | c :: rest =>
    if high.isSome then none
    else if c = '"' then some (String.ofList read.reverse, rest)
    else if c.toNat < 0x20 ∨ c = '\\' then none
    else readString? none (c :: read) rest
  | [] => none

def literals : List (List Char × Json) :=
  [("null".toList, .null), ("true".toList, .bool true), ("false".toList, .bool false)]

def readScalar? : List Char → Option (Json × List Char)
  | '"' :: cs => (readString? none [] cs).map fun r => (.string r.1, r.2)
  | '-' :: cs => (Number.read? true cs).map fun r => (.number r.1, r.2)
  | cs =>
    match literals.findSome? fun l => (Text.dropPrefix? l.1 cs).map (l.2, ·) with
    | some r => some r
    | none => (Number.read? false cs).map fun r => (.number r.1, r.2)

mutual

/-- A value after blanks. Every call takes a unit of fuel; two for each character suffice. -/
def readValue? (depth : Nat) (cs : List Char) : Nat → Option (Json × List Char)
  | 0 => none
  | fuel + 1 =>
    match skipBlanks cs, depth with
    | '[' :: _, 0 => none
    | '{' :: _, 0 => none
    | '[' :: cs, depth + 1 =>
      match skipBlanks cs with
      | ']' :: rest => some (.array [], rest)
      | cs => readItems? depth [] cs fuel
    | '{' :: cs, depth + 1 =>
      match skipBlanks cs with
      | '}' :: rest => some (.object [], rest)
      | cs => readFields? depth [] cs fuel
    | cs, _ => readScalar? cs

def readItems? (depth : Nat) (items : List Json) (cs : List Char) :
    Nat → Option (Json × List Char)
  | 0 => none
  | fuel + 1 =>
    match readValue? depth cs fuel with
    | none => none
    | some (v, rest) =>
      match skipBlanks rest with
      | ',' :: rest => readItems? depth (v :: items) rest fuel
      | ']' :: rest => some (.array (v :: items).reverse, rest)
      | _ => none

def readFields? (depth : Nat) (fields : Fields) (cs : List Char) :
    Nat → Option (Json × List Char)
  | 0 => none
  | fuel + 1 =>
    match skipBlanks cs with
    | '"' :: cs =>
      match readString? none [] cs with
      | none => none
      | some (key, rest) =>
        match skipBlanks rest with
        | ':' :: rest =>
          match readValue? depth rest fuel with
          | none => none
          | some (v, rest) =>
            let fields := fields.insert key v
            match skipBlanks rest with
            | ',' :: rest => readFields? depth fields rest fuel
            | '}' :: rest => some (.object fields, rest)
            | _ => none
        | _ => none
    | _ => none

end

def parseWithin? (depth : Nat) (text : String) : Option Json :=
  let cs := text.toList
  match readValue? depth cs (2 * cs.length + 2) with
  | some (v, rest) => if (skipBlanks rest).isEmpty then some v else none
  | none => none

def parse? (text : String) : Option Json := parseWithin? nestingLimit text

end RowSearch.Json
