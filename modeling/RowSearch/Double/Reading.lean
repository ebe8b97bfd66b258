import RowSearch.Double.Basic

/-! # Reading decimal text

A number is an optional sign, digits with at most one point among them (at least one digit in
all), and an optional exponent; `inf`, `infinity` and `nan` are read in any case. The double
nearest to the decimal is the result.
-/
namespace RowSearch

inductive Extended where
  | finite (d : Double)
  | infinite (negative : Bool)
  | undefined
deriving DecidableEq

def Extended.compare? : Extended → Extended → Option Ordering
  | .undefined, _ | _, .undefined => none
  | .finite a, .finite b => some (a.compare b)
  | .infinite n, .infinite m => some (Ord.compare m n)
  | .infinite n, .finite _ => some (if n then .lt else .gt)
  | .finite _, .infinite n => some (if n then .gt else .lt)

def digitsValue (ds : List Char) : Nat :=
  ds.foldl (fun n d => 10 * n + (d.toNat - '0'.toNat)) 0

namespace Double

/-- Exponents beyond this cannot bring any digits back into range. -/
abbrev exponentBound : Nat := 400

/-- `± m * 10 ^ e`, infinite when out of range. `places` bounds the digits of `m`. -/
def ofDecimal (negative : Bool) (m : Nat) (places : Nat) (e : Int) : Extended :=
  if m = 0 ∨ places + e < -exponentBound then .finite ⟨negative, 0⟩
  else if exponentBound < e then .infinite negative
  else
    let d := if e < 0 then ofRatio? negative m (tenPow (-e).toNat)
      else ofRatio? negative (m * tenPow e.toNat) 1
    match d with
    | some d => .finite d
    | none => .infinite negative

def readExponent? : List Char → Option Int
  | [] => some 0
  | c :: rest =>
    if c ≠ 'e' ∧ c ≠ 'E' then none
    else
      let (negative, ds) := match rest with
        | '-' :: ds => (true, ds)
        | '+' :: ds => (false, ds)
        | ds => (false, ds)
      if ds.isEmpty || !ds.all Char.isDigit then none
      else some (if negative then -(digitsValue ds : Int) else digitsValue ds)

def readUnsigned? (negative : Bool) (cs : List Char) : Option Extended :=
  let lowered := cs.map Char.toLower
  if lowered = "inf".toList ∨ lowered = "infinity".toList then some (.infinite negative)
  else if lowered = "nan".toList then some .undefined
  else
    let whole := cs.takeWhile Char.isDigit
    let rest := cs.dropWhile Char.isDigit
    let (fraction, rest) := match rest with
      | '.' :: rest => (rest.takeWhile Char.isDigit, rest.dropWhile Char.isDigit)
      | rest => ([], rest)
    let digits := whole ++ fraction
    if digits.isEmpty then none
    else (readExponent? rest).map fun e =>
      ofDecimal negative (digitsValue digits) digits.length (e - fraction.length)

def read? : List Char → Option Extended
  | '-' :: cs => readUnsigned? true cs
  | '+' :: cs => readUnsigned? false cs
  | cs => readUnsigned? false cs

end Double
end RowSearch
