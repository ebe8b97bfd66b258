import RowSearch.Double.Basic

/-! # The fewest digits

A double stands for the interval of numbers that round to it: from half the gap to the double
below to half the gap to the double above, ends included when its significand is even. Its
digits are the fewest that name a number of that interval, and of those the nearest.
-/
namespace RowSearch.Double

/-- `± digits * 10 ^ exponent`. -/
structure Decimal where
  digits : Nat
  exponent : Int
deriving DecidableEq

/-- The interval of a positive magnitude, its ends in quarters of a unit. -/
structure Interval where
  low : Nat
  high : Nat
  closed : Bool

def interval (units : Nat) : Interval :=
  let gap := twoPow (units.log2 - 52)
  let gapBelow := if 1 < gap ∧ units = twoPow units.log2 then gap / 2 else gap
  ⟨4 * units - 2 * gapBelow, 4 * units + 2 * gap, units / gap % 2 == 0⟩

def Interval.holds (i : Interval) (d : Decimal) : Bool :=
  let down := tenPow (-d.exponent).toNat
  let x := 4 * d.digits * one * tenPow d.exponent.toNat
  if i.closed then i.low * down ≤ x && x ≤ i.high * down
  else i.low * down < x && x < i.high * down

def belowPower (units : Nat) (k : Int) : Bool :=
  units * tenPow (-k).toNat < one * tenPow k.toNat

/-- The least `k` with the magnitude below `10 ^ k`, found from the binary logarithm. -/
def scale (units : Nat) : Int :=
  let k := ((units.log2 : Int) - 1074) * 30103 / 100000
  if belowPower units k then k else if belowPower units (k + 1) then k + 1 else k + 2

/-- The better of the two neighbours of a magnitude among the multiples of `10 ^ exponent`. -/
def neighbour? (i : Interval) (units : Nat) (exponent : Int) : Option Decimal :=
  let num := units * tenPow (-exponent).toNat
  let den := one * tenPow exponent.toNat
  let below : Decimal := ⟨num / den, exponent⟩
  let above : Decimal := ⟨num / den + 1, exponent⟩
  match i.holds below, i.holds above with
  | true, true => some ⟨divNearest num den, exponent⟩
  | true, false => some below
  | false, true => some above
  | false, false => none

def search (i : Interval) (units : Nat) (exponent : Int) : Nat → Decimal
  | 0 => ⟨units * tenPow (-exponent).toNat / (one * tenPow exponent.toNat), exponent⟩
  | n + 1 => (neighbour? i units exponent).getD (search i units (exponent - 1) n)

def shortest (units : Nat) : Decimal :=
  search (interval units) units (scale units - 1) 17

def stripZeros (ds : List Char) : List Char := (ds.reverse.dropWhile (· == '0')).reverse

/-- Positional notation with at least one digit after the point from `1e-5` up to `1e16`,
scientific notation with a signed exponent outside. -/
def layout (ds : List Char) (point : Int) : List Char :=
  if -5 < point ∧ point ≤ 0 then
    ['0', '.'] ++ List.replicate (-point).toNat '0' ++ ds
  else if 0 < point ∧ point ≤ 16 then
    if ds.length ≤ point.toNat then
      ds ++ List.replicate (point.toNat - ds.length) '0' ++ ['.', '0']
    else ds.take point.toNat ++ '.' :: ds.drop point.toNat
  else
    let e := point - 1
    let mantissa := match ds with
      | d :: (f :: fs) => d :: '.' :: f :: fs
      | ds => ds
    mantissa ++ 'e' :: (if e < 0 then '-' else '+') :: Nat.toDigits 10 e.natAbs

def text (d : Double) : String :=
  let sign := if d.negative then ['-'] else []
  if d.units = 0 then String.ofList (sign ++ ['0', '.', '0'])
  else
    let s := shortest d.units
    let ds := Nat.toDigits 10 s.digits
    String.ofList (sign ++ layout (stripZeros ds) (ds.length + s.exponent))

end RowSearch.Double
