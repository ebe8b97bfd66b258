/-! # Doubles as whole numbers of units

Every finite binary64 number is a whole multiple of `2 ^ -1074`, the least positive one, so a
sign and that multiple hold it exactly: order and equality are those of integers. Arithmetic
rounds the exact result to 53 significant bits, a tie going to the even neighbour, and has no
result where the rounded magnitude reaches `2 ^ 1024`.
-/
namespace RowSearch

abbrev twoPow (k : Nat) : Nat := Nat.pow 2 k

abbrev tenPow (k : Nat) : Nat := Nat.pow 10 k

/-- A finite double: a sign and a magnitude in units of `2 ^ -1074`. -/
structure Double where
  negative : Bool
  units : Nat
deriving DecidableEq

namespace Double

abbrev one : Nat := twoPow 1074

/-- The magnitude, in units, that is already too large. -/
abbrev limit : Nat := twoPow 2098

/-- The whole number nearest to `a / b`, a half going to the even neighbour. -/
def divNearest (a b : Nat) : Nat :=
  let q := a / b
  let r := a % b
  if b < 2 * r ∨ (2 * r = b ∧ q % 2 = 1) then q + 1 else q

/-- `a / b` rounded to 53 significant bits, but never finer than a whole number. -/
def roundQuotient (a b : Nat) : Nat :=
  let unit := twoPow ((a / b).log2 - 52)
  divNearest a (b * unit) * unit

def ofUnits? (negative : Bool) (units : Nat) : Option Double :=
  if units < limit then some ⟨negative, units⟩ else none

def ofInt (n : Int) : Double :=
  ⟨decide (n < 0), roundQuotient n.natAbs 1 * one⟩

def ofRatio? (negative : Bool) (num den : Nat) : Option Double :=
  ofUnits? negative (roundQuotient (num * one) den)

def mul? (a b : Double) : Option Double :=
  ofUnits? (a.negative != b.negative) (roundQuotient (a.units * b.units) one)

def div? (a b : Double) : Option Double :=
  ofUnits? (a.negative != b.negative) (roundQuotient (a.units * one) b.units)

def value (d : Double) : Int := if d.negative then -(d.units : Int) else d.units

def isZero (d : Double) : Bool := d.units == 0

/-- The number itself when it is whole and not negative; `-0.0` counts as zero. -/
def toNat? (d : Double) : Option Nat :=
  if 0 ≤ d.value ∧ d.units % one = 0 then some (d.units / one) else none

/-- Equality of numbers, which does not tell the zeros apart. -/
instance : BEq Double := ⟨fun a b => a.value == b.value⟩

def compare (a b : Double) : Ordering := Ord.compare a.value b.value

end Double
end RowSearch
