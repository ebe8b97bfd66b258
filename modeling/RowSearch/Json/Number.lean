import RowSearch.Double.Reading
import RowSearch.Double.Shortest
import RowSearch.Text.Split

/-! # Numbers of a document

A number is an integer that fits 64 bits, signed below zero and unsigned from zero on, or a
double. The two kinds are never equal to each other; where numbers are compared by size, both
count as the nearest double.
-/
namespace RowSearch.Json

def IntegerRange (n : Int) : Prop :=
  -9223372036854775808 ≤ n ∧ n ≤ 18446744073709551615

instance (n : Int) : Decidable (IntegerRange n) := inferInstanceAs (Decidable (_ ∧ _))

inductive Number where
  | integer (n : Int) (inRange : IntegerRange n)
  | double (d : Double)
deriving DecidableEq

namespace Number

def approx : Number → Double
  | .integer n _ => Double.ofInt n
  | .double d => d

instance : BEq Number where
  beq
    | .integer m _, .integer n _ => m == n
    | .double a, .double b => a == b
    | _, _ => false

def ofInt? (n : Int) : Option Number :=
  if h : IntegerRange n then some (.integer n h) else none

theorem count_inRange (n : UInt64) : IntegerRange n.toNat := by
  have := n.toNat_lt
  constructor <;> omega

def ofCount (n : UInt64) : Number := .integer n.toNat (count_inRange n)

def text : Number → List Char
  | .integer n _ => if n < 0 then '-' :: Nat.toDigits 10 n.natAbs else Nat.toDigits 10 n.natAbs
  | .double d => d.text.toList

/-- The number as a count: itself when whole and not negative, at most the largest word. -/
def toCount? : Number → Option UInt64
  | .integer n _ => if 0 ≤ n then some (UInt64.ofNat n.toNat) else none
  | .double d => d.toNat?.map fun n => UInt64.ofNat (min n (UInt64.size - 1))

end Number

def readCount? (cs : List Char) : Option UInt64 :=
  let ds := match cs with
    | '+' :: ds => ds
    | ds => ds
  if ds.isEmpty || !ds.all Char.isDigit || UInt64.size ≤ digitsValue ds then none
  else some (UInt64.ofNat (digitsValue ds))

end RowSearch.Json
