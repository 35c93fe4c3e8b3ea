import Unreferenced.Numeric.Double

/-!
# Numbers as they are written in JSON

A numeral keeps the digits of the text.  It denotes an integer only if it is
written as one; and it is in range if a double can hold it.
-/

namespace Unreferenced
namespace Json

/-- The parts of a written number; an absent fraction has no digits. -/
structure Numeral where
  negative : Bool
  whole : List Char
  fraction : List Char
  exponent : Option (Bool × List Char)
deriving DecidableEq, Repr

namespace Numeral

/-- The value of a decimal digit. -/
def digit (c : Char) : Nat := c.toNat - '0'.toNat

/-- The value of a sequence of decimal digits. -/
def value (ds : List Char) : Nat :=
  ds.foldl (fun n c => 10 * n + digit c) 0

/-- The integer that the numeral denotes.  A numeral with a fraction or an
exponent denotes none, whatever its value, and neither does minus zero. -/
def toInt? (n : Numeral) : Option Int :=
  if n.fraction = [] ∧ n.exponent = none then
    match n.negative, value n.whole with
    | false, v => some v
    | true, 0 => none
    | true, v + 1 => some (Int.negSucc v)
  else none

/-! ## Range -/

/-- A decimal number `significand · 10 ^ exponent`; `full` says that a digit did
not fit into the significand any more. -/
structure Decimal where
  significand : Nat
  exponent : Int
  full : Bool

/-- The largest number of 64 bits. -/
def maxSignificand : Nat := 18446744073709551615

/-- Takes in a digit left of the point: a significand holds 64 bits, and from
the first digit that does not fit on, digits only count. -/
def Decimal.pushWhole (d : Decimal) (c : Char) : Decimal :=
  let next := 10 * d.significand + digit c
  if d.full || maxSignificand < next then { d with exponent := d.exponent + 1, full := true }
  else { d with significand := next }

/-- Takes in a digit right of the point: from the first digit that does not fit
on, digits are dropped. -/
def Decimal.pushFraction (d : Decimal) (c : Char) : Decimal :=
  let next := 10 * d.significand + digit c
  if d.full || maxSignificand < next then { d with full := true }
  else { d with significand := next, exponent := d.exponent - 1 }

/-- The numeral's digits and exponent as a decimal number. -/
def toDecimal (n : Numeral) : Decimal :=
  let whole := n.whole.foldl Decimal.pushWhole ⟨0, 0, false⟩
  let d := n.fraction.foldl Decimal.pushFraction { whole with full := false }
  match n.exponent with
  | none => d
  | some (false, ds) => { d with exponent := d.exponent + value ds }
  | some (true, ds) => { d with exponent := d.exponent - value ds }

/-- The smallest number that rounds to no finite double. -/
def overflow : Nat := Nat.pow 2 1024 - Nat.pow 2 970

/-- Whether the product of a significand and a power of ten, each rounded to a
double, is again a finite double. -/
def productFits (significand exponent : Nat) : Bool :=
  let x := Numeric.Double.ofNat significand
  let y := Numeric.Double.ofNat (Nat.pow 10 exponent)
  x.num * y.num < overflow * (x.den * y.den)

/-- Whether a double can hold the number. -/
def inRange (n : Numeral) : Bool :=
  let d := n.toDecimal
  d.significand == 0 || d.exponent < 0 ||
    (d.exponent ≤ 308 && productFits d.significand d.exponent.toNat)

end Numeral
end Json
end Unreferenced
