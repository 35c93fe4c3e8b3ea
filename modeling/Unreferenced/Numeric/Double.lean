import Unreferenced.Numeric.Rounding

/-!
# Double precision, without sign

The non-negative finite numbers of the IEEE-754 binary64 format, with the
operations that the library needs.  Every operation computes the exact rational
result and rounds it once, to nearest with ties to even, so the results agree
with the hardware's.  Magnitudes that need a subnormal significand or overflow
do not occur: the operands are counts and durations.
-/

namespace Unreferenced
namespace Numeric

/-- The number `significand · 2 ^ exponent`. -/
structure Double where
  significand : Nat
  exponent : Int
deriving DecidableEq, Repr

namespace Double

/-! ## Exact values -/

/-- The numerator of the exact value. -/
def num (x : Double) : Nat := x.significand * Nat.pow 2 x.exponent.toNat

/-- The denominator of the exact value, a power of two. -/
def den (x : Double) : Nat := Nat.pow 2 (-x.exponent).toNat

theorem den_pos (x : Double) : 0 < x.den := Nat.two_pow_pos _

/-! ## Rounding -/

/-- The number zero. -/
def zero : Double := ⟨0, 0⟩

/-- The number of binary digits of a significand. -/
def precision : Nat := 53

/-- The exponent that gives the quotient `num / den` a significand of full
precision, before rounding. -/
def exponentFor (num den : Nat) : Int :=
  let guess : Int := (num.log2 : Int) - den.log2 - (precision - 1 : Nat)
  if num * Nat.pow 2 (-guess).toNat < Nat.pow 2 (precision - 1) * (den * Nat.pow 2 guess.toNat)
  then guess - 1
  else guess

/-- The double nearest to `num / den`, with ties to the even significand. -/
def ofRatio (num den : Nat) : Double :=
  if num = 0 then zero
  else
    let e := exponentFor num den
    let m := roundDiv (num * Nat.pow 2 (-e).toNat) (den * Nat.pow 2 e.toNat)
    if m = Nat.pow 2 precision then ⟨Nat.pow 2 (precision - 1), e + 1⟩ else ⟨m, e⟩

/-- The double nearest to a natural number. -/
def ofNat (n : Nat) : Double := ofRatio n 1

/-! ## Arithmetic -/

/-- The rounded sum. -/
def add (x y : Double) : Double :=
  ofRatio (x.num * y.den + y.num * x.den) (x.den * y.den)

/-- The rounded product. -/
def mul (x y : Double) : Double :=
  ofRatio (x.num * y.num) (x.den * y.den)

/-- The rounded quotient by a number other than zero. -/
def div (x y : Double) : Double :=
  ofRatio (x.num * y.den) (x.den * y.num)

/-- Whether the number is above zero. -/
def isPositive (x : Double) : Bool := x.significand != 0

/-! ## Presentation -/

/-- The 64 bits of the number: the biased exponent, then the significand
without its leading digit. -/
def bits (x : Double) : Nat :=
  if x.significand = 0 then 0
  else (x.exponent + 1075).toNat * Nat.pow 2 52 + (x.significand - Nat.pow 2 52)

/-- The digits of a natural number in lower-case hexadecimal, filled up with
zeros to the given width. -/
def hexDigits (width n : Nat) : String :=
  let ds := Nat.toDigits 16 n
  String.ofList (List.replicate (width - ds.length) '0' ++ ds)

/-- The bits as sixteen hexadecimal digits. -/
def bitsHex (x : Double) : String := hexDigits 16 x.bits

/-- The exact value, rounded to the given number of decimal places with ties to
even, in decimal notation. -/
def fixed (places : Nat) (x : Double) : String :=
  let scaled := roundDiv (x.num * Nat.pow 10 places) x.den
  let whole := toString (scaled / Nat.pow 10 places)
  if places = 0 then whole
  else
    let ds := Nat.toDigits 10 (scaled % Nat.pow 10 places)
    whole ++ "." ++ String.ofList (List.replicate (places - ds.length) '0' ++ ds)

end Double
end Numeric
end Unreferenced
