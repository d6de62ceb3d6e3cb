/-!
# Double precision numbers

The finite binary numbers of 53 bits, held exactly as a sign, a significand and an exponent
of two. `ofRatio?` rounds a quotient of naturals to the nearest of them, a tie to the even
significand; `mul?` and `div?` round the exact product and quotient. Where the result is too
large there is none.
-/

namespace DeviceManagement.Decimal

/-- The finite double whose absolute value is `significand * 2 ^ exponent`. The significand
has 53 bits, or fewer at the least exponent. -/
structure Double where
  negative : Bool
  significand : Nat
  exponent : Int
  deriving DecidableEq, Repr, Inhabited

/-- The quotient of `num` and `den` rounded to the nearest natural, a tie to the even one. -/
def roundHalfEven (num den : Nat) : Nat :=
  let quotient := num / den
  let twice := 2 * (num % den)
  if twice < den ∨ (twice = den ∧ quotient % 2 = 0) then quotient else quotient + 1

/-- The quotient of `num` and `den` over `2 ^ exponent`, as a quotient of naturals. -/
def scaleRatio (num den : Nat) (exponent : Int) : Nat × Nat :=
  (num * Nat.pow 2 (-exponent).toNat, den * Nat.pow 2 exponent.toNat)

namespace Double

/-- The number of bits of a significand. -/
def precision : Nat := 53

/-- The exponent of the smallest doubles. -/
def minExponent : Int := -1074

/-- The exponent of the largest doubles. -/
def maxExponent : Int := 971

/-- The zero of the given sign. -/
def zero (negative : Bool) : Double :=
  ⟨negative, 0, minExponent⟩

/-- A double is zero if its significand is. -/
def isZero (d : Double) : Bool :=
  d.significand == 0

/-- The exponent at which the quotient of `num` and `den` has at most `precision` bits before
the binary point: the least one, unless `minExponent` is greater. -/
def exponentFor (num den : Nat) : Int :=
  let guess := max ((num.log2 : Int) - den.log2 - precision) minExponent
  let (n, d) := scaleRatio num den guess
  if n / d < Nat.pow 2 precision then guess else guess + 1

/-- The double nearest to the quotient of `num` and `den`, unless that is too large. -/
def ofRatio? (negative : Bool) (num den : Nat) : Option Double :=
  if num = 0 then
    some (zero negative)
  else
    let exponent := exponentFor num den
    let (n, d) := scaleRatio num den exponent
    let significand := roundHalfEven n d
    let rounded : Double :=
      if significand < Nat.pow 2 precision then
        ⟨negative, significand, exponent⟩
      else
        ⟨negative, Nat.pow 2 (precision - 1), exponent + 1⟩
    if rounded.exponent ≤ maxExponent then some rounded else none

/-- The absolute value of a double as a quotient of naturals. -/
def ratio (d : Double) : Nat × Nat :=
  (d.significand * Nat.pow 2 d.exponent.toNat, Nat.pow 2 (-d.exponent).toNat)

/-- The rounded product of two doubles. -/
def mul? (a b : Double) : Option Double :=
  ofRatio? (a.negative != b.negative) (a.ratio.1 * b.ratio.1) (a.ratio.2 * b.ratio.2)

/-- The rounded quotient of two doubles, the second of them not zero. -/
def div? (a b : Double) : Option Double :=
  ofRatio? (a.negative != b.negative) (a.ratio.1 * b.ratio.2) (a.ratio.2 * b.ratio.1)

/-- The double with the same absolute value and the given sign. -/
def withSign (d : Double) (negative : Bool) : Double :=
  { d with negative := negative }

end Double

end DeviceManagement.Decimal
