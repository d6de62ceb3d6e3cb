import DeviceManagement.Decimal.Double

/-!
# Shortest decimals

`Double.shortest` is the decimal with the fewest digits among those that read back as a given
double, and of these the nearest to it. The reals that read back as a double form an interval
around it, which includes its ends if the significand is even. On a grid of decimals with a
fixed number of digits only the two neighbours of the double have to be tried: if any point
of the grid lies in the interval, then so does one of them.
-/

namespace DeviceManagement.Decimal

/-- The number `digits * 10 ^ exponent`. -/
structure Scientific where
  digits : Nat
  exponent : Int
  deriving DecidableEq, Repr

/-- The quotient of `num` and `den` over `10 ^ exponent`, as a quotient of naturals. -/
def scaleDecimal (num den : Nat) (exponent : Int) : Nat × Nat :=
  (num * Nat.pow 10 (-exponent).toNat, den * Nat.pow 10 exponent.toNat)

/-- The exponent of ten of the leading digit of the quotient of two positive naturals. -/
def leadingExponent (num den : Nat) : Int :=
  let guess := ((Nat.toDigits 10 num).length : Int) - (Nat.toDigits 10 den).length
  let (n, d) := scaleDecimal num den guess
  if d ≤ n then guess else guess - 1

/-- The number with its trailing zeros moved from the digits, at most `fuel` of them, to the
exponent. -/
def Scientific.trim : (fuel : Nat) → Scientific → Scientific
  | 0, s => s
  | fuel + 1, s =>
    if s.digits % 10 = 0 ∧ s.digits ≠ 0 then
      trim fuel ⟨s.digits / 10, s.exponent + 1⟩
    else
      s

namespace Double

/-- Whether a real reads back as the positive double `d`, for the real `n / (4 * den)` where
`d = num / den` and the unit in the last place of `d` is `ulp / den`. Just above a power of
two the doubles below are twice as close as those above. -/
def readsBack (d : Double) (num ulp n : Nat) : Bool :=
  let narrow := d.significand == Nat.pow 2 (precision - 1) && decide (minExponent < d.exponent)
  let low := 4 * num - (if narrow then ulp else 2 * ulp)
  let high := 4 * num + 2 * ulp
  if d.significand % 2 = 0 then
    decide (low ≤ n ∧ n ≤ high)
  else
    decide (low < n ∧ n < high)

/-- The point of the grid of multiples of `10 ^ exponent` that is nearest to `d` among its
two neighbours there that read back as `d`; of two equally near ones it is the even one. -/
def onGrid? (d : Double) (exponent : Int) : Option Scientific :=
  let (num, den) := d.ratio
  let (n, unit) := scaleDecimal num den exponent
  let ulp := Nat.pow 2 d.exponent.toNat * Nat.pow 10 (-exponent).toNat
  let below := n / unit
  let rest := n % unit
  let belowFits := d.readsBack n ulp (4 * (below * unit))
  let aboveFits := d.readsBack n ulp (4 * ((below + 1) * unit))
  let belowNearer := decide (2 * rest < unit) || (decide (2 * rest = unit) && below % 2 == 0)
  if belowFits && (belowNearer || !aboveFits) then
    some ⟨below, exponent⟩
  else if aboveFits then
    some ⟨below + 1, exponent⟩
  else
    none

/-- The first hit on the grids for a leading digit at `leading` with `digits` digits, with
one more digit, and so on for `more` further grids. -/
def shortestFrom (d : Double) (leading : Int) (digits : Nat) : (more : Nat) → Scientific
  | 0 => (d.onGrid? (leading - digits + 1)).getD ⟨0, 0⟩
  | more + 1 =>
    match d.onGrid? (leading - digits + 1) with
    | some s => s
    | none => shortestFrom d leading (digits + 1) more

/-- The shortest decimal that reads back as the absolute value of a double; seventeen digits
always suffice. -/
def shortest (d : Double) : Scientific :=
  if d.isZero then
    ⟨0, 0⟩
  else
    let (num, den) := d.ratio
    Scientific.trim 17 (d.shortestFrom (leadingExponent num den) 1 16)

end Double

end DeviceManagement.Decimal
