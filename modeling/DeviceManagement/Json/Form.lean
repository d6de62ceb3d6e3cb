import DeviceManagement.Json.Token
import DeviceManagement.Json.Value

/-!
# Written forms

A `Form` is a JSON text as it is written: the members of an object may repeat, numbers are
digits, and strings may spell no text. `Form.ofText?` reads a text as a form. Only where a
form is used does it have to make sense: `Form.value?` reads it as a value, with the nesting
allowed by `maxDepth`, while a part of a document that nobody asks for is never looked at.
-/

namespace DeviceManagement.Json

/-- A JSON text as it is written. -/
inductive Form where
  | null
  | bool (b : Bool)
  | number (form : NumberForm)
  | string (s : Option String)
  | array (elements : List Form)
  | object (members : List (Option String × Form))
  deriving Repr, BEq, Inhabited

namespace Form

mutual

/-- The form that some tokens start with, and the remaining tokens. -/
def read : (fuel : Nat) → List Token → Option (Form × List Token)
  | _, .null :: ts => some (null, ts)
  | _, .bool b :: ts => some (bool b, ts)
  | _, .number form :: ts => some (number form, ts)
  | _, .string s :: ts => some (string s, ts)
  | _, .openBracket :: .closeBracket :: ts => some (array [], ts)
  | fuel + 1, .openBracket :: ts => do
    let (first, ts) ← read fuel ts
    let (rest, ts) ← readElements fuel ts
    return (array (first :: rest), ts)
  | _, .openBrace :: .closeBrace :: ts => some (object [], ts)
  | fuel + 1, .openBrace :: .string name :: .colon :: ts => do
    let (first, ts) ← read fuel ts
    let (rest, ts) ← readMembers fuel ts
    return (object ((name, first) :: rest), ts)
  | _, _ => none

/-- The elements after the first, up to the closing bracket, and the remaining tokens. -/
def readElements : (fuel : Nat) → List Token → Option (List Form × List Token)
  | _, .closeBracket :: ts => some ([], ts)
  | fuel + 1, .comma :: ts => do
    let (first, ts) ← read fuel ts
    let (rest, ts) ← readElements fuel ts
    return (first :: rest, ts)
  | _, _ => none

/-- The members after the first, up to the closing brace, and the remaining tokens. -/
def readMembers : (fuel : Nat) → List Token → Option (List (Option String × Form) × List Token)
  | _, .closeBrace :: ts => some ([], ts)
  | fuel + 1, .comma :: .string name :: .colon :: ts => do
    let (first, ts) ← read fuel ts
    let (rest, ts) ← readMembers fuel ts
    return ((name, first) :: rest, ts)
  | _, _ => none

end

/-- The form that all of the given tokens make. -/
def ofTokens? (tokens : List Token) : Option Form :=
  match read tokens.length tokens with
  | some (form, []) => some form
  | _ => none

/-- The form of a JSON text. -/
def ofText? (text : String) : Option Form := do
  let tokens ← scan text.toList
  ofTokens? tokens

end Form

/-! ### Numbers -/

/-- The greatest significand that a number is read with. -/
def maxSignificand : Nat := UInt64.size - 1

/-- The significand `value` continued by as many of the given digits as it has room for, and
the digits left over. -/
def accumulate (value : Nat) : List Nat → Nat × List Nat
  | [] => (value, [])
  | d :: rest =>
    if value * 10 + d ≤ maxSignificand then accumulate (value * 10 + d) rest else (value, d :: rest)

/-- The greatest power of ten that a double is multiplied or divided by in one step. -/
def maxPower : Nat := 308

/-- The double next to a power of ten. -/
def powerOfTen? (exponent : Nat) : Option Decimal.Double :=
  Decimal.Double.ofRatio? false (Nat.pow 10 exponent) 1

/-- The double `d` divided `steps` times by `power` and then by `last`, ending early at zero. -/
def divideInSteps? (power last : Decimal.Double) : (steps : Nat) → Decimal.Double →
    Option Decimal.Double
  | 0, d => d.div? last
  | steps + 1, d =>
    if d.isZero then
      some d
    else do
      let quotient ← d.div? power
      divideInSteps? power last steps quotient

/-- The double `d` divided by the power of ten with a positive exponent, by at most
`maxPower` of its zeros at a time. -/
def divideByPower? (d : Decimal.Double) (exponent : Nat) : Option Decimal.Double := do
  let steps := (exponent - 1) / maxPower
  let power ← powerOfTen? maxPower
  let last ← powerOfTen? (exponent - steps * maxPower)
  divideInSteps? power last steps d

/-- The double for the number `significand * 10 ^ exponent`, unless that is too large. -/
def doubleOf? (significand : Nat) (exponent : Int) : Option Decimal.Double := do
  let d ← Decimal.Double.ofRatio? false significand 1
  if exponent < 0 then
    divideByPower? d exponent.natAbs
  else if exponent ≤ maxPower then
    d.mul? (← powerOfTen? exponent.natAbs)
  else if d.isZero then
    some d
  else
    none

/-- The greatest exponent that is read as a number; any greater one is as good as infinite. -/
def maxExponent : Nat := Nat.pow 2 31 - 1

namespace NumberForm

/-- The significand of a number, the power of ten it is meant with before its exponent is
taken into account, and whether it has lost no digit. -/
def significand (form : NumberForm) : Nat × Int :=
  let (value, left) := accumulate 0 form.whole
  let fraction := form.fraction.getD []
  let (value, fractionLeft) := accumulate value fraction
  (value, (left.length : Int) - (fraction.length - fractionLeft.length : Nat))

/-- The natural number that a list of digits stands for. -/
def natural (digits : List Nat) : Nat :=
  digits.foldl (fun value d => value * 10 + d) 0

/-- The double that a number stands for, unless that is too large. -/
def double? (form : NumberForm) : Option Decimal.Double := do
  let (value, power) := form.significand
  let d ←
    match form.exponent with
    | none => doubleOf? value power
    | some (negative, digits) =>
      let exponent := natural digits
      if exponent ≤ maxExponent then
        doubleOf? value (if negative then power - exponent else power + exponent)
      else if value = 0 ∨ negative then
        some (.zero false)
      else
        none
  return d.withSign form.negative

/-- The integer that a number stands for, if it is written as one and in range: a negative
one has 64 bits with its sign, and minus zero is none. -/
def integer? (form : NumberForm) : Option Int :=
  if form.fraction.isSome || form.exponent.isSome then
    none
  else
    let n := natural form.whole
    if form.negative then
      if n = 0 ∨ Nat.pow 2 63 < n then none else some (-n)
    else if n ≤ maxSignificand then
      some n
    else
      none

/-- The number that a form stands for, unless it is too large. -/
def number? (form : NumberForm) : Option Number :=
  match form.integer? with
  | some n => some (.integer n)
  | none => form.double?.map .double

end NumberForm

/-! ### Values -/

/-- The number of arrays and objects that may stand inside each other. -/
def maxDepth : Nat := 127

namespace Form

mutual

/-- The value of a form in which at most `depth` arrays and objects stand inside each other. -/
def value? : (depth : Nat) → Form → Option Value
  | _, null => some .null
  | _, bool b => some (.bool b)
  | _, number form => form.number?.map .number
  | _, string s => s.map .string
  | 0, array _ => none
  | depth + 1, array elements => (values? depth elements).map .array
  | 0, object _ => none
  | depth + 1, object members =>
    (memberValues? depth members).map fun members => .object (insertAll members)

/-- The values of a list of forms. -/
def values? : (depth : Nat) → List Form → Option (List Value)
  | _, [] => some []
  | depth, form :: rest => do
    let value ← value? depth form
    let values ← values? depth rest
    return value :: values

/-- The members of an object with their values. -/
def memberValues? : (depth : Nat) → List (Option String × Form) → Option (List (String × Value))
  | _, [] => some []
  | depth, (name, form) :: rest => do
    let name ← name
    let value ← value? depth form
    let values ← memberValues? depth rest
    return (name, value) :: values

end

end Form

/-- The value of a JSON text. -/
def Value.ofText? (text : String) : Option Value := do
  let form ← Form.ofText? text
  form.value? maxDepth

/-! ### Records -/

namespace Form

/-- The members of a record with the given field names, in their order. A record is written
as an object, whose other members do not matter, or as an array of the first fields. No field
may be given twice, and no array may be longer than the record. -/
def fields? (names : List String) : Form → Option (List (Option Form))
  | object members =>
    if members.all fun member => member.1.isSome then
      names.mapM fun name =>
        match members.filter fun member => member.1 == some name with
        | [] => some none
        | [(_, form)] => some (some form)
        | _ => none
    else
      none
  | array elements =>
    if elements.length ≤ names.length then
      some (elements.map some ++ List.replicate (names.length - elements.length) none)
    else
      none
  | _ => none

/-- The text of a string. -/
def text? : Form → Option String
  | string s => s
  | _ => none

/-- The truth value of a form. -/
def bool? : Form → Option Bool
  | bool b => some b
  | _ => none

/-- The natural number up to `max` that a form stands for. -/
def natural? (max : Nat) : Form → Option Nat
  | number form => do
    let n ← form.integer?
    if 0 ≤ n ∧ n ≤ max then some n.toNat else none
  | _ => none

/-- The entries of an array, each read by `read`. -/
def list? {α : Type} (read : Form → Option α) : Form → Option (List α)
  | array elements => elements.mapM read
  | _ => none

/-- What `read` makes of a form, or nothing if the form is `null`. -/
def nullable? {α : Type} (read : Form → Option α) : Form → Option (Option α)
  | null => some none
  | form => (read form).map some

/-- What `read` makes of a field, or `default` if the field is not given. -/
def orDefault? {α : Type} (default : α) (read : Form → Option α) : Option Form → Option α
  | none => some default
  | some form => read form

end Form

end DeviceManagement.Json
