import DeviceManagement.Json.Value
import DeviceManagement.Decimal.Shortest

/-!
# Printing JSON

`Value.text` is the compact JSON text of a value: no white space, members in their order,
and an escape only where JSON asks for one. A double is written with the fewest digits that
read back, in positional notation for leading digits from `1e-5` to `1e15`, with at least
one digit after the point, and in scientific notation otherwise.
-/

namespace DeviceManagement.Json

/-- The digit of a number below 16, in lower case. -/
def hexDigit (n : Nat) : Char :=
  Nat.digitChar (n % 16)

/-- The form of a character between quotes. -/
def escape (c : Char) : List Char :=
  if c = '"' then ['\\', '"']
  else if c = '\\' then ['\\', '\\']
  else if c = '\x08' then ['\\', 'b']
  else if c = '\x0c' then ['\\', 'f']
  else if c = '\n' then ['\\', 'n']
  else if c = '\r' then ['\\', 'r']
  else if c = '\t' then ['\\', 't']
  else if c.toNat < 0x20 then ['\\', 'u', '0', '0', hexDigit (c.toNat / 16), hexDigit c.toNat]
  else [c]

/-- The form of a string, with its quotes. -/
def printString (s : String) : List Char :=
  '"' :: (s.toList.flatMap escape ++ ['"'])

/-- The least exponent of a leading digit that is written in positional notation. -/
def minPositional : Int := -5

/-- The greatest exponent of a leading digit that is written in positional notation. -/
def maxPositional : Int := 15

/-- The form of an exponent, with its sign. -/
def printExponent (exponent : Int) : List Char :=
  'e' :: (if exponent < 0 then '-' else '+') :: Nat.toDigits 10 exponent.natAbs

/-- The form of a decimal with the given digits, the first of them at `leading`. -/
def printDigits (digits : List Char) (leading : Int) : List Char :=
  if leading < minPositional ∨ maxPositional < leading then
    match digits with
    | [] => []
    | d :: rest => d :: ((if rest.isEmpty then [] else '.' :: rest) ++ printExponent leading)
  else if leading < 0 then
    '0' :: '.' :: (List.replicate (-leading - 1).toNat '0' ++ digits)
  else
    let whole := leading.toNat + 1
    let fraction := digits.drop whole
    digits.take whole ++ List.replicate (whole - digits.length) '0'
      ++ '.' :: (if fraction.isEmpty then ['0'] else fraction)

/-- The form of a double. -/
def printDouble (d : Decimal.Double) : List Char :=
  let shortest := d.shortest
  let digits := Nat.toDigits 10 shortest.digits
  (if d.negative then ['-'] else [])
    ++ printDigits digits (shortest.exponent + digits.length - 1)

/-- The form of an integer. -/
def printInteger (n : Int) : List Char :=
  (if n < 0 then ['-'] else []) ++ Nat.toDigits 10 n.natAbs

/-- The form of a number. -/
def printNumber : Number → List Char
  | .integer n => printInteger n
  | .double d => printDouble d

mutual

/-- The compact form of a value. -/
def printValue : Value → List Char
  | .null => ['n', 'u', 'l', 'l']
  | .bool true => ['t', 'r', 'u', 'e']
  | .bool false => ['f', 'a', 'l', 's', 'e']
  | .number n => printNumber n
  | .string s => printString s
  | .array [] => ['[', ']']
  | .array (v :: elements) => '[' :: (printValue v ++ printElements elements)
  | .object [] => ['\x7b', '\x7d']
  | .object ((name, v) :: members) =>
    '\x7b' :: (printString name ++ ':' :: (printValue v ++ printMembers members))

/-- The form of the elements after the first, with the closing bracket. -/
def printElements : List Value → List Char
  | [] => [']']
  | v :: elements => ',' :: (printValue v ++ printElements elements)

/-- The form of the members after the first, with the closing brace. -/
def printMembers : List (String × Value) → List Char
  | [] => ['\x7d']
  | (name, v) :: members =>
    ',' :: (printString name ++ ':' :: (printValue v ++ printMembers members))

end

/-- The compact JSON text of a value. -/
def Value.text (v : Value) : String :=
  String.ofList (printValue v)

end DeviceManagement.Json
