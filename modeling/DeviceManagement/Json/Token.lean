/-!
# JSON tokens

`scan` reads a JSON text as its tokens, leaving out the white space between them. A string
may spell a lone surrogate by an escape; such a token is well formed but stands for no
string. A number keeps the digits it is written with.
-/

namespace DeviceManagement.Json

/-- The parts of a number as it is written: its sign, the digits before and after the point,
and the sign and digits of its exponent. -/
structure NumberForm where
  negative : Bool
  whole : List Nat
  fraction : Option (List Nat)
  exponent : Option (Bool × List Nat)
  deriving DecidableEq, Repr

/-- The tokens of a JSON text. -/
inductive Token where
  | openBrace
  | closeBrace
  | openBracket
  | closeBracket
  | comma
  | colon
  | null
  | bool (b : Bool)
  | number (form : NumberForm)
  | string (s : Option String)
  deriving DecidableEq, Repr

/-- The white space of JSON. -/
def isBlank (c : Char) : Bool :=
  c == ' ' || c == '\t' || c == '\n' || c == '\r'

/-- The values of the digits a text starts with, and the rest of the text. -/
def spanDigits (cs : List Char) : List Nat × List Char :=
  ((cs.takeWhile Char.isDigit).map fun c => c.toNat - '0'.toNat, cs.dropWhile Char.isDigit)

/-- The values of the digits a text starts with, of which there must be one. -/
def someDigits (cs : List Char) : Option (List Nat × List Char) :=
  let (digits, rest) := spanDigits cs
  if digits.isEmpty then none else some (digits, rest)

/-- The digits before the point: a zero stands alone. -/
def scanWhole (cs : List Char) : Option (List Nat × List Char) := do
  let (digits, rest) ← someDigits cs
  if digits.head? = some 0 ∧ digits ≠ [0] then none else some (digits, rest)

/-- The digits after the point, if there is one. -/
def scanFraction : List Char → Option (Option (List Nat) × List Char)
  | '.' :: cs => do
    let (digits, rest) ← someDigits cs
    return (some digits, rest)
  | cs => some (none, cs)

/-- The sign and the digits of the exponent, if there is one; the sign is true for a negative
exponent. -/
def scanExponent : List Char → Option (Option (Bool × List Nat) × List Char)
  | c :: cs =>
    if c = 'e' ∨ c = 'E' then do
      let negative := cs.head? = some '-'
      let signed := negative ∨ cs.head? = some '+'
      let (digits, rest) ← someDigits (if signed then cs.tail else cs)
      return (some (negative, digits), rest)
    else
      some (none, c :: cs)
  | [] => some (none, [])

/-- The number a text starts with. -/
def scanNumber (cs : List Char) : Option (NumberForm × List Char) := do
  let negative := cs.head? = some '-'
  let (whole, rest) ← scanWhole (if negative then cs.tail else cs)
  let (fraction, rest) ← scanFraction rest
  let (exponent, rest) ← scanExponent rest
  return (⟨negative, whole, fraction, exponent⟩, rest)

/-- The value of a hexadecimal digit. -/
def hexValue? (c : Char) : Option Nat :=
  if c.isDigit then some (c.toNat - '0'.toNat)
  else if 'a' ≤ c ∧ c ≤ 'f' then some (c.toNat - 'a'.toNat + 10)
  else if 'A' ≤ c ∧ c ≤ 'F' then some (c.toNat - 'A'.toNat + 10)
  else none

/-- A piece of a string: a character, or a UTF-16 unit given by its number. -/
inductive Piece where
  | char (c : Char)
  | unit (u : Nat)
  deriving DecidableEq, Repr

/-- The character a one-letter escape stands for. -/
def unescape? (c : Char) : Option Char :=
  if c = '"' ∨ c = '\\' ∨ c = '/' then some c
  else if c = 'b' then some '\x08'
  else if c = 'f' then some '\x0c'
  else if c = 'n' then some '\n'
  else if c = 'r' then some '\r'
  else if c = 't' then some '\t'
  else none

/-- The pieces of a string up to its closing quote, and the rest of the text. -/
def scanPieces : List Char → Option (List Piece × List Char)
  | [] => none
  | '"' :: cs => some ([], cs)
  | '\\' :: 'u' :: a :: b :: c :: d :: cs => do
    let a ← hexValue? a
    let b ← hexValue? b
    let c ← hexValue? c
    let d ← hexValue? d
    let (pieces, rest) ← scanPieces cs
    return (.unit (a * 4096 + b * 256 + c * 16 + d) :: pieces, rest)
  | '\\' :: e :: cs => do
    let c ← unescape? e
    let (pieces, rest) ← scanPieces cs
    return (.char c :: pieces, rest)
  | c :: cs =>
    if c.toNat < 0x20 ∨ c = '\\' then
      none
    else do
      let (pieces, rest) ← scanPieces cs
      return (.char c :: pieces, rest)

/-- Whether a UTF-16 unit is the first of a surrogate pair. -/
def isLead (u : Nat) : Bool :=
  0xD800 ≤ u && u < 0xDC00

/-- Whether a UTF-16 unit is the second of a surrogate pair. -/
def isTrail (u : Nat) : Bool :=
  0xDC00 ≤ u && u < 0xE000

/-- The characters that the pieces of a string stand for, unless a surrogate stands alone. -/
def joinPieces : List Piece → Option (List Char)
  | [] => some []
  | .char c :: rest => (joinPieces rest).map (c :: ·)
  | .unit u :: .unit v :: rest =>
    if isLead u then
      if isTrail v then
        (joinPieces rest).map (Char.ofNat ((u - 0xD800) * 0x400 + (v - 0xDC00) + 0x10000) :: ·)
      else
        none
    else if isTrail u then
      none
    else
      (joinPieces (.unit v :: rest)).map (Char.ofNat u :: ·)
  | .unit u :: rest =>
    if isLead u || isTrail u then none else (joinPieces rest).map (Char.ofNat u :: ·)

/-- The token a text without leading white space starts with, and the rest of the text. -/
def scanToken : List Char → Option (Token × List Char)
  | [] => none
  | '\x7b' :: cs => some (.openBrace, cs)
  | '\x7d' :: cs => some (.closeBrace, cs)
  | '[' :: cs => some (.openBracket, cs)
  | ']' :: cs => some (.closeBracket, cs)
  | ',' :: cs => some (.comma, cs)
  | ':' :: cs => some (.colon, cs)
  | 'n' :: 'u' :: 'l' :: 'l' :: cs => some (.null, cs)
  | 't' :: 'r' :: 'u' :: 'e' :: cs => some (.bool true, cs)
  | 'f' :: 'a' :: 'l' :: 's' :: 'e' :: cs => some (.bool false, cs)
  | '"' :: cs => do
    let (pieces, rest) ← scanPieces cs
    return (.string ((joinPieces pieces).map String.ofList), rest)
  | cs => do
    let (form, rest) ← scanNumber cs
    return (.number form, rest)

/-- The tokens of a text, at most `fuel` of them. -/
def scanUpTo : (fuel : Nat) → List Char → Option (List Token)
  | 0, cs => if cs.all isBlank then some [] else none
  | fuel + 1, cs =>
    match cs.dropWhile isBlank with
    | [] => some []
    | c :: rest => do
      let (token, rest) ← scanToken (c :: rest)
      let tokens ← scanUpTo fuel rest
      return token :: tokens

/-- The tokens of a text. -/
def scan (cs : List Char) : Option (List Token) :=
  scanUpTo cs.length cs

end DeviceManagement.Json
