import DeviceManagement.Xml.Name

/-!
# References

Character data with references. `pieces?` reads it as its pieces: characters written as they
are, characters written by number or by one of the five predefined names, and names of
entities that the document declares.
-/

namespace DeviceManagement.Xml

/-- A piece of character data. -/
inductive Piece where
  | plain (c : Char)
  | char (c : Char)
  | entity (name : List Char)
  deriving DecidableEq, Repr

/-- The value of a digit to a base up to 16. -/
def digit? (base : Nat) (c : Char) : Option Nat :=
  let value :=
    if c.isDigit then c.toNat - '0'.toNat
    else if 'a' ≤ c ∧ c ≤ 'f' then c.toNat - 'a'.toNat + 10
    else if 'A' ≤ c ∧ c ≤ 'F' then c.toNat - 'A'.toNat + 10
    else base
  if value < base then some value else none

/-- The character with the given number, which is the replacement character if there is
none. -/
def charOfNumber (n : Nat) : Char :=
  if n.isValidChar then Char.ofNat n else '\uFFFD'

/-- The character that the digits of a reference to some base stand for. A number has at most
32 bits, and its character must be allowed. -/
def charOfDigits? (base : Nat) (digits : List Char) : Option Char := do
  let values ← digits.mapM (digit? base)
  let n := values.foldl (fun n value => n * base + value) 0
  let c := charOfNumber n
  if values ≠ [] ∧ n < UInt32.size ∧ isAllowed c then some c else none

/-- The characters with a predefined name. -/
def predefined : List (List Char × Char) :=
  [("quot".toList, '"'), ("amp".toList, '&'), ("apos".toList, '\''), ("lt".toList, '<'),
    ("gt".toList, '>')]

/-- The piece that the text between the signs of a reference stands for. -/
def pieceOf? : List Char → Option Piece
  | '#' :: 'x' :: digits => (charOfDigits? 16 digits).map .char
  | '#' :: digits => (charOfDigits? 10 digits).map .char
  | cs =>
    match scanName cs with
    | some (name, []) =>
      match predefined.lookup name with
      | some c => some (.char c)
      | none => some (.entity name)
    | _ => none

/-- The pieces of some character data, at most `fuel` of them. -/
def piecesUpTo? : (fuel : Nat) → List Char → Option (List Piece)
  | _, [] => some []
  | 0, _ :: _ => none
  | fuel + 1, '&' :: cs =>
    match cs.dropWhile (· != ';') with
    | [] => none
    | _ :: rest => do
      let piece ← pieceOf? (cs.takeWhile (· != ';'))
      let pieces ← piecesUpTo? fuel rest
      return piece :: pieces
  | fuel + 1, c :: cs => do
    let pieces ← piecesUpTo? fuel cs
    return .plain c :: pieces

/-- The pieces of some character data. -/
def pieces? (cs : List Char) : Option (List Piece) :=
  piecesUpTo? cs.length cs

end DeviceManagement.Xml
