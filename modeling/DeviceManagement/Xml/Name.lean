/-!
# XML characters and names

The characters an XML text may hold, and the names of elements and attributes. A name has at
most one colon; the part before it is the qualifier, which stands for a namespace.
-/

namespace DeviceManagement.Xml

/-- The white space of XML. -/
def isBlank (c : Char) : Bool :=
  c == ' ' || c == '\t' || c == '\n' || c == '\r'

/-- The characters an XML text may hold. -/
def isAllowed (c : Char) : Bool :=
  if c.toNat < 0x20 then isBlank c else c.toNat != 0xFFFE && c.toNat != 0xFFFF

/-- Whether a character lies in one of some ranges, given by their ends. -/
def inRanges (ranges : List (Nat × Nat)) (c : Char) : Bool :=
  ranges.any fun (low, high) => low ≤ c.toNat && c.toNat ≤ high

/-- The ranges of the characters beyond ASCII that a name may start with. -/
def startRanges : List (Nat × Nat) :=
  [(0xC0, 0xD6), (0xD8, 0xF6), (0xF8, 0x2FF), (0x370, 0x37D), (0x37F, 0x1FFF), (0x200C, 0x200D),
    (0x2070, 0x218F), (0x2C00, 0x2FEF), (0x3001, 0xD7FF), (0xF900, 0xFDCF), (0xFDF0, 0xFFFD),
    (0x10000, 0xEFFFF)]

/-- The ranges of the further characters beyond ASCII that a name may go on with. -/
def continueRanges : List (Nat × Nat) :=
  [(0xB7, 0xB7), (0x300, 0x36F), (0x203F, 0x2040)]

/-- The characters a name may start with. -/
def isNameStart (c : Char) : Bool :=
  c.isAlpha || c == ':' || c == '_' || inRanges startRanges c

/-- The characters a name may go on with. -/
def isNameChar (c : Char) : Bool :=
  isNameStart c || c.isDigit || c == '-' || c == '.' || inRanges continueRanges c

/-- The name a text starts with, and the rest of the text. -/
def scanName : List Char → Option (List Char × List Char)
  | [] => none
  | c :: cs =>
    if isNameStart c then
      some (c :: cs.takeWhile isNameChar, cs.dropWhile isNameChar)
    else
      none

/-- A name in two parts; the qualifier is empty if the name has no colon. -/
structure QName where
  qualifier : List Char
  localName : List Char
  deriving DecidableEq, Repr

/-- Whether a list of characters is empty or starts like a name. -/
def startsName (cs : List Char) : Bool :=
  (cs.head?.map isNameStart).getD true

/-- The name in two parts that a text starts with, and the rest of the text. -/
def scanQName (cs : List Char) : Option (QName × List Char) :=
  let rest := cs.dropWhile isNameChar
  match (cs.takeWhile isNameChar).splitOn ':' with
  | [localName] =>
    if localName ≠ [] ∧ startsName localName then some (⟨[], localName⟩, rest) else none
  | [qualifier, localName] =>
    if localName ≠ [] ∧ startsName localName ∧ startsName qualifier then
      some (⟨qualifier, localName⟩, rest)
    else
      none
  | _ => none

end DeviceManagement.Xml
