import DeviceManagement.Text.Cut
import DeviceManagement.Xml.Name

/-!
# XML tokens

The tokens of the content of an element: tags, character data, and asides, which are the
comments and processing instructions. `scanContent` reads content up to the closing tag of
the element it belongs to.

A text may end inside an opening tag, right behind its name or the value of an attribute.
Such a tag is a token like the others, and opens no element.
-/

namespace DeviceManagement.Xml

open DeviceManagement.Text (afterStart? cutAt)

/-- An attribute with the text between its quotes. -/
structure Attribute where
  name : QName
  text : List Char
  deriving DecidableEq, Repr

/-- What comes at the end of an opening tag: the content of its element, nothing as the
element is empty, or the end of the text, with the end of the tag missing. -/
inductive TagEnd where
  | content
  | empty
  | missing
  deriving DecidableEq, Repr

/-- The tokens of the content of an element. -/
inductive Token where
  | text (cs : List Char)
  | cdata (cs : List Char)
  | aside
  | openTag (name : QName) (attributes : List Attribute) (tagEnd : TagEnd)
  | closeTag (name : QName)
  deriving DecidableEq, Repr

/-! ### Pieces of markup -/

/-- The text up to the sequence `mark`, and the text behind it. -/
def scanUntil (mark cs : List Char) : Option (List Char × List Char) :=
  match cutAt mark cs with
  | some (text, rest) => if text.all isAllowed then some (text, rest) else none
  | none => none

/-- The text between quotes of either kind that a text starts with. -/
def scanQuoted : List Char → Option (List Char × List Char)
  | [] => none
  | quote :: cs =>
    if quote = '"' ∨ quote = '\'' then cutAt [quote] cs else none

/-- The rest of a text after the equals sign it starts with and the white space around it. -/
def afterEquals? (cs : List Char) : Option (List Char) :=
  match cs.dropWhile isBlank with
  | '=' :: rest => some (rest.dropWhile isBlank)
  | _ => none

/-- The attribute a text starts with. -/
def scanAttribute (cs : List Char) : Option (Attribute × List Char) := do
  let (name, rest) ← scanQName cs
  let rest ← afterEquals? rest
  let (text, rest) ← scanQuoted rest
  if text.all fun c => isAllowed c && c != '<' then
    return (⟨name, text⟩, rest)
  else
    none

/-- The rest of a text after the comment it starts with, from behind its opening mark. -/
def afterComment? (cs : List Char) : Option (List Char) := do
  let (text, rest) ← scanUntil ['-', '-', '>'] cs
  if (cutAt ['-', '-'] text).isSome ∨ text.getLast? = some '-' then none else some rest

/-- The rest of a text after the processing instruction it starts with. The mark of the
declaration of a document may not start one. -/
def afterInstruction? (cs : List Char) : Option (List Char) := do
  if (afterStart? ['<', '?', 'x', 'm', 'l', ' '] cs).isSome then
    none
  else
    let rest ← afterStart? ['<', '?'] cs
    let (_, rest) ← scanName rest
    let (_, rest) ← scanUntil ['?', '>'] (rest.dropWhile isBlank)
    return rest

/-- The attributes up to the end of a tag, at most `fuel` of them, with that end and the rest
of the text. White space goes before each attribute. The end is missing if the text stops
right there, without white space. -/
def scanAttributes : (fuel : Nat) → List Char → Option (List Attribute × TagEnd × List Char)
  | 0, _ => none
  | _ + 1, [] => some ([], .missing, [])
  | fuel + 1, c :: cs =>
    match (c :: cs).dropWhile isBlank with
    | '/' :: '>' :: rest => some ([], .empty, rest)
    | '>' :: rest => some ([], .content, rest)
    | next =>
      if isBlank c then do
        let (first, rest) ← scanAttribute next
        let (others, tagEnd, rest) ← scanAttributes fuel rest
        return (first :: others, tagEnd, rest)
      else
        none

/-- The opening tag a text starts with, from behind its angle bracket. -/
def scanOpenTag (cs : List Char) : Option (Token × List Char) := do
  let (name, rest) ← scanQName cs
  let (attributes, tagEnd, rest) ← scanAttributes (cs.length + 1) rest
  return (.openTag name attributes tagEnd, rest)

/-- The closing tag a text starts with, from behind its slash. -/
def scanCloseTag (cs : List Char) : Option (Token × List Char) := do
  let (name, rest) ← scanQName cs
  let rest ← afterStart? ['>'] (rest.dropWhile isBlank)
  return (.closeTag name, rest)

/-- The character data a text starts with. -/
def scanText (cs : List Char) : Option (Token × List Char) :=
  let text := cs.takeWhile (· != '<')
  if text.all isAllowed ∧ (cutAt [']', ']', '>'] text).isNone then
    some (.text text, cs.dropWhile (· != '<'))
  else
    none

/-- The token a text starts with. -/
def scanToken : List Char → Option (Token × List Char)
  | '<' :: '!' :: '-' :: '-' :: cs => do
    let rest ← afterComment? cs
    return (.aside, rest)
  | '<' :: '!' :: cs => do
    let rest ← afterStart? ['[', 'C', 'D', 'A', 'T', 'A', '['] cs
    let (text, rest) ← scanUntil [']', ']', '>'] rest
    return (.cdata text, rest)
  | '<' :: '?' :: cs => do
    let rest ← afterInstruction? ('<' :: '?' :: cs)
    return (.aside, rest)
  | '<' :: '/' :: cs => scanCloseTag cs
  | '<' :: cs => scanOpenTag cs
  | cs => scanText cs

/-! ### Content -/

/-- The tokens of the content of an element in which `level` elements are open, with the tag
that closes the element, and the rest of the text. Content may end with the text. -/
def scanLevels : (fuel level : Nat) → List Char → Option (List Token × List Char)
  | _, _, [] => some ([], [])
  | 0, _, _ :: _ => none
  | fuel + 1, level, c :: cs => do
    let (token, rest) ← scanToken (c :: cs)
    match token, level with
    | .closeTag _, 0 => return ([token], rest)
    | .closeTag _, level + 1 =>
      let (tokens, rest) ← scanLevels fuel level rest
      return (token :: tokens, rest)
    | .openTag _ _ .content, level =>
      let (tokens, rest) ← scanLevels fuel (level + 1) rest
      return (token :: tokens, rest)
    | _, level =>
      let (tokens, rest) ← scanLevels fuel level rest
      return (token :: tokens, rest)

/-- The tokens of the content of an element, with the tag that closes it, and the rest of the
text. -/
def scanContent (cs : List Char) : Option (List Token × List Char) :=
  scanLevels cs.length 0 cs

/-- The tokens of the element a text starts with, and the rest of the text. -/
def scanElement : List Char → Option (List Token × List Char)
  | '<' :: cs => do
    let (token, rest) ← scanOpenTag cs
    match token with
    | .openTag _ _ .content =>
      let (tokens, rest) ← scanContent rest
      return (token :: tokens, rest)
    | _ => return ([token], rest)
  | _ => none

end DeviceManagement.Xml
