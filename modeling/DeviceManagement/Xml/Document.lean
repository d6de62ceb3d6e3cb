import DeviceManagement.Xml.Tree

/-!
# XML documents

`rootOf?` reads a document as its root element. Before the root may stand a byte order mark,
the declaration of the document, and a document type, of which only the entities matter that
it declares itself. Comments and processing instructions may stand between these parts and
after the root.
-/

namespace DeviceManagement.Xml

open DeviceManagement.Text (afterStart?)

/-- The rest of a text after the white space, comments and processing instructions it starts
with. -/
def afterMisc? : (fuel : Nat) → List Char → Option (List Char)
  | 0, cs => some (cs.dropWhile isBlank)
  | fuel + 1, cs =>
    let rest := cs.dropWhile isBlank
    match afterStart? ['<', '!', '-', '-'] rest with
    | some comment => do
      let rest ← afterComment? comment
      afterMisc? fuel rest
    | none =>
      if (afterStart? ['<', '?'] rest).isSome then do
        let rest ← afterInstruction? rest
        afterMisc? fuel rest
      else
        some rest

/-- The rest of a text after the white space it has to start with. -/
def afterBlanks? (cs : List Char) : Option (List Char) :=
  match cs with
  | [] => none
  | c :: rest => if isBlank c then some (rest.dropWhile isBlank) else none

/-! ### The declaration -/

/-- The rest of a declaration after the white space it starts with, which may be missing only
at its end. -/
def afterGap? (cs : List Char) : Option (List Char) :=
  match cs with
  | [] => some []
  | c :: rest =>
    if isBlank c then some (rest.dropWhile isBlank)
    else if (afterStart? ['?', '>'] cs).isSome then some cs
    else none

/-- The rest of a declaration after an attribute that starts with the given name. -/
def afterAttribute? (name cs : List Char) : Option (List Char) := do
  let _ ← afterStart? name cs
  let (_, rest) ← scanAttribute cs
  return rest

/-- The rest of a document after its declaration, from behind the opening mark. The version
must be given, and the encoding and whether it stands alone may be. -/
def afterDeclaration? (cs : List Char) : Option (List Char) := do
  let cs ← afterGap? cs
  let cs ← afterAttribute? "version".toList cs
  let cs ← afterGap? cs
  let cs ←
    if (afterStart? "encoding".toList cs).isSome then do
      let rest ← afterAttribute? "encoding".toList cs
      afterGap? rest
    else
      some cs
  let cs ←
    if (afterStart? "standalone".toList cs).isSome then
      afterAttribute? "standalone".toList cs
    else
      some cs
  afterStart? ['?', '>'] (cs.dropWhile isBlank)

/-! ### The document type -/

/-- The rest of a text after the reference to an external resource it starts with, if it
starts with one. -/
def afterExternal? (cs : List Char) : Option (Option (List Char)) :=
  match afterStart? "SYSTEM".toList cs with
  | some rest => do
    let rest ← afterBlanks? rest
    let (_, rest) ← scanQuoted rest
    return some rest
  | none =>
    match afterStart? "PUBLIC".toList cs with
    | some rest => do
      let rest ← afterBlanks? rest
      let (_, rest) ← scanQuoted rest
      let rest ← afterBlanks? rest
      let (_, rest) ← scanQuoted rest
      return some rest
    | none => some none

/-- The rest of a text after the notation of an external entity, if it has one. -/
def afterNotation? (cs : List Char) : Option (List Char) :=
  match afterStart? "NDATA".toList (cs.dropWhile isBlank) with
  | some rest => do
    let rest ← afterBlanks? rest
    let (_, rest) ← scanName rest
    return rest
  | none => some (cs.dropWhile isBlank)

/-- The text of an entity, if it is given in the declaration itself, and the rest of the
text. -/
def scanDefinition (general : Bool) (cs : List Char) : Option (Option (List Char) × List Char) :=
  match scanQuoted cs with
  | some (text, rest) => some (some text, rest)
  | none =>
    match afterExternal? cs with
    | some (some rest) =>
      if general then (afterNotation? rest).map fun rest => (none, rest) else some (none, rest)
    | _ => none

/-- The entity that a text declares, from behind the opening mark, if its text is given, and
the rest of the text. -/
def scanEntity (cs : List Char) : Option (Entities × List Char) := do
  let cs ← afterBlanks? cs
  let (general, cs) ←
    match afterStart? ['%'] cs with
    | some rest => (afterBlanks? rest).map fun rest => (false, rest)
    | none => some (true, cs)
  let (name, cs) ← scanName cs
  let cs ← afterBlanks? cs
  let (text, cs) ← scanDefinition general cs
  let rest ← afterStart? ['>'] (cs.dropWhile isBlank)
  return ((text.map fun text => (name, text)).toList, rest)

/-- The marks of the declarations that are passed over. -/
def passedOver : List (List Char) :=
  ["<!ELEMENT".toList, "<!ATTLIST".toList, "<!NOTATION".toList]

/-- The entities that a document type declares between its brackets, and the rest of the
document after it. -/
def scanSubset : (fuel : Nat) → List Char → Option (Entities × List Char)
  | 0, _ => none
  | fuel + 1, cs =>
    let cs := cs.dropWhile isBlank
    if let some rest := afterStart? "<!ENTITY".toList cs then do
      let (entity, rest) ← scanEntity rest
      let (entities, rest) ← scanSubset fuel rest
      return (entity ++ entities, rest)
    else if let some rest := afterStart? "<!--".toList cs then do
      let rest ← afterComment? rest
      scanSubset fuel rest
    else if (afterStart? "<?".toList cs).isSome then do
      let rest ← afterInstruction? cs
      scanSubset fuel rest
    else if let some rest := afterStart? [']'] cs then do
      let rest ← afterStart? ['>'] (rest.dropWhile isBlank)
      return ([], rest)
    else if passedOver.any fun mark => (afterStart? mark cs).isSome then
      match cs.dropWhile (· != '>') with
      | [] => none
      | _ :: rest => scanSubset fuel rest
    else
      none

/-- The entities that a document type declares, from behind its opening mark, and the rest of
the document after it. -/
def scanDoctype (cs : List Char) : Option (Entities × List Char) := do
  let cs ← afterBlanks? cs
  let (_, cs) ← scanName cs
  let cs := cs.dropWhile isBlank
  let external ← afterExternal? cs
  let cs := (external.getD cs).dropWhile isBlank
  match cs with
  | '[' :: rest => scanSubset (rest.length + 1) rest
  | '>' :: rest => some ([], rest)
  | _ => none

/-! ### Documents -/

/-- What follows the byte order mark and the declaration of a document, if it has them. -/
def afterHead? (cs : List Char) : Option (List Char) :=
  let cs := (afterStart? ['\uFEFF'] cs).getD cs
  match afterStart? ['<', '?', 'x', 'm', 'l'] cs with
  | some (' ' :: rest) => afterDeclaration? (' ' :: rest)
  | _ => some cs

/-- The entities that the document type of a document declares, if there is one, and what
follows it. -/
def scanProlog (cs : List Char) : Option (Entities × List Char) :=
  match afterStart? "<!DOCTYPE".toList cs with
  | some rest => do
    let (entities, rest) ← scanDoctype rest
    let rest ← afterMisc? rest.length rest
    return (entities, rest)
  | none => some ([], cs)

/-- The root element of a document given by its characters. -/
def rootOfChars? (cs : List Char) : Option Node := do
  let cs ← afterHead? cs
  let cs ← afterMisc? cs.length cs
  let (entities, cs) ← scanProlog cs
  let (tokens, rest) ← scanElement cs
  let rest ← afterMisc? rest.length rest
  let nodes ← nodesOf? entities tokens
  if rest.isEmpty then nodes.find? Node.isElement else none

/-- The root element of a document, if the document is well formed. -/
def rootOf? (document : String) : Option Node :=
  rootOfChars? document.toList

end DeviceManagement.Xml
