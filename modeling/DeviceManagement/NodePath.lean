/-!
# Node paths

A node of the management tree is addressed by the names on the way to it, separated by `/`.
`segments` reads a path as its list of names, `ofSegments` writes such a list, and
`splitFirst` takes off the first name only. A path may start with one `/` more, and
`segments` also allows one more at the end; neither stands for an empty name.
-/

namespace DeviceManagement.NodePath

/-- The separator between the names of a path. -/
def separator : Char := '/'

/-- The given characters without one leading separator. -/
def dropLeading : List Char → List Char
  | [] => []
  | c :: r => if c = separator then r else c :: r

/-- The given characters without one trailing separator. -/
def dropTrailing (cs : List Char) : List Char :=
  if cs.getLast? = some separator then cs.dropLast else cs

/-- The names a path consists of; the empty path and `/` have none. -/
def segments (path : String) : List String :=
  let inner := dropLeading path.toList
  if inner.isEmpty then
    []
  else
    ((dropTrailing inner).splitOn separator).map String.ofList

/-- The first name of a path, and the path below it, which is empty when there is no more. -/
def splitFirst (path : String) : String × String :=
  let inner := dropLeading path.toList
  (String.ofList (inner.takeWhile (· != separator)),
    String.ofList (inner.dropWhile (· != separator)).tail)

/-- The path through the given names. -/
def ofSegments (names : List String) : String :=
  String.ofList ([separator].intercalate (names.map String.toList))

end DeviceManagement.NodePath
