import DeviceManagement.Fault
import DeviceManagement.Text.Cut
import DeviceManagement.Text.Unsigned

/-!
# Server addresses

An address has the form `scheme://[userinfo@]host[:port][/path][?query]`. The scheme is
`http` or `https` in any case, the port is 8080 and the path `/` if none is given, and an
IPv6 host is kept in its brackets. `parse` reads an address; `display` writes it without the
userinfo, so that it can be logged, and `requestUrl` with it, as it is requested.
-/

namespace DeviceManagement

/-- The protocol an address is requested by. -/
inductive Scheme where
  | http
  | https
  deriving DecidableEq, Repr

namespace Scheme

/-- The name of a scheme, in lower case. -/
def name : Scheme → String
  | http => "http"
  | https => "https"

/-- The scheme with the given name, in any case. -/
def ofName? (name : List Char) : Option Scheme :=
  let lower := name.map Char.toLower
  if lower = http.name.toList then
    some http
  else if lower = https.name.toList then
    some https
  else
    none

end Scheme

/-- The address of a resource on a server. -/
structure Address where
  scheme : Scheme
  /-- The part before the last `@`, sent with the request but never shown. -/
  userinfo : Option String
  /-- A name, or an address, which is kept in brackets if it was given in brackets. -/
  host : String
  port : UInt16
  /-- The path with the query, starting with `/`. -/
  path : String
  deriving DecidableEq, Repr

namespace Address

/-- Why a text is no address. -/
inductive ParseFault where
  | missingScheme
  | unsupportedScheme (name : String)
  | unterminatedBracket
  | strayAfterBracket (text : String)
  | invalidPort (text : String) (fault : Text.UnsignedFault)
  | missingHost
  deriving DecidableEq, Repr

/-- The wording of a fault. -/
def ParseFault.message : ParseFault → String
  | missingScheme => "missing scheme"
  | unsupportedScheme name => "unsupported scheme " ++ name
  | unterminatedBracket => "unterminated IPv6 address"
  | strayAfterBracket text => "unexpected " ++ text ++ " after IPv6 address"
  | invalidPort text fault => "invalid port " ++ text ++ ": " ++ fault.message
  | missingHost => "missing host"

/-- The port of an address that gives none. -/
def defaultPort : UInt16 := 8080

/-- The part of an address after the scheme ends where the path or the query starts. -/
def endsAuthority (c : Char) : Bool :=
  c == '/' || c == '?'

/-- The path of an address that goes on with `rest` after its authority. -/
def pathOf : (rest : List Char) → List Char
  | [] => ['/']
  | c :: r => if c = '/' then c :: r else '/' :: c :: r

/-- The userinfo of an authority, up to its last `@`, and the rest of the authority. -/
def splitUserinfo (authority : List Char) : Option (List Char) × List Char :=
  match Text.cutLast '@' authority with
  | some (userinfo, server) => (some userinfo, server)
  | none => (none, authority)

/-- The host of a server and the text of its port, if it has one. A host in brackets ends
with the first closing bracket, any other host before the last colon. -/
def splitPort (server : List Char) : Except ParseFault (List Char × Option (List Char)) :=
  if server.head? = some '[' then
    match server.dropWhile (· != ']') with
    | [] => .error .unterminatedBracket
    | bracket :: after =>
      let host := server.takeWhile (· != ']') ++ [bracket]
      match after with
      | [] => .ok (host, none)
      | c :: port =>
        if c = ':' then
          .ok (host, some port)
        else
          .error (.strayAfterBracket (String.ofList after))
  else
    match Text.cutLast ':' server with
    | some (host, port) => .ok (host, some port)
    | none => .ok (server, none)

/-- The port that the text after the host stands for. -/
def readPort : Option (List Char) → Except ParseFault UInt16
  | none => .ok defaultPort
  | some text =>
    match Text.readUnsigned (UInt16.size - 1) text with
    | .ok port => .ok (UInt16.ofNat port)
    | .error fault => .error (.invalidPort (String.ofList text) fault)

/-- A host must be more than an empty name or an empty pair of brackets. -/
def isMissingHost (host : List Char) : Bool :=
  host == [] || host == ['[', ']']

/-- The address a text stands for, or why it stands for none. -/
def parseChars (url : List Char) : Except ParseFault Address := do
  let some (schemeName, afterScheme) := Text.cutAt [':', '/', '/'] url
    | throw .missingScheme
  let some scheme := Scheme.ofName? schemeName
    | throw (.unsupportedScheme (String.ofList schemeName))
  let authority := afterScheme.takeWhile (!endsAuthority ·)
  let path := pathOf (afterScheme.dropWhile (!endsAuthority ·))
  let (userinfo, server) := splitUserinfo authority
  let (host, portText) ← splitPort server
  let port ← readPort portText
  if isMissingHost host then
    throw .missingHost
  return {
    scheme := scheme
    userinfo := userinfo.map String.ofList
    host := String.ofList host
    port := port
    path := String.ofList path
  }

/-- The address a text stands for; a fault names the whole text. -/
def parse (url : String) : Except Fault Address :=
  match parseChars url.toList with
  | .ok address => .ok address
  | .error fault => .error (.address (url ++ ": " ++ fault.message))

/-- An address as it is shown: with its port, and without its userinfo. -/
def display (a : Address) : String :=
  a.scheme.name ++ "://" ++ a.host ++ ":" ++ a.port.toNat.repr ++ a.path

/-- An address as it is requested, with its userinfo. -/
def requestUrl (a : Address) : String :=
  match a.userinfo with
  | some userinfo =>
    a.scheme.name ++ "://" ++ userinfo ++ "@" ++ a.host ++ ":" ++ a.port.toNat.repr ++ a.path
  | none => a.display

end Address

end DeviceManagement
