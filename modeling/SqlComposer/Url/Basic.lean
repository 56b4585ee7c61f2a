/-
  SqlComposer.Url.Basic — absolute URLs.

  The text is read without the controls and spaces around it and without any tab or
  line end. It begins with a scheme and a colon. Behind two slashes come user name and
  password up to the last at sign, the host, and the port; then the path, the query
  behind a question mark, and the fragment behind a number sign. Parts are kept percent-
  encoded. The web's own schemes read their hosts as domains, take any number of slashes
  or backslashes before the host, and demand a host.
-/

import SqlComposer.Url.Host
import SqlComposer.Url.Path

namespace SqlComposer

/-- The parts of an absolute URL, percent-encoded. -/
structure Url where
  scheme : String
  username : List Char
  password : Option (List Char)
  host : Option String
  port : Option UInt16
  path : List Char
  query : Option (List Char)
  deriving DecidableEq, Repr

namespace Url

/-! ## Scheme -/

inductive SchemeKind where
  | web
  | file
  | other
  deriving DecidableEq, Repr

def schemeKind (scheme : String) : SchemeKind :=
  if scheme == "file" then .file
  else if ["http", "https", "ws", "wss", "ftp"].contains scheme then .web
  else .other

def SchemeKind.isSlash (kind : SchemeKind) (c : Char) : Bool := c == '/' || (kind != .other && c == '\\')

def isSchemeChar (c : Char) : Bool := c.isAlphanum || c == '+' || c == '-' || c == '.'

/-- The scheme in lower case and what follows its colon. -/
def readScheme (cs : List Char) : Option (String × List Char) :=
  let (name, rest) := cs.span isSchemeChar
  match name.head?, rest with
  | some c, ':' :: rest => if c.isAlpha then some (String.ofList (name.map Char.toLower), rest) else none
  | _, _ => none

/-! ## Authority -/

/-- The characters up to where the path, the query or the fragment begins, and the rest. -/
def splitAuthority (kind : SchemeKind) (cs : List Char) : List Char × List Char :=
  cs.span fun c => !(kind.isSlash c || c == '?' || c == '#')

/-- User name and password; an empty password is none. -/
def readUserinfo (cs : List Char) : List Char × Option (List Char) :=
  let encode := Percent.encode Percent.inUserinfo
  match Chars.splitFirst ':' cs with
  | none => (encode cs, none)
  | some (name, []) => (encode name, none)
  | some (name, password) => (encode name, some (encode password))

/-- The characters of the host: up to the first colon outside brackets. -/
def splitHost (inBrackets : Bool) : List Char → List Char × List Char
  | [] => ([], [])
  | c :: cs =>
    if c == ':' && !inBrackets then ([], c :: cs)
    else
      let (host, rest) := splitHost (if c == '[' then true else if c == ']' then false else inBrackets) cs
      (c :: host, rest)

/-- A port within sixteen bits up to the end of the authority; none when there are no digits. A
    backslash ends it too and is given back. -/
def readPort (port : Nat) (anyDigit : Bool) : List Char → Except Fault (Option UInt16 × List Char)
  | [] => .ok (if anyDigit then some (UInt16.ofNat port) else none, [])
  | c :: cs =>
    if c.isDigit then
      let next := port * 10 + (c.toNat - '0'.toNat)
      if 65535 < next then .error .badPort else readPort next true cs
    else if c == '\\' then .ok (if anyDigit then some (UInt16.ofNat port) else none, c :: cs)
    else .error .badPort

/-- The port a scheme has when none is written. -/
def defaultPort (scheme : String) : Option UInt16 :=
  match scheme with
  | "http" | "ws" => some 80
  | "https" | "wss" => some 443
  | "ftp" => some 21
  | _ => none

/-! ## Path, query and fragment -/

def splitTail (cs : List Char) : List Char × Option (List Char) :=
  let (path, rest) := cs.span fun c => !(c == '?' || c == '#')
  match rest with
  | '?' :: query => (path, some (Percent.encode Percent.inQuery (query.takeWhile (· != '#'))))
  | _ => (path, none)

/-- The path behind an authority; it is empty only where the web's schemes are not concerned. -/
def pathAfter (kind : SchemeKind) (cs : List Char) : List Char :=
  match cs with
  | [] => if kind == .other then [] else ['/']
  | c :: rest => if kind.isSlash c then Path.read kind.isSlash rest else Path.read kind.isSlash (c :: rest)

/-- What follows the two slashes. -/
def readAuthority (scheme : String) (kind : SchemeKind) (cs : List Char) : Except Fault Url := do
  let (authority, rest) := splitAuthority kind cs
  let (userinfo, hostport) := match Chars.splitLast (· == '@') authority with
    | some (userinfo, hostport) => (some userinfo, hostport)
    | none => (none, authority)
  if userinfo == some [] && hostport.isEmpty && !rest.isEmpty then .error .emptyHost
  let (username, password) := readUserinfo (userinfo.getD [])
  let (hostChars, portChars) := splitHost false hostport
  if kind == .web && hostChars.isEmpty then .error .emptyHost
  let host ← if kind == .other then Host.readOpaque hostChars else Host.readDomain hostChars
  let (port, left) ← match portChars with
    | _ :: digits => if host.isEmpty then .error .emptyHost else readPort 0 false digits
    | [] => .ok (none, [])
  if host.isEmpty && (!username.isEmpty || password.isSome) then .error .emptyHost
  let (path, query) := splitTail (left ++ rest)
  return {
    scheme, username, password, query
    host := if host.isEmpty then none else some host
    port := if port == defaultPort scheme then none else port
    path := pathAfter kind path }

/-- What follows the colon of a `file` scheme; only its host can be wrong. -/
def readFile (scheme : String) (cs : List Char) : Except Fault Url := do
  let (rest, host) ← match cs with
    | a :: b :: more =>
      if SchemeKind.file.isSlash a && SchemeKind.file.isSlash b then
        let (host, rest) := splitAuthority .file more
        if host.isEmpty || Path.isDriveLetter host then .ok (more, none)
        else
          let name ← Host.readDomain host
          .ok (rest, if name == "localhost" then none else some name)
      else .ok (cs, none)
    | _ => .ok (cs, none)
  let (path, query) := splitTail rest
  return { scheme, username := [], password := none, host, port := none, path := pathAfter .file path, query }

/-- What follows the colon of a scheme without two slashes behind it. -/
def readPathOnly (scheme : String) (cs : List Char) : Url :=
  let (path, query) := splitTail cs
  let path := match path with
    | '/' :: rest => Path.read (· == '/') rest
    | cs => Percent.encode Percent.isControl cs
  { scheme, username := [], password := none, host := none, port := none, path, query }

/-! ## URLs -/

/-- The text without controls and spaces around it, and without tabs and line ends. -/
def tidy (cs : List Char) : List Char :=
  let outer (c : Char) : Bool := c.toNat ≤ 0x20
  let inner := ((cs.dropWhile outer).reverse.dropWhile outer).reverse
  inner.filter fun c => !(c == '\t' || c == '\n' || c == '\r')

def parse (s : String) : Except Fault Url :=
  match readScheme (tidy s.toList) with
  | none => .error .noBase
  | some (scheme, rest) =>
    match schemeKind scheme, rest with
    | .web, rest => readAuthority scheme .web (rest.dropWhile SchemeKind.web.isSlash)
    | .file, rest => readFile scheme rest
    | .other, '/' :: '/' :: rest => readAuthority scheme .other rest
    | .other, rest => .ok (readPathOnly scheme rest)

end Url

end SqlComposer
