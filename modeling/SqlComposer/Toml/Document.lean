/-
  SqlComposer.Toml.Document — TOML documents.

  A document is lines of keys with values, under headers that name a table or begin an
  element of an array of tables. Dates and times are not read. Values nest at most as
  deep as the document is long, and there are no more lines than characters, so its
  length is the fuel.
-/

import SqlComposer.Toml.Lexeme
import SqlComposer.Toml.Value

namespace SqlComposer.Toml

/-! ## Values -/

/-- The characters of a number or a word. -/
def isTokenChar (c : Char) : Bool := c.isAlphanum || c == '+' || c == '-' || c == '_' || c == '.' || c == ':'

def readToken (cs : List Char) : Option (Toml × List Char) := do
  let (token, rest) := cs.span isTokenChar
  let v ←
    if token == "true".toList then some (Toml.bool true)
    else if token == "false".toList then some (Toml.bool false)
    else
      match readInteger token with
      | some n => some (.integer n)
      | none => (readFloat token).map .float
  return (v, rest)

mutual

def readValue : Nat → List Char → Option (Toml × List Char)
  | 0, _ => none
  | fuel + 1, cs =>
    match cs with
    | '"' :: _ | '\'' :: _ => (readString cs).map fun (s, rest) => (.string (String.ofList s), rest)
    | '[' :: rest => (readItems fuel rest).map fun (items, rest) => (.array items, rest)
    | '\x7b' :: rest => (readMembers fuel [] rest).map fun (ms, rest) => (.table .inline ms, rest)
    | _ => readToken cs

/-- Items up to the closing bracket; a comma may stand behind the last one. -/
def readItems : Nat → List Char → Option (List Toml × List Char)
  | 0, _ => none
  | fuel + 1, cs => do
    let cs ← skipLines (fuel + 1) cs
    match cs with
    | ']' :: rest => return ([], rest)
    | cs =>
      let (item, rest) ← readValue fuel cs
      let rest ← skipLines (fuel + 1) rest
      match rest with
      | ']' :: rest => return ([item], rest)
      | ',' :: rest =>
        let (items, rest) ← readItems fuel rest
        return (item :: items, rest)
      | _ => none

/-- Members up to the closing brace, behind those read already; a comma may stand behind the last
    one, and line ends and comments around every equals sign. -/
def readMembers : Nat → Members → List Char → Option (Members × List Char)
  | 0, _, _ => none
  | fuel + 1, done, cs => do
    let cs ← skipLines (fuel + 1) cs
    match cs with
    | '\x7d' :: rest => return (done, rest)
    | cs =>
      let (path, rest) ← readKey (fuel + 1) cs
      match ← skipLines (fuel + 1) rest with
      | '=' :: rest =>
        let (v, rest) ← readValue fuel (← skipLines (fuel + 1) rest)
        let ms ← addAt path v done
        let rest ← skipLines (fuel + 1) rest
        match rest with
        | '\x7d' :: rest => return (ms, rest)
        | ',' :: rest => readMembers fuel ms rest
        | _ => none
      | _ => none

end

/-! ## Lines -/

/-- The table the next keys belong to, and everything read so far. -/
structure Draft where
  current : List String
  root : Members

/-- What follows spaces, a comment and the end of the line. -/
def endOfLine (cs : List Char) : Option (List Char) := do
  let rest ← skipComment (skipSpaces cs)
  if rest.isEmpty then some [] else lineEnd? rest

/-- One line that is not blank: a header or a key with its value. -/
def readLine (d : Draft) (cs : List Char) : Option (Draft × List Char) :=
  let fuel := cs.length + 1
  match cs with
  | '[' :: '[' :: rest => do
    let (path, rest) ← readKey fuel rest
    let key ← path.getLast?
    match rest with
    | ']' :: ']' :: rest =>
      let root ← enter false (openElement key) path.dropLast d.root
      return (⟨path, root⟩, ← endOfLine rest)
    | _ => none
  | '[' :: rest => do
    let (path, rest) ← readKey fuel rest
    let key ← path.getLast?
    match rest with
    | ']' :: rest =>
      let root ← enter false (openTable key) path.dropLast d.root
      return (⟨path, root⟩, ← endOfLine rest)
    | _ => none
  | cs => do
    let (path, rest) ← readKey fuel cs
    match rest with
    | '=' :: rest =>
      let (v, rest) ← readValue fuel (skipSpaces rest)
      let root ← enter false (addAt path v) d.current d.root
      return ({ d with root }, ← endOfLine rest)
    | _ => none

def readLines : Nat → Draft → List Char → Option Members
  | 0, _, _ => none
  | fuel + 1, d, cs => do
    let cs ← skipLines (fuel + 1) cs
    if cs.isEmpty then return d.root
    else
      let (d, rest) ← readLine d cs
      readLines fuel d rest

/-- The members of the root table of a document; none when it is malformed. -/
def parse (s : String) : Option Members :=
  let cs := match s.toList with
    | '\ufeff' :: rest => rest
    | cs => cs
  readLines (cs.length + 1) ⟨[], []⟩ cs

end SqlComposer.Toml
