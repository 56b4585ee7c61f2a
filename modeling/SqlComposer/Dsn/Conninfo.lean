/-
  SqlComposer.Dsn.Conninfo — data source names as `key=value` entries between blanks.

  A value is quoted when it is empty or holds white space, a single quote or a
  backslash; inside the quotes the last two stand behind a backslash. Reading takes a
  backslash inside quotes away from whatever character it stands before.
-/

import SqlComposer.Dsn.Basic

namespace SqlComposer

namespace Conninfo

/-! ## Writing -/

def needsQuotes (cs : List Char) : Bool :=
  cs.isEmpty || cs.any fun c => isBlank c || c == '\'' || c == '\\'

def escape (c : Char) : List Char := if c == '\'' || c == '\\' then ['\\', c] else [c]

def value (cs : List Char) : List Char :=
  if needsQuotes cs then '\'' :: cs.flatMap escape ++ ['\''] else cs

def entry (key v : String) : String := key ++ "=" ++ String.ofList (value v.toList)

/-! ## Reading -/

/-- The value inside quotes, behind the opening one, and what follows the closing one. -/
def readQuoted : List Char → Option (List Char × List Char)
  | [] | ['\\'] => none
  | '\\' :: c :: cs => (readQuoted cs).map fun (v, rest) => (c :: v, rest)
  | c :: cs => if c == '\'' then some ([], cs) else (readQuoted cs).map fun (v, rest) => (c :: v, rest)

/-- One entry at the front, which is not blank, and what follows it. -/
def readEntry (cs : List Char) : Except ConfigFault ((String × String) × List Char) :=
  let (key, rest) := cs.span fun c => !(c == '=' || isBlank c)
  let key := String.ofList key
  match rest with
  | '=' :: '\'' :: rest =>
    match readQuoted rest with
    | some (v, rest) => .ok ((key, String.ofList v), rest)
    | none => .error (.unterminatedValue key)
  | '=' :: rest =>
    let (v, rest) := Chars.takeWord rest
    .ok ((key, String.ofList v), rest)
  | _ => .error (.malformedEntry key)

/-- The entries of `cs`, at most `fuel` of them. -/
def readEntries : Nat → List Char → Except ConfigFault (List (String × String))
  | 0, _ => .ok []
  | fuel + 1, cs =>
    match Chars.trimStart cs with
    | [] => .ok []
    | c :: cs => do
      let (pair, rest) ← readEntry (c :: cs)
      let pairs ← readEntries fuel rest
      return pair :: pairs

/-- The pairs of key and value in `cs`; there are no more than characters. -/
def pairs (cs : List Char) : Except ConfigFault (List (String × String)) := readEntries cs.length cs

end Conninfo

/-- Host, port, database, user, password and options, those of them that are there. -/
def Dsn.conninfo (d : Dsn) : String :=
  Text.join " " ([Conninfo.entry "host" d.server] ++
    (d.port.map fun p => "port=" ++ toString p.toNat).toList ++
    [Conninfo.entry "dbname" d.database, Conninfo.entry "user" d.username, Conninfo.entry "password" d.password] ++
    (d.options.map (Conninfo.entry "options")).toList)

end SqlComposer
