/-
  SqlComposer.Dsn.Basic — data source names: where a database is and who asks for it.

  Keys come in several spellings, in any letter case. A list of pairs is a data source
  name when every key is known, none is given twice under any of its spellings, and
  database, server, user and password are there and not blank. Of several faults the
  first in the order of the pairs counts, then database, server, user, password, port.
-/

import SqlComposer.Error.Config
import SqlComposer.Number.Integer
import SqlComposer.Text.Blank
import SqlComposer.Text.Quoted

namespace SqlComposer

structure Dsn where
  server : String
  port : Option UInt16
  database : String
  username : String
  password : String
  /-- Startup options, which only Postgres has. -/
  options : Option String
  deriving DecidableEq, Repr

/-! ## Keys -/

inductive DsnKey where
  | server
  | database
  | username
  | password
  | port
  | options
  deriving DecidableEq, Repr

namespace DsnKey

/-- The name a key has in faults. -/
def name : DsnKey → String
  | .server => "server"
  | .database => "dbname"
  | .username => "username"
  | .password => "password"
  | .port => "port"
  | .options => "options"

def ofText (s : String) : Option DsnKey :=
  let word := Text.lower (Text.trim s)
  if word == "host" || word == "server" then some .server
  else if word == "dbname" || word == "database" then some .database
  else if word == "user" || word == "username" then some .username
  else if word == "password" then some .password
  else if word == "port" then some .port
  else if word == "options" then some .options
  else none

end DsnKey

namespace Dsn

/-! ## Pairs -/

/-- The value of a key. -/
def value? (fields : List (DsnKey × String)) (k : DsnKey) : Option String :=
  (fields.find? fun (key, _) => key == k).map (·.2)

/-- The pairs under their keys, behind those read already. -/
def fieldsOf (done : List (DsnKey × String)) : List (String × String) → Except ConfigFault (List (DsnKey × String))
  | [] => .ok done
  | (key, value) :: rest =>
    match DsnKey.ofText key with
    | none => .error (.unknownKey key)
    | some k =>
      if (value? done k).isSome then .error (.duplicateKey k.name)
      else fieldsOf (done ++ [(k, value)]) rest

/-- A value that must be there and not be blank. -/
def required (fields : List (DsnKey × String)) (k : DsnKey) (fault : ConfigFault) : Except ConfigFault String :=
  match value? fields k with
  | some v => if Text.isBlank v then .error fault else .ok v
  | none => .error fault

def readPort (s : String) : Except ConfigFault UInt16 :=
  match Integer.read (.unsigned 16) (Text.trim s) with
  | .ok n => .ok (UInt16.ofNat n.toNat)
  | .error _ => .error (.badPort s)

def ofFields (fields : List (DsnKey × String)) : Except ConfigFault Dsn := do
  let database ← required fields .database .noDatabase
  let server ← required fields .server .noServer
  let username ← required fields .username .noUser
  let password ← required fields .password .noPassword
  let port ← match value? fields .port with
    | some p => (readPort p).map some
    | none => .ok none
  return {
    server := Text.trim server
    port, database, username, password
    options := (value? fields .options).filter (!Text.isBlank ·) }

def ofPairs (pairs : List (String × String)) : Except ConfigFault Dsn := do
  let fields ← fieldsOf [] pairs
  ofFields fields

/-! ## Engines -/

/-- Postgres must be given its port; only Postgres takes options. -/
def validate (d : Dsn) : Engine → Except ConfigFault Unit
  | .postgres => if d.port.isNone then .error .portExpected else .ok ()
  | .mysql => if d.options.isSome then .error .optionsNotAllowed else .ok ()

/-! ## Inspection -/

/-- A value that may be missing. -/
def optionText : Option String → String
  | some s => "Some(" ++ s ++ ")"
  | none => "None"

/-- All fields by name, without the password. -/
def inspect (d : Dsn) : String :=
  "Dsn \x7b server: " ++ Text.quoted d.server ++
    ", port: " ++ optionText (d.port.map fun p => toString p.toNat) ++
    ", dbname: " ++ Text.quoted d.database ++
    ", username: " ++ Text.quoted d.username ++
    ", password: " ++ Text.quoted "<redacted>" ++
    ", options: " ++ optionText (d.options.map Text.quoted) ++ " \x7d"

end Dsn

end SqlComposer
