/-
  SqlComposer.Settings.Basic — which connections to open, which of them to begin with,
  and how to report statements.

  Settings are valid when there is a connection, every data source name fits its
  engine, no two connections have engine and server in common, the default is one of
  them, the prefix of table names is not blank, and the log level exists.
-/

import SqlComposer.Dsn.Source
import SqlComposer.Settings.Environment
import SqlComposer.Trace

namespace SqlComposer

/-- A value in the table form of a data source name. -/
inductive DsnEntry where
  | text (s : String)
  | integer (n : Int)
  deriving DecidableEq, Repr

def DsnEntry.spell : DsnEntry → String
  | .text s => s
  | .integer n => toString n

/-- A data source name as it is configured: a text, or a table in the order of its keys. -/
inductive DsnSource where
  | text (s : String)
  | table (entries : List (String × DsnEntry))
  deriving DecidableEq, Repr

def DsnSource.dsn : DsnSource → Except ConfigFault Dsn
  | .text s => Dsn.parse s
  | .table entries => Dsn.ofPairs (entries.map fun (k, v) => (k, v.spell))

structure ConnectionSettings where
  engine : Engine
  source : DsnSource
  deriving DecidableEq, Repr

/-- The connection to begin with; without a server, the first one of the engine. -/
structure DefaultConnection where
  engine : Engine
  server : Option String
  deriving DecidableEq, Repr

structure LogSettings where
  level : Option String := none
  /-- The most characters of a statement to show; all of them for zero. -/
  limit : Option Nat := none
  deriving DecidableEq, Repr

structure Settings where
  connections : List ConnectionSettings
  preferred : Option DefaultConnection
  tablePrefix : Option String
  log : LogSettings
  deriving DecidableEq, Repr

/-! ## Expansion -/

def DsnEntry.expand (env : Environment) : DsnEntry → Except ConfigFault DsnEntry
  | .text s => (env.expand s).map .text
  | .integer n => .ok (.integer n)

def DsnSource.expand (env : Environment) : DsnSource → Except ConfigFault DsnSource
  | .text s => (env.expand s).map .text
  | .table entries => do
    let entries ← entries.mapM fun (k, v) => do return (k, ← v.expand env)
    return .table entries

/-- An expansion of a text that may be missing. -/
def Environment.expandOption (env : Environment) : Option String → Except ConfigFault (Option String)
  | some s => (env.expand s).map some
  | none => .ok none

/-- Puts in the values of variables: in the data source names, the prefix and the default server. -/
def Settings.expand (env : Environment) (s : Settings) : Except ConfigFault Settings := do
  let connections ← s.connections.mapM fun c => do return { c with source := ← c.source.expand env }
  let tablePrefix ← env.expandOption s.tablePrefix
  let preferred ← match s.preferred with
    | some d => do pure (some { d with server := ← env.expandOption d.server })
    | none => pure none
  return { s with connections, tablePrefix, preferred }

/-! ## Validity -/

/-- The tracer the log settings ask for. -/
def LogSettings.tracer (l : LogSettings) : Except ConfigFault Tracer := do
  let standard : Tracer := {}
  let level ← match l.level with
    | none => pure standard.level
    | some text =>
      match Level.ofText (Text.trim text) with
      | some level => pure level
      | none => throw (.badLogLevel text)
  let limit := match l.limit with
    | none => standard.limit
    | some 0 => none
    | some n => some n
  return { level, limit }

namespace Settings

/-- Checks the connections one after another; gives back engine and server of each, behind those in
    `seen`. -/
def checkConnections (seen : List (Engine × String)) :
    List ConnectionSettings → Except ConfigFault (List (Engine × String))
  | [] => .ok seen
  | c :: rest => do
    let d ← c.source.dsn
    d.validate c.engine
    if seen.contains (c.engine, d.server) then .error (.duplicateConnection c.engine d.server)
    else checkConnections (seen ++ [(c.engine, d.server)]) rest

/-- Refuses a default that is none of the connections. -/
def checkPreferred (known : List (Engine × String)) : Option DefaultConnection → Except ConfigFault Unit
  | none => .ok ()
  | some d =>
    let found := match d.server with
      | some server => known.contains (d.engine, server)
      | none => known.any fun (engine, _) => engine == d.engine
    if found then .ok () else .error (.unknownDefault d.engine d.server)

def checkPrefix (tablePrefix : Option String) : Except ConfigFault Unit :=
  if tablePrefix.any Text.isBlank then .error .blankPrefix else .ok ()

def validate (s : Settings) : Except ConfigFault Unit := do
  if s.connections.isEmpty then throw .noConnections
  let known ← checkConnections [] s.connections
  checkPreferred known s.preferred
  checkPrefix s.tablePrefix
  let _ ← s.log.tracer

end Settings

end SqlComposer
