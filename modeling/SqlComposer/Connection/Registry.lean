/-
  SqlComposer.Connection.Registry — the open connections, one of which may be current.

  (1) a connection is registered under its engine and server; a new one under the same
      key replaces the old one, which is closed;
  (2) a list of connections is set up as a whole or not at all: when one fails, those
      opened before it are closed in reverse order, what they replaced comes back, and
      so does the current connection;
  (3) closing forgets a connection even if the driver reports a fault.
  Every operation gives its result together with the registry as it is left.
-/

import SqlComposer.Connection.Entry
import SqlComposer.Connection.Journal
import SqlComposer.Dialect
import SqlComposer.Dsn.Source
import SqlComposer.Syntax.Vocabulary

namespace SqlComposer

structure Registry where
  drivers : Engine → Option Driver := fun _ => none
  entries : Entries := []
  current : Option ConnectionKey := none
  /-- The engine to write for while no connection is current. -/
  defaultEngine : Engine := .mysql
  tableHook : Option (String → String) := none
  tracer : Tracer := {}
  journal : Journal := {}

namespace Registry

/-! ## Drivers and defaults -/

/-- A registry without drivers. -/
def empty : Registry := {}

/-- Installs a driver in the place of any other for its engine. -/
def register (driver : Driver) (r : Registry) : Registry :=
  { r with drivers := fun e => if e == driver.engine then some driver else r.drivers e }

/-- A registry with these drivers, of which the last for an engine counts. -/
def ofDrivers (drivers : List Driver) : Registry := drivers.foldl (fun r driver => r.register driver) empty

/-- Puts a prefix in front of every table name. -/
def setTablePrefix (tablePrefix : String) (r : Registry) : Registry :=
  { r with tableHook := some fun name => tablePrefix ++ name }

def note (n : Notice) (r : Registry) : Registry := { r with journal := r.journal.notice n }

/-! ## Inspection -/

/-- The connection registered for an engine and a server. -/
def entry? (engine : Engine) (server : String) (r : Registry) : Option Entry :=
  Entries.find? (.make engine server) r.entries

def currentEngine (r : Registry) : Engine :=
  match r.current with
  | some k => k.engine
  | none => r.defaultEngine

/-- Escapes as the driver of the current engine does. -/
def escape (r : Registry) (s : String) : String :=
  match r.drivers r.currentEngine with
  | some driver => driver.escape s
  | none => r.currentEngine.escape s

def quoteIdentifier (r : Registry) (name : String) : String :=
  match r.drivers r.currentEngine with
  | some driver => driver.quoteIdentifier name
  | none => r.currentEngine.quoteIdentifier name

/-- What a statement is rendered with for the current connection. -/
def dialect (r : Registry) : Dialect := ⟨r.currentEngine, r.escape, r.tableHook.getD id⟩

/-! ## Closing -/

/-- Closes the connection of an entry; a fault is given back. -/
def close (e : Entry) (r : Registry) : Option Error × Registry :=
  (e.driver.closeFault e.handle, { r with journal := r.journal.record (.closed e.handle) })

/-- Closes the connection of an entry that was registered under `key`; a fault is noted. -/
def closeNoting (occasion : CloseOccasion) (key : ConnectionKey) (e : Entry) (r : Registry) : Option Error × Registry :=
  match r.close e with
  | (none, r) => (none, r)
  | (some fault, r) => (some fault, r.note (.closeFailed occasion key fault))

/-- Closes what a new connection under `key` replaced. -/
def closeReplaced (key : ConnectionKey) (replaced : Option Entry) (r : Registry) : Registry :=
  match replaced with
  | some old => (r.closeNoting .replacement key old).2
  | none => r

/-! ## Connecting -/

/-- An opened connection: its key, and the entry it replaced, which is still open. -/
abbrev Installed := ConnectionKey × Option Entry

/-- Opens a connection, registers it and makes it current. -/
def install (engine : Engine) (d : Dsn) (r : Registry) : Except Error Installed × Registry :=
  match d.validate engine, r.drivers engine with
  | .error f, _ => (.error (.config f), r)
  | .ok (), none => (.error (.config (.noDriver engine)), r)
  | .ok (), some driver =>
    match r.journal.connect driver d with
    | (.error e, journal) => (.error e, { r with journal })
    | (.ok handle, journal) =>
      let key := ConnectionKey.make engine d.server
      let (replaced, entries) := Entries.put ⟨key, d, handle, driver⟩ r.entries
      (.ok (key, replaced), { r with entries, journal := journal.notice (.connected key), current := some key })

def connect (engine : Engine) (dsn : Except ConfigFault Dsn) (r : Registry) : Except Error Unit × Registry :=
  match dsn with
  | .error f => (.error (.config f), r)
  | .ok d =>
    match r.install engine d with
    | (.error e, r) => (.error e, r)
    | (.ok (key, replaced), r) => (.ok (), r.closeReplaced key replaced)

/-- Connects to an engine and a data source name given as text. -/
def setup (engine dsn : String) (r : Registry) : Except Error Unit × Registry :=
  if Text.isBlank engine || Text.isBlank dsn then (.error (.config .emptySetup), r)
  else
    match Engine.ofText engine with
    | .error f => (.error (.config f), r)
    | .ok e => r.connect e (Dsn.parse dsn)

/-! ## Connecting to many -/

/-- Says which of many connections failed. -/
def blame (key : ConnectionKey) : Error → Error
  | .connection f => .connection (.setup key.engine key.server f)
  | e => e

/-- Opens connections up to the first that fails; gives its fault and, the last one first, those
    that were opened in front of `opened`. -/
def installAll (opened : List Installed) :
    List (Engine × Except ConfigFault Dsn) → Registry → Option Error × List Installed × Registry
  | [], r => (none, opened, r)
  | (_, .error f) :: _, r => (some (.config f), opened, r)
  | (engine, .ok d) :: rest, r =>
    match r.install engine d with
    | (.ok new, r) => installAll (new :: opened) rest r
    | (.error e, r) => (some (blame (.make engine d.server) e), opened, r)

/-- Takes back an opened connection and closes it; what it replaced is registered again. -/
def rollBack (i : Installed) (r : Registry) : Registry :=
  let (key, replaced) := i
  let taken := match replaced with
    | some old => Entries.exchange old r.entries
    | none => Entries.take key r.entries
  match taken with
  | some (new, entries) => ({ r with entries }.closeNoting .rollback key new).2
  | none => r

/-- Opens all connections in order, or none of them. -/
def setupMany (wanted : List (Engine × Except ConfigFault Dsn)) (r : Registry) : Except Error Unit × Registry :=
  match installAll [] wanted r with
  | (none, opened, after) => (.ok (), opened.reverse.foldl (fun r (key, old) => r.closeReplaced key old) after)
  | (some e, opened, after) =>
    let back := opened.foldl (fun r i => r.rollBack i) after
    (.error e, { back with current := r.current.filter fun k => Entries.has k back.entries })

/-! ## Switching and disconnecting -/

def switchServer (engine : Engine) (server : String) (r : Registry) : Except Error Unit × Registry :=
  let key := ConnectionKey.make engine server
  if Entries.has key r.entries then (.ok (), { r.note (.switched key) with current := some key })
  else (.error (.connection (.unregistered key.engine key.server)), r)

/-- Forgets a connection and closes it. -/
def disconnect (engine : Engine) (server : String) (r : Registry) : Except Error Unit × Registry :=
  let key := ConnectionKey.make engine server
  match Entries.take key r.entries with
  | none => (.error (.connection (.unregistered key.engine key.server)), r)
  | some (e, entries) =>
    let current := if r.current == some key then none else r.current
    match { r with entries, current }.close e with
    | (none, r) => (.ok (), r)
    | (some fault, r) => (.error fault, r)

/-- Closes the connections of these entries in order; gives the first fault. -/
def closeEach : Entries → Registry → Option Error × Registry
  | [], r => (none, r)
  | e :: es, r =>
    let (fault, r) := r.closeNoting .shutdown e.key e
    let (later, r) := closeEach es r
    (fault <|> later, r)

/-- Closes and forgets all connections; gives the first fault. -/
def closeAll (r : Registry) : Except Error Unit × Registry :=
  match closeEach r.entries { r with entries := [], current := none } with
  | (none, r) => (.ok (), r)
  | (some fault, r) => (.error fault, r)

/-- What is left at the end of a registry's life. -/
def retire (r : Registry) : Registry := r.closeAll.2

/-! ## Running statements -/

/-- The entry of the current connection. -/
def currentEntry (r : Registry) : Except Error Entry :=
  match r.current with
  | none => .error (.connection .noCurrent)
  | some k =>
    match Entries.find? k r.entries with
    | some e => .ok e
    | none => .error (.connection (.currentGone k.engine k.server))

/-- Runs `sql` on the current connection, with a notice ahead of it. -/
def run (kind : RunKind) (sql : String) (r : Registry) : Except Error (Option Outcome) × Registry :=
  match r.currentEntry with
  | .error e => (.error e, r)
  | .ok e =>
    let noted := r.note (.statement r.tracer.level e.key kind (r.tracer.shorten sql))
    let (result, journal) := noted.journal.run e.handle sql
    (result, { noted with journal })

/-- Runs `sql` for its effect; without a reply, no row was affected. -/
def execute (sql : String) (r : Registry) : Except Error Outcome × Registry :=
  match r.run .execute sql with
  | (result, r) => (result.map fun o => o.getD (.affected 0), r)

/-- Runs `sql` for its rows. -/
def query (sql : String) (r : Registry) : Except Error (List Row) × Registry :=
  match r.run .query sql with
  | (result, r) => (result.map fun o => (o.map (·.toRows)).getD [], r)

/-! ## Description -/

/-- Drivers, connections, the current one, and the defaults; no connection shows its password. The table of drivers has
    an order of its own in every registry: `order` says which, and is that of the engines where it is not given. -/
def inspect (r : Registry) (order : List Engine := [.mysql, .postgres]) : String :=
  let list (items : List String) := "[" ++ Text.join ", " items ++ "]"
  let drivers := order.filter fun e => (r.drivers e).isSome
  "ConnectionRegistry \x7b drivers: " ++ list (drivers.map (·.title)) ++
    ", connections: " ++ list (r.entries.map (·.key.inspect)) ++
    ", current: " ++ Dsn.optionText (r.current.map (·.inspect)) ++
    ", default_engine: " ++ r.defaultEngine.title ++
    ", table_hook: " ++ (if r.tableHook.isSome then "true" else "false") ++ " \x7d"

end Registry

end SqlComposer
