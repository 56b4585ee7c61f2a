/-
  SqlComposer.Session.Settings — sessions begun from settings: the tracer, the prefix of
  table names, all connections, and the default one among them.
-/

import SqlComposer.Session.Basic
import SqlComposer.Settings.Basic

namespace SqlComposer

namespace Settings

/-- What to connect to, in order. -/
def wanted (s : Settings) : List (Engine × Except ConfigFault Dsn) :=
  s.connections.map fun c => (c.engine, c.source.dsn)

end Settings

namespace Registry

/-- The server of the default connection: the one named, else the first one of the engine. -/
def preferredServer (d : DefaultConnection) (r : Registry) : Option String :=
  match d.server with
  | some server => some server
  | none => ((Entries.keys r.entries).find? fun k => k.engine == d.engine).map (·.server)

/-- Makes the default connection current. -/
def prefer (d : DefaultConnection) (r : Registry) : Except Error Unit × Registry :=
  let r := { r with defaultEngine := d.engine }
  match r.preferredServer d with
  | some server => r.switchServer d.engine server
  | none => (.ok (), r)

/-- Connects to all that the settings name, with the tracer and the prefix they ask for. -/
def configure (s : Settings) (r : Registry) : Except Error Unit × Registry :=
  match s.validate, s.log.tracer with
  | .error f, _ => (.error (.config f), r)
  | _, .error f => (.error (.config f), r)
  | .ok (), .ok tracer =>
    let r := { r with tracer }
    let r := match s.tablePrefix with
      | some tablePrefix => r.setTablePrefix tablePrefix
      | none => r
    match r.setupMany s.wanted with
    | (.error e, r) => (.error e, r)
    | (.ok (), r) =>
      match s.preferred with
      | some d => r.prefer d
      | none => (.ok (), r)

end Registry

/-- A session on a configured registry; a fault comes with the registry at the end of its life. -/
def Session.ofSettings (s : Settings) (r : Registry) : Except (Error × Registry) Session :=
  match r.configure s with
  | (.ok (), r) => .ok { registry := r }
  | (.error e, r) => .error (e, r.retire)

end SqlComposer
