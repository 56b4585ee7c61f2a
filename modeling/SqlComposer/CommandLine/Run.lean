/-
  SqlComposer.CommandLine.Run — what a command prints, and how it fails.

  Settings come from a file. A query runs on the default connection of a session begun
  from them, or on the one asked for; a ping opens every connection on its own and
  reports each.
-/

import SqlComposer.CommandLine.Help
import SqlComposer.Result.Table
import SqlComposer.Session.Settings
import SqlComposer.Settings.Document

namespace SqlComposer.CommandLine

inductive CommandFault where
  | usage (fault : UsageFault)
  | unreadable (path : String) (error : Error)
  | failed (error : Error)
  | unreachable (failed total : Nat)

/-- The causes beneath an error, each behind a colon. -/
def causes : Error → String
  | .io text => ": " ++ text
  | _ => ""

def CommandFault.text : CommandFault → String
  | .usage f => f.text
  | .unreadable path e => s!"failed to load config {path}: {e.display}" ++ causes e
  | .failed e => e.display ++ causes e
  | .unreachable count total => s!"{count} of {total} connection(s) failed"

/-- The lines printed, and the fault the command ends with, if any. -/
structure Report where
  lines : List String
  fault : Option CommandFault := none

/-- What a command depends on: variables, files, and the drivers to connect with. -/
structure Surroundings where
  environment : Environment
  file : String → Except Error String
  registry : Registry

namespace Surroundings

def load (su : Surroundings) (path : String) : Except CommandFault Settings :=
  (Settings.load su.environment su.file path).mapError (.unreadable path)

/-! ## Queries -/

def outcomeLines (json : Bool) : Outcome → List String
  | .affected n => [Outcome.text (.affected n)]
  | .rows rows => if json then Row.jsonLines rows else Row.report rows

/-- Switches to the connection asked for, if any. -/
def choose (server : Option (Engine × String)) (r : Registry) : Except Error Unit × Registry :=
  match server with
  | some (engine, host) => r.switchServer engine host
  | none => (.ok (), r)

def runQuery (su : Surroundings) (a : QueryArguments) : Except CommandFault (List String) := do
  let settings ← su.load a.config
  let se ← (Session.ofSettings settings su.registry).mapError fun (e, _) => .failed e
  let (chosen, registry) := choose a.server se.registry
  chosen.mapError .failed
  let (outcome, _) := Session.raw a.sql { se with registry }
  let outcome ← outcome.mapError .failed
  return outcomeLines a.json outcome

/-! ## Pings -/

/-- Opens a connection and runs a statement on it. -/
def pingOne (engine : Engine) (d : Dsn) (r : Registry) : Except Error Unit × Registry :=
  match r.connect engine (.ok d) with
  | (.error e, r) => (.error e, r)
  | (.ok (), r) =>
    let (result, r) := r.query "SELECT 1"
    (result.map fun _ => (), r)

/-- One line for each connection, and how many failed. -/
def pingEach : List (Engine × Dsn) → Registry → List String × Nat
  | [], _ => ([], 0)
  | (engine, d) :: rest, r =>
    let label := engine.name ++ ":" ++ d.server
    match pingOne engine d r with
    | (.ok (), r) =>
      let (lines, failed) := pingEach rest r
      (s!"  OK {label}" :: lines, failed)
    | (.error e, r) =>
      let (lines, failed) := pingEach rest r
      (s!"  FAIL {label}: {e.message}" :: lines, failed + 1)

def runPing (su : Surroundings) (a : PingArguments) : Report :=
  match su.load a.config with
  | .error f => ⟨[], some f⟩
  | .ok settings =>
    let targets := settings.wanted.filterMap fun (engine, d) => d.toOption.map fun d => (engine, d)
    let tracer := settings.log.tracer.toOption.getD {}
    let (lines, failed) := pingEach targets { su.registry with tracer }
    ⟨lines, if failed == 0 then none else some (.unreachable failed targets.length)⟩

/-! ## Commands -/

/-- Runs the command in the words behind the program's name. -/
def run (su : Surroundings) (words : List String) : Report :=
  match parse words with
  | .error f => ⟨[], some (.usage f)⟩
  | .ok (.help topic) => ⟨topic.lines, none⟩
  | .ok (.query a) =>
    match su.runQuery a with
    | .ok lines => ⟨lines, none⟩
    | .error f => ⟨[], some f⟩
  | .ok (.ping a) => su.runPing a

end Surroundings

end SqlComposer.CommandLine
