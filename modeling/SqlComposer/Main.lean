/-
  SqlComposer.Main — the command line as a program: its lines go to the output, a fault
  goes to the error output and ends it with code 1.
-/

import SqlComposer.CommandLine.Run

namespace SqlComposer.CommandLine

/-- The text of a file, or why it cannot be read. -/
def readText (path : String) : IO (Except Error String) := do
  try
    return .ok (← IO.FS.readFile path)
  catch
    | .noFileOrDirectory _ _ _ => return .error .noFile
    | e => return .error (.io (toString e))

/-- The variables of the process; none where the system does not list them. -/
def readEnvironment : IO Environment := do
  let entries := match ← readText "/proc/self/environ" with
    | .ok text => Chars.splitOn (· == '\x00') text.toList
    | .error _ => []
  let pairs := entries.filterMap fun entry => Chars.splitFirst '=' entry
  return fun name => (pairs.find? fun (key, _) => key == name.toList).map fun (_, v) => String.ofList v

/-- The file a command reads its settings from. -/
def configPath (words : List String) : Option String :=
  match parse words with
  | .ok (.query a) => some a.config
  | .ok (.ping a) => some a.config
  | _ => none

end SqlComposer.CommandLine

open SqlComposer SqlComposer.CommandLine in
def main (args : List String) : IO UInt32 := do
  let document ← match configPath args with
    | some path => readText path
    | none => pure (.error .noFile)
  let su : Surroundings := {
    environment := ← readEnvironment
    file := fun _ => document
    registry := .ofDrivers [.offline .mysql, .offline .postgres] }
  let report := su.run args
  report.lines.forM IO.println
  match report.fault with
  | some fault =>
    IO.eprintln fault.text
    return 1
  | none => return 0
