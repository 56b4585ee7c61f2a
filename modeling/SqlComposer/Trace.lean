/-
  SqlComposer.Trace — at which level statements are reported before they run, and how
  much of their text is shown.
-/

import SqlComposer.Number.Integer
import SqlComposer.Text.Blank

namespace SqlComposer

inductive Level where
  | error
  | warn
  | info
  | debug
  | trace
  deriving DecidableEq, Repr

namespace Level

def name : Level → String
  | .error => "ERROR"
  | .warn => "WARN"
  | .info => "INFO"
  | .debug => "DEBUG"
  | .trace => "TRACE"

/-- All levels, the most urgent first. -/
def all : List Level := [.error, .warn, .info, .debug, .trace]

/-- The level with a name in any letter case, or with a number from 1 for the most urgent. -/
def ofText (s : String) : Option Level :=
  match Integer.read (.unsigned 64) s with
  | .ok n => if n == 0 then none else all[n.toNat - 1]?
  | .error _ => all.find? fun l => l.name == Text.upper s

end Level

/-- How statements are reported; a limit cuts their text after that many characters. -/
structure Tracer where
  level : Level := .debug
  limit : Option Nat := some 200
  deriving DecidableEq, Repr

/-- The text shown for `sql`, with dots behind it where it was cut. -/
def Tracer.shorten (t : Tracer) (sql : String) : String :=
  match t.limit with
  | some limit => if limit < sql.length then String.ofList (sql.toList.take limit) ++ "..." else sql
  | none => sql

end SqlComposer
