/-
  SqlComposer.Session.Basic — a registry of connections together with one statement that
  is being built.

  Beginning a statement replaces the one before it. A call that fails, or that the
  statement's kind does not have, throws the statement away, so what is left is either
  free of faults or nothing.
-/

import SqlComposer.Connection.Registry
import SqlComposer.Render
import SqlComposer.Session.Call

namespace SqlComposer

structure Session where
  registry : Registry
  statement : Option Statement := none

namespace Session

/-! ## Building -/

/-- Keeps a statement that has no fault. -/
def keep (s : Statement) (se : Session) : Except Error Unit × Session :=
  match s.firstFault with
  | some f => (.error (.builder f), { se with statement := none })
  | none => (.ok (), { se with statement := some s })

/-- Begins a statement. -/
def start (kind : StatementKind) (spec : String) (se : Session) : Except Error Unit × Session :=
  se.keep (.start kind spec)

/-- Passes a call on to the statement. -/
def route (c : SessionCall) (se : Session) : Except Error Unit × Session :=
  match se.statement with
  | none => (.error (.builder (.noActiveStatement c.name)), se)
  | some s =>
    match c.onKind s.kind with
    | none => (.error (.builder (c.refusal s.kind)), { se with statement := none })
    | some call => se.keep (s.apply call)

/-- The statement, no longer held. -/
def takeStatement (se : Session) : Option Statement × Session := (se.statement, { se with statement := none })

/-! ## Rendering and running -/

/-- The statement as SQL for the current connection. -/
def sql (se : Session) : Except Error String :=
  match se.statement with
  | none => .error (.builder .noStatement)
  | some s => s.render se.registry.dialect

/-- The statement as SQL, or the fault that stands in its way. -/
def text (se : Session) : String :=
  match se.statement with
  | none => "Nothing set."
  | some s =>
    match s.render se.registry.dialect with
    | .ok sql => sql
    | .error e => e.display

/-- Runs rendered SQL, if rendering succeeded, and puts the registry back as it is left. -/
def runSql (run : String → Registry → Except Error α × Registry) (sql : Except Error String) (se : Session) :
    Except Error α × Session :=
  match sql with
  | .error e => (.error e, se)
  | .ok sql =>
    let (result, registry) := run sql se.registry
    (result, { se with registry })

/-- Runs the statement for its rows. -/
def query (se : Session) : Except Error (List Row) × Session := se.runSql Registry.query se.sql

/-- Runs the statement for its effect. -/
def execute (se : Session) : Except Error Outcome × Session := se.runSql Registry.execute se.sql

/-- Runs another statement for its rows. -/
def queryStatement (s : Statement) (se : Session) : Except Error (List Row) × Session :=
  se.runSql Registry.query (s.render se.registry.dialect)

/-- Runs another statement for its effect. -/
def executeStatement (s : Statement) (se : Session) : Except Error Outcome × Session :=
  se.runSql Registry.execute (s.render se.registry.dialect)

/-! ## Counting -/

/-- The column a count is read from. -/
def counter : String := "counter"

/-- Counts the rows of a table, those that match a predicate unless it is blank. -/
def countStatement (table template : String) (values : List Value) : Select :=
  let s := (Select.empty.table table).fieldExpr ((Expression.ofColumn "count" "*").labelled counter)
  if Text.isBlank template then s else s.restrict (.push .and template values)

/-- The counter in the first row; zero without rows. -/
def readCount : List Row → Except Error Nat
  | [] => .ok 0
  | row :: _ => do
    match ← row.read (.integer (.unsigned 64)) counter with
    | .integer n => return n.toNat
    | _ => return 0

/-- Counts rows; the session's own statement stays. -/
def count (table template : String) (values : List Value) (se : Session) : Except Error Nat × Session :=
  let (rows, se) := se.queryStatement (.select (countStatement table template values))
  (rows.bind readCount, se)

/-! ## Other statements -/

/-- The words that begin a statement with a result. -/
def rowKeywords : List String := ["SELECT", "SHOW", "DESCRIBE", "EXPLAIN", "WITH"]

/-- The first word of a statement, in upper case. -/
def headWord (sql : String) : String :=
  Text.upper (String.ofList ((Chars.trimStart sql.toList).takeWhile fun c => !(isBlank c || c == '(')))

/-- Runs SQL as it stands: for its rows where its first word promises some, else for its effect. -/
def raw (sql : String) (se : Session) : Except Error Outcome × Session :=
  if rowKeywords.contains (headWord sql) then
    let (rows, registry) := se.registry.query sql
    (rows.map .rows, { se with registry })
  else
    let (result, registry) := se.registry.execute sql
    (result, { se with registry })

def isCharsetChar (c : Char) : Bool := c.isAlphanum || c == '_' || c == '-'

/-- How an engine is told the character set of the client. -/
def charsetStatement (engine : Engine) (charset : String) : String :=
  match engine with
  | .mysql => s!"SET CHARACTER SET {charset}"
  | .postgres => s!"SET client_encoding TO '{charset}'"

/-- Sets the character set of the current connection. -/
def setCharset (name : String) (se : Session) : Except Error Unit × Session :=
  let charset := Text.trim name
  if charset.isEmpty || !charset.toList.all isCharsetChar then (.error (.builder (.badCharset charset)), se)
  else
    let (result, registry) := se.registry.execute (charsetStatement se.registry.currentEngine charset)
    (result.map fun _ => (), { se with registry })

end Session

end SqlComposer
