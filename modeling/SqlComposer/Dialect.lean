/-
  SqlComposer.Dialect — what rendering needs to know: the engine whose quoting applies,
  how text is escaped, and how the last segment of a table name is changed before it
  is quoted.
-/

import SqlComposer.Ident
import SqlComposer.Literal

namespace SqlComposer

structure Dialect where
  engine : Engine
  escape : String → String
  tableHook : String → String

namespace Dialect

/-- The engine's own escaping, and table names as they are. -/
def offline (engine : Engine) : Dialect := ⟨engine, engine.escape, id⟩

/-- A column or any other identifier in quotes. -/
def quoteIdentifier (d : Dialect) (name : String) : String := d.engine.quoteIdentifier name

def quoteIdent (d : Dialect) (i : Ident) : String := i.toSql d.engine.quoteChar

/-- A table name in quotes, its last segment changed by the hook and trimmed. -/
def quoteTable (d : Dialect) (name : String) : String :=
  d.quoteIdent ((Ident.parse name).mapLast fun table => Text.trim (d.tableHook table))

/-- A string literal; for Postgres, one marked to read escapes when the value holds a backslash. -/
def quoteLiteral (d : Dialect) (s : String) : String :=
  let mark := if d.engine == .postgres && Literal.needsEscapeMark s then "E" else ""
  mark ++ "'" ++ d.escape s ++ "'"

end Dialect

end SqlComposer
