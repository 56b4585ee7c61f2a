/-
  SqlComposer.Engine — the database engines statements are written for.
-/

namespace SqlComposer

inductive Engine where
  | mysql
  | postgres
  deriving DecidableEq, Repr

namespace Engine

def name : Engine → String
  | .mysql => "mysql"
  | .postgres => "postgres"

/-- The name in a description. -/
def title : Engine → String
  | .mysql => "Mysql"
  | .postgres => "Postgres"

/-- The character around each segment of an identifier. -/
def quoteChar : Engine → Char
  | .mysql => '\x60'
  | .postgres => '"'

end Engine

end SqlComposer
