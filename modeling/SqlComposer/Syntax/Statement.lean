/-
  SqlComposer.Syntax.Statement — the statements that change tables, and the sum of all
  statements.
-/

import SqlComposer.Syntax.Tree

namespace SqlComposer

/-- Rows of values under the columns of the first row. -/
structure Insert where
  table : String
  columns : List String
  rows : List (List Value)
  onDuplicate : Option String
  fault : Option BuildFault

/-- What a field is set to: a value, or SQL as it stands. -/
inductive Assignment where
  | value (v : Value)
  | raw (sql : String)

structure Update where
  table : Option TableRef
  fields : List (String × Assignment)
  joins : JoinList
  conditions : WhereClause
  fault : Option BuildFault

/-- A DELETE, or a TRUNCATE when `truncates` holds. -/
structure Delete where
  table : String
  truncates : Bool
  conditions : WhereClause
  fault : Option BuildFault

inductive Statement where
  | select (s : Select)
  | insert (s : Insert)
  | update (s : Update)
  | delete (s : Delete)

/-! ## Kinds and faults -/

def Delete.kind (s : Delete) : StatementKind := if s.truncates then .truncate else .delete

/-- The fault an UPDATE fails with: its own, else that of its predicates, else that of its joins. -/
def Update.firstFault (s : Update) : Option BuildFault :=
  s.fault <|> s.conditions.fault <|> s.joins.fault

/-- The fault a DELETE fails with: its own, else that of its predicates. -/
def Delete.firstFault (s : Delete) : Option BuildFault := s.fault <|> s.conditions.fault

namespace Statement

def kind : Statement → StatementKind
  | .select _ => .select
  | .insert _ => .insert
  | .update _ => .update
  | .delete s => s.kind

def firstFault : Statement → Option BuildFault
  | .select s => s.firstFault
  | .insert s => s.fault
  | .update s => s.firstFault
  | .delete s => s.firstFault

end Statement

end SqlComposer
