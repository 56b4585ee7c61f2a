/-
  SqlComposer.Compose.Join — the calls that add joins to a statement.

  Only a SELECT and an UPDATE take joins, and only a cross or natural join goes without
  a condition. The first wrong call is recorded.
-/

import SqlComposer.Compose.Table

namespace SqlComposer

namespace JoinList

def withFault (l : JoinList) (f : BuildFault) : JoinList := { l with fault := l.fault <|> some f }

/-- Refuses the kinds of statement that take no joins. -/
def checkKind (kind : StatementKind) : Except BuildFault Unit :=
  if kind.supportsJoins then .ok () else .error (.joinsNotAllowed kind)

def isEmpty (l : JoinList) : Bool := l.joins.isEmpty

/-- The aliases of the joined tables, in order. -/
def aliases (l : JoinList) : List String := l.joins.filterMap (·.table.aliasName)

def push (table : TableRef) (condition : String) (type : JoinType) (l : JoinList) : JoinList :=
  match checkKind l.kind with
  | .error f => l.withFault (.named f)
  | .ok () =>
    let condition := Text.trim condition
    if condition.isEmpty && !type.standsAlone then l.withFault (.joinNeedsCondition type)
    else { l with joins := l.joins ++ [⟨type, table, condition⟩] }

/-- A join with a table given as text. -/
def pushSpec (table condition : String) (type : JoinType) (l : JoinList) : JoinList :=
  match TableRef.parse table with
  | .ok t => l.push t condition type
  | .error f => l.withFault f

end JoinList

/-- A call that adds a join. -/
inductive JoinCall where
  | spec (table condition : String) (type : JoinType)
  | ref (table : TableRef) (condition : String) (type : JoinType)

def JoinList.apply (l : JoinList) : JoinCall → JoinList
  | .spec table condition type => l.pushSpec table condition type
  | .ref table condition type => l.push table condition type

end SqlComposer
