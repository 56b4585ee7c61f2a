/-
  SqlComposer.Syntax.Keyword — the closed vocabularies of a statement: its kind, sort
  orders, conjunctions and join types, each with its SQL keyword.
-/

namespace SqlComposer

inductive StatementKind where
  | select
  | insert
  | update
  | delete
  | truncate
  deriving DecidableEq, Repr

namespace StatementKind

def keyword : StatementKind → String
  | .select => "SELECT"
  | .insert => "INSERT"
  | .update => "UPDATE"
  | .delete => "DELETE"
  | .truncate => "TRUNCATE"

def supportsJoins : StatementKind → Bool
  | .select | .update => true
  | _ => false

def supportsWhere : StatementKind → Bool
  | .select | .update | .delete => true
  | _ => false

end StatementKind

inductive Order where
  | asc
  | desc
  deriving DecidableEq, Repr

def Order.keyword : Order → String
  | .asc => "ASC"
  | .desc => "DESC"

inductive Conjunction where
  | and
  | or
  deriving DecidableEq, Repr

def Conjunction.keyword : Conjunction → String
  | .and => "AND"
  | .or => "OR"

inductive JoinType where
  | inner
  | outer
  | left
  | right
  | full
  | cross
  | natural
  | plain
  deriving DecidableEq, Repr

namespace JoinType

def keyword : JoinType → String
  | .inner => "INNER JOIN"
  | .outer => "OUTER JOIN"
  | .left => "LEFT JOIN"
  | .right => "RIGHT JOIN"
  | .full => "FULL JOIN"
  | .cross => "CROSS JOIN"
  | .natural => "NATURAL JOIN"
  | .plain => "JOIN"

/-- A cross or natural join is complete without a condition. -/
def standsAlone : JoinType → Bool
  | .cross | .natural => true
  | _ => false

end JoinType

end SqlComposer
