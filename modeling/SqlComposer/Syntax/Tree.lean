/-
  SqlComposer.Syntax.Tree — values, expressions, predicates, table references and the
  SELECT they make up.

  The types are mutually recursive: a value may be an expression or a sub-select, and a
  sub-select holds values in its predicates, joins and fields. A clause or a SELECT
  that was given a wrong call carries the first fault it recorded.
-/

import SqlComposer.Error.Build

namespace SqlComposer

mutual

/-- What a placeholder, an inserted column or a set field stands for. -/
inductive Value where
  | null
  | bool (b : Bool)
  | int (n : Int64)
  | uint (n : UInt64)
  | float (x : Float)
  | text (s : String)
  | expr (e : Expression)
  | select (s : Select)

inductive Operand where
  | column (name : String)
  | value (v : Value)
  | raw (sql : String)

inductive ExpressionBody where
  | call (function : String) (operands : List Operand)
  | literal (sql : String)

/-- A function call or a verbatim fragment, with an output label and a table alias for its columns. -/
structure Expression where
  body : ExpressionBody
  label : Option String
  qualifier : Option String

/-- A template and the values of its placeholders; without values it stands as it is. -/
structure Predicate where
  template : String
  values : List Value

/-- A predicate or a group of them, with the conjunction that joins it to its predecessor. -/
inductive Condition where
  | leaf (conjunction : Conjunction) (predicate : Predicate)
  | group (conjunction : Conjunction) (members : List Condition)

/-- The predicates of a WHERE clause; groups begun and not yet ended are kept innermost first. -/
structure WhereClause where
  conditions : List Condition
  opened : List (List Condition)
  fault : Option BuildFault

inductive TableSource where
  | name (name : String)
  | select (s : Select)
  | expr (e : Expression)

structure TableRef where
  source : TableSource
  aliasName : Option String

structure Join where
  type : JoinType
  table : TableRef
  condition : String

/-- The joins of one statement, in order, and the kind of that statement. -/
structure JoinList where
  kind : StatementKind
  joins : List Join
  fault : Option BuildFault

inductive FieldTerm where
  | column (name : String) (label : Option String)
  | raw (sql : String)
  | expr (e : Expression)

structure Field where
  qualifier : Option String
  term : FieldTerm

/-- A SELECT; without fields it projects everything. -/
structure Select where
  tables : List TableRef
  fields : List Field
  joins : JoinList
  conditions : WhereClause
  groupBy : List String
  having : Option Predicate
  orderBy : List (String × Order)
  limit : Option (UInt64 × Option UInt64)
  fault : Option BuildFault

end

/-! ## Empty values -/

def WhereClause.empty : WhereClause := ⟨[], [], none⟩

def JoinList.empty (kind : StatementKind) : JoinList := ⟨kind, [], none⟩

def Select.empty : Select := ⟨[], [], .empty .select, .empty, [], none, [], none, none⟩

/-! ## Faults -/

/-- The fault a SELECT fails with: its own, else that of its predicates, else that of its joins. -/
def Select.firstFault (s : Select) : Option BuildFault :=
  s.fault <|> s.conditions.fault <|> s.joins.fault

end SqlComposer
