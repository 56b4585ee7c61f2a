/-
  SqlComposer.Render — the SQL text of values, expressions, clauses and statements.

  Rendering follows the statement from left to right and stops at the first fault it
  meets. A SELECT is refused before anything of it is written when it, one of its
  predicates or one of its joins recorded a fault, or when it has no table.

  (1) columns in a SELECT: names known as an alias stay bare, all others are quoted;
  (2) the statement family, by recursion on the tree;
  (3) INSERT, UPDATE, DELETE and TRUNCATE.
-/

import SqlComposer.Dialect
import SqlComposer.Error
import SqlComposer.Number.Decimal
import SqlComposer.Syntax.Statement
import SqlComposer.Text.Call

namespace SqlComposer

/-! ## Columns -/

/-- The aliases a SELECT declares, and the one its bare columns belong to. -/
structure Scope where
  leading : Option String
  aliases : List String
  deriving DecidableEq, Repr

/-- Bare columns belong to the first table's alias, if it has one. -/
def Select.scope (s : Select) : Scope :=
  ⟨s.tables.head?.bind (·.aliasName),
    s.tables.filterMap (·.aliasName) ++ s.joins.joins.filterMap (·.table.aliasName)⟩

namespace Scope

/-- A column reference: an alias in front of it stays bare, every other segment is quoted, and a
    qualifier goes before a reference without an alias of its own. -/
def column (sc : Scope) (d : Dialect) (qualifier : Option String) (name : String) : String :=
  let ident := Ident.parse name
  match ident.parts with
  | first :: second :: rest =>
    if sc.aliases.contains first then
      first ++ "." ++ d.quoteIdent (Ident.parse (Text.join "." (second :: rest)))
    else qualified (d.quoteIdent ident)
  | _ => qualified (d.quoteIdent ident)
where
  qualified (sql : String) : String :=
    match qualifier with
    | some q => q ++ "." ++ sql
    | none => sql

/-- The qualifier of a field: its own, else the leading alias; none for a dotted column. -/
def qualifierOf (sc : Scope) (f : Field) : Option String :=
  match f.term with
  | .column name _ => if 1 < (Ident.parse name).parts.length then none else f.qualifier <|> sc.leading
  | _ => f.qualifier <|> sc.leading

/-- A GROUP BY term: a position or a call as it is, else a column. -/
def groupTerm (sc : Scope) (d : Dialect) (term : String) : String :=
  if term.toList.all Char.isDigit || Text.hasCall term then term else sc.column d none term

/-- An ORDER BY term with its direction: a call as it is, else a column. -/
def orderTerm (sc : Scope) (d : Dialect) (term : String × Order) : String :=
  (if Text.hasCall term.1 then term.1 else sc.column d none term.1) ++ " " ++ term.2.keyword

end Scope

/-- A column operand: a star stays bare, and a name of one segment takes the qualifier. -/
def Operand.columnSql (d : Dialect) (qualifier : Option String) (name : String) : String :=
  let ident := Ident.parse name
  if ident.isStar then "*"
  else
    match qualifier, ident.parts with
    | some q, [_] => q ++ "." ++ d.quoteIdent ident
    | _, _ => d.quoteIdent ident

/-! ## Pieces that hold no values -/

def Conjunction.joiner (c : Conjunction) : String := " " ++ c.keyword ++ " "

/-- An output label or a table alias behind a fragment. -/
def withAlias (sql : String) : Option String → String
  | some name => sql ++ " AS " ++ name
  | none => sql

/-- Puts the texts in the place of the question marks, from the left; marks beyond them stay. -/
def Chars.fill : List Char → List String → List Char
  | [], _ => []
  | '?' :: cs, t :: ts => t.toList ++ fill cs ts
  | c :: cs, ts => c :: fill cs ts

/-- A keyword and its terms, nothing when there are none. -/
def clause (keyword : String) (terms : List String) : String :=
  if terms.isEmpty then "" else " " ++ keyword ++ " " ++ Text.join ", " terms

def limitClause : Option (UInt64 × Option UInt64) → String
  | none => ""
  | some (count, none) => " LIMIT " ++ toString count
  | some (count, some offset) => " LIMIT " ++ toString count ++ " OFFSET " ++ toString offset

/-- Refuses what recorded a fault. -/
def refuse : Option BuildFault → Except Error Unit
  | some f => .error (.builder f)
  | none => .ok ()

/-- Refuses groups that were begun and not ended. -/
def refuseOpen (opened : List (List Condition)) : Except Error Unit :=
  if opened.isEmpty then .ok () else .error (.builder (.groupsLeftOpen opened.length))

/-! ## The statement family -/

mutual

/-- Numbers as they are, an infinity or a NaN as NULL, text as a literal, a sub-select in
    parentheses. -/
def Value.render (d : Dialect) : Value → Except Error String
  | .null => .ok "NULL"
  | .bool true => .ok "TRUE"
  | .bool false => .ok "FALSE"
  | .int n => .ok (toString n)
  | .uint n => .ok (toString n)
  | .float x => .ok ((Number.text? x).getD "NULL")
  | .text s => .ok (d.quoteLiteral s)
  | .expr e => e.render d none
  | .select s => do
    let sql ← s.render d
    return "(" ++ sql ++ ")"

def Value.renderAll (d : Dialect) : List Value → Except Error (List String)
  | [] => .ok []
  | v :: rest => do
    let sql ← v.render d
    let sqls ← Value.renderAll d rest
    return sql :: sqls

def Operand.render (d : Dialect) (qualifier : Option String) : Operand → Except Error String
  | .column name => .ok (Operand.columnSql d qualifier name)
  | .value v => v.render d
  | .raw sql => .ok sql

def Operand.renderAll (d : Dialect) (qualifier : Option String) : List Operand → Except Error (List String)
  | [] => .ok []
  | o :: rest => do
    let sql ← o.render d qualifier
    let sqls ← Operand.renderAll d qualifier rest
    return sql :: sqls

def ExpressionBody.render (d : Dialect) (qualifier : Option String) : ExpressionBody → Except Error String
  | .literal sql => .ok sql
  | .call function operands => do
    let args ← Operand.renderAll d qualifier operands
    return function ++ "(" ++ Text.join ", " args ++ ")"

/-- The expression's own qualifier counts before the default one. -/
def Expression.render (d : Dialect) (byDefault : Option String) : Expression → Except Error String
  | ⟨body, label, qualifier⟩ => do
    let sql ← body.render d (qualifier <|> byDefault)
    return withAlias sql label

def Predicate.render (d : Dialect) : Predicate → Except Error String
  | ⟨template, values⟩ => do
    let sqls ← Value.renderAll d values
    return String.ofList (Chars.fill template.toList sqls)

/-- A condition behind its joiner, which the first one in a group goes without. -/
def Condition.render (d : Dialect) (isFirst : Bool) : Condition → Except Error String
  | .leaf conjunction p => do
    let sql ← p.render d
    return (if isFirst then "" else conjunction.joiner) ++ "(" ++ sql ++ ")"
  | .group conjunction members => do
    let sql ← Condition.renderAll d true members
    return (if isFirst then "" else conjunction.joiner) ++ "(" ++ sql ++ ")"

def Condition.renderAll (d : Dialect) (isFirst : Bool) : List Condition → Except Error String
  | [] => .ok ""
  | c :: rest => do
    let sql ← c.render d isFirst
    let sqls ← Condition.renderAll d false rest
    return sql ++ sqls

/-- None when the clause holds no predicate. -/
def WhereClause.render (d : Dialect) : WhereClause → Except Error (Option String)
  | ⟨conditions, opened, fault⟩ => do
    refuse fault
    refuseOpen opened
    let sql ← Condition.renderAll d true conditions
    return if conditions.isEmpty then none else some sql

def TableSource.render (d : Dialect) : TableSource → Except Error String
  | .name name => .ok (d.quoteTable name)
  | .select s => do
    let sql ← s.render d
    return "(" ++ sql ++ ")"
  | .expr e => do
    let sql ← e.render d none
    return "(" ++ sql ++ ")"

def TableRef.render (d : Dialect) : TableRef → Except Error String
  | ⟨source, aliasName⟩ => do
    let sql ← source.render d
    return withAlias sql aliasName

def TableRef.renderAll (d : Dialect) : List TableRef → Except Error (List String)
  | [] => .ok []
  | t :: rest => do
    let sql ← t.render d
    let sqls ← TableRef.renderAll d rest
    return sql :: sqls

def Join.render (d : Dialect) : Join → Except Error String
  | ⟨type, table, condition⟩ => do
    let sql ← table.render d
    return type.keyword ++ " " ++ sql ++ (if condition.isEmpty then "" else " ON " ++ condition)

def Join.renderAll (d : Dialect) : List Join → Except Error (List String)
  | [] => .ok []
  | j :: rest => do
    let sql ← j.render d
    let sqls ← Join.renderAll d rest
    return sql :: sqls

/-- All joins, a space between them. -/
def JoinList.render (d : Dialect) : JoinList → Except Error String
  | ⟨_, joins, fault⟩ => do
    refuse fault
    let sqls ← Join.renderAll d joins
    return Text.join " " sqls

def FieldTerm.render (d : Dialect) (sc : Scope) (qualifier : Option String) : FieldTerm → Except Error String
  | .raw sql => .ok sql
  | .expr e => e.render d qualifier
  | .column name label => .ok (withAlias (sc.column d qualifier name) label)

def Field.render (d : Dialect) (sc : Scope) : Field → Except Error String
  | ⟨qualifier, term⟩ => term.render d sc (sc.qualifierOf ⟨qualifier, term⟩)

def Field.renderAll (d : Dialect) (sc : Scope) : List Field → Except Error (List String)
  | [] => .ok []
  | f :: rest => do
    let sql ← f.render d sc
    let sqls ← Field.renderAll d sc rest
    return sql :: sqls

def Predicate.renderOption (d : Dialect) : Option Predicate → Except Error (Option String)
  | none => .ok none
  | some p => do
    let sql ← p.render d
    return some sql

def Select.render (d : Dialect) : Select → Except Error String
  | ⟨tables, fields, joins, conditions, groupBy, having, orderBy, limit, fault⟩ => do
    let sc := Select.scope ⟨tables, fields, joins, conditions, groupBy, having, orderBy, limit, fault⟩
    refuse (fault <|> conditions.fault <|> joins.fault)
    if tables.isEmpty then .error (.builder .selectNeedsTable)
    let fieldSqls ← Field.renderAll d sc fields
    let tableSqls ← TableRef.renderAll d tables
    let joinSql ← joins.render d
    let whereSql ← conditions.render d
    let havingSql ← Predicate.renderOption d having
    let projection :=
      if fields.isEmpty then
        match sc.leading with
        | some a => a ++ ".*"
        | none => "*"
      else Text.join ", " fieldSqls
    return "SELECT " ++ projection ++ " FROM " ++ Text.join ", " tableSqls ++
      (if joinSql.isEmpty then "" else " " ++ joinSql) ++
      clause "WHERE" whereSql.toList ++
      clause "GROUP BY" (groupBy.map (sc.groupTerm d)) ++
      clause "HAVING" havingSql.toList ++
      clause "ORDER BY" (orderBy.map (sc.orderTerm d)) ++
      limitClause limit

end

/-! ## Statements that change tables -/

def Value.renderRows (d : Dialect) : List (List Value) → Except Error (List String)
  | [] => .ok []
  | row :: rest => do
    let sqls ← Value.renderAll d row
    let rows ← Value.renderRows d rest
    return ("(" ++ Text.join ", " sqls ++ ")") :: rows

def Insert.render (d : Dialect) (s : Insert) : Except Error String := do
  refuse s.fault
  if s.rows.isEmpty then .error (.builder .insertNeedsRows)
  let groups ← Value.renderRows d s.rows
  let duplicate := match s.onDuplicate with
    | some sql => " ON DUPLICATE KEY UPDATE " ++ sql
    | none => ""
  return "INSERT INTO " ++ d.quoteTable s.table ++ " (" ++ Text.join ", " (s.columns.map d.quoteIdentifier) ++
    ") VALUES " ++ Text.join ", " groups ++ duplicate

def Assignment.render (d : Dialect) : Assignment → Except Error String
  | .value v => v.render d
  | .raw sql => .ok sql

def Assignment.renderAll (d : Dialect) : List (String × Assignment) → Except Error (List String)
  | [] => .ok []
  | (column, a) :: rest => do
    let sql ← a.render d
    let sqls ← Assignment.renderAll d rest
    return (d.quoteIdentifier column ++ " = " ++ sql) :: sqls

def Update.render (d : Dialect) (s : Update) : Except Error String := do
  refuse s.firstFault
  match s.table with
  | none => .error (.builder .updateNeedsTable)
  | some table =>
    if s.fields.isEmpty then .error (.builder .updateNeedsFields)
    let sets ← Assignment.renderAll d s.fields
    let tableSql ← table.render d
    let joinSql ← s.joins.render d
    let whereSql ← s.conditions.render d
    return "UPDATE " ++ tableSql ++ " SET " ++ Text.join ", " sets ++
      (if joinSql.isEmpty then "" else " " ++ joinSql) ++ clause "WHERE" whereSql.toList

def Delete.render (d : Dialect) (s : Delete) : Except Error String := do
  refuse s.firstFault
  if s.truncates then return "TRUNCATE " ++ d.quoteTable s.table
  else
    let whereSql ← s.conditions.render d
    return "DELETE FROM " ++ d.quoteTable s.table ++ clause "WHERE" whereSql.toList

def Statement.render (d : Dialect) : Statement → Except Error String
  | .select s => s.render d
  | .insert s => s.render d
  | .update s => s.render d
  | .delete s => s.render d

end SqlComposer
