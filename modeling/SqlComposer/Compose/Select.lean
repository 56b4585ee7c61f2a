/-
  SqlComposer.Compose.Select — the calls that build a SELECT.

  (1) fields: a term that calls a function is kept as it is; any other is a column,
      with its qualifier and its output label;
  (2) FROM: in a list of several tables those without an alias get the letter of their
      position;
  (3) ORDER BY: a term may end in a direction of its own.
  The first wrong call is recorded.
-/

import SqlComposer.Compose.Condition
import SqlComposer.Compose.Expression
import SqlComposer.Compose.Join
import SqlComposer.Ident
import SqlComposer.Syntax.Vocabulary
import SqlComposer.Text.Call
import SqlComposer.Text.CommaList

namespace SqlComposer

namespace Chars

/-! ## Reading terms -/

/-- The label in a text that is the word AS between white space, and then one word to its end. -/
def labelOf (cs : List Char) : Option (List Char) :=
  if cs.head?.any isBlank then
    (stripAs (trimStart cs)).filter fun label => !label.isEmpty && !label.any isBlank
  else none

/-- The column and the label of a labelled column: the shortest text of at least one character, on
    one line, that a label follows. `before` holds the characters in front of `cs`, last first. -/
def labelled (before : List Char) : List Char → Option (List Char × List Char)
  | [] => none
  | c :: cs =>
    match before.isEmpty, labelOf (c :: cs) with
    | false, some label => some (before.reverse, label)
    | _, _ => if c == '\n' then none else labelled (c :: before) cs

end Chars

/-- One term of a field list. -/
def Field.parse (term : String) : Field :=
  if Text.hasCall term then ⟨none, .raw term⟩
  else
    let (column, label) := match Chars.labelled [] term.toList with
      | some (column, label) => (String.ofList (Chars.trim column), some (String.ofList label))
      | none => (term, none)
    match (Ident.parse column).parts with
    | [qualifier, name] => ⟨some qualifier, .column name label⟩
    | _ => ⟨none, .column column label⟩

/-- Gives a column field the qualifier; other fields stay. -/
def Field.under (qualifier : String) (f : Field) : Field :=
  match f.term with
  | .column _ _ => { f with qualifier := some qualifier }
  | _ => f

/-! ## FROM -/

namespace TableRef

/-- The letters tables without an alias get, by position. -/
def letters : List Char := "abcdefghijklmnopqrstuvwxyz".toList

/-- The tables of a list, the first of these at `position`; in a list of `count` > 1 tables each
    gets an alias. -/
def parseList (count position : Nat) : List String → Except BuildFault (List TableRef)
  | [] => .ok []
  | term :: rest => do
    let table ← parse term
    let table ← if 1 < count && table.aliasName.isNone then
        match letters[position]? with
        | some letter => .ok { table with aliasName := some letter.toString }
        | none => .error (.tooManyTables count)
      else .ok table
    let tables ← parseList count (position + 1) rest
    return table :: tables

end TableRef

/-! ## Calls -/

namespace Select

def withFault (s : Select) (f : BuildFault) : Select := { s with fault := s.fault <|> some f }

/-- Replaces the tables by those of a comma-separated list. -/
def table (spec : String) (s : Select) : Select :=
  let terms := Text.commaList spec
  if terms.isEmpty then s.withFault .emptyTableList
  else
    match TableRef.parseList terms.length 0 terms with
    | .ok tables => { s with tables }
    | .error f => s.withFault f

/-- Replaces the tables by pairs of an alias and a name. -/
def tableAliases (pairs : List (String × String)) (s : Select) : Select :=
  let s := { s with tables := pairs.map fun (aliasName, name) => TableRef.aliased name aliasName }
  if pairs.isEmpty then s.withFault .emptyTableMap else s

/-- Replaces the tables by a sub-select. -/
def tableSelect (s sub : Select) (aliasName : String) : Select :=
  { s with tables := [TableRef.subselect sub aliasName] }

def addTable (table : TableRef) (s : Select) : Select := { s with tables := s.tables ++ [table] }

/-- Replaces the fields by those of a comma-separated list. -/
def setFields (spec : String) (s : Select) : Select :=
  { s with fields := (Text.commaList spec).map Field.parse }

/-- Appends columns of one table. -/
def aliasFields (aliasName : String) (columns : List String) (s : Select) : Select :=
  { s with fields := s.fields ++ columns.map fun c => (Field.parse c).under aliasName }

def fieldExpr (e : Expression) (s : Select) : Select := { s with fields := s.fields ++ [⟨none, .expr e⟩] }

def join (c : JoinCall) (s : Select) : Select := { s with joins := s.joins.apply c }

def restrict (c : WhereCall) (s : Select) : Select := { s with conditions := s.conditions.apply c }

/-- Replaces the GROUP BY terms. -/
def setGroupBy (spec : String) (s : Select) : Select := { s with groupBy := Text.commaList spec }

/-- Replaces the HAVING predicate. -/
def setHaving (template : String) (values : List Value) (s : Select) : Select :=
  match Predicate.make template values with
  | .ok p => { s with having := some p }
  | .error f => s.withFault f

/-- A term and its direction: its last word when that is one, else `order` for a term that is one
    word or calls a function. -/
def orderTerm (order : Order) (term : String) : Except BuildFault (String × Order) :=
  match Chars.splitLast isBlank term.toList with
  | none => .ok (term, order)
  | some (column, word) =>
    match Order.ofText (String.ofList word) with
    | .ok direction => .ok (String.ofList (Chars.trim column), direction)
    | .error f => if Text.hasCall term then .ok (term, order) else .error (.named f)

/-- Appends terms up to the first wrong one. -/
def appendOrder (order : Order) (s : Select) : List String → Select
  | [] => s
  | term :: rest =>
    match orderTerm order term with
    | .ok t => appendOrder order { s with orderBy := s.orderBy ++ [t] } rest
    | .error f => s.withFault f

/-- Appends the ORDER BY terms of a comma-separated list. -/
def orderedBy (spec : String) (order : Order) (s : Select) : Select := s.appendOrder order (Text.commaList spec)

def setLimit (count : UInt64) (offset : Option UInt64) (s : Select) : Select :=
  { s with limit := some (count, offset) }

end Select

/-- A call on a SELECT. -/
inductive SelectCall where
  | table (spec : String)
  | tableAliases (pairs : List (String × String))
  | tableSelect (s : Select) (aliasName : String)
  | addTable (table : TableRef)
  | fields (spec : String)
  | aliasFields (aliasName : String) (columns : List String)
  | fieldExpr (e : Expression)
  | join (call : JoinCall)
  | restrict (call : WhereCall)
  | groupBy (spec : String)
  | having (template : String) (values : List Value)
  | orderBy (spec : String) (order : Order)
  | limit (count : UInt64) (offset : Option UInt64)

def Select.apply (s : Select) : SelectCall → Select
  | .table spec => s.table spec
  | .tableAliases pairs => s.tableAliases pairs
  | .tableSelect sub aliasName => s.tableSelect sub aliasName
  | .addTable t => s.addTable t
  | .fields spec => s.setFields spec
  | .aliasFields aliasName columns => s.aliasFields aliasName columns
  | .fieldExpr e => s.fieldExpr e
  | .join c => s.join c
  | .restrict c => s.restrict c
  | .groupBy spec => s.setGroupBy spec
  | .having template values => s.setHaving template values
  | .orderBy spec order => s.orderedBy spec order
  | .limit count offset => s.setLimit count offset

end SqlComposer
