/-
  SqlComposer.Session.Call — the calls a session passes on to its statement.

  A call is one of a builder's own calls wherever the statement's kind has it; joins go
  by one name whatever their type.
-/

import SqlComposer.Compose.Statement

namespace SqlComposer

inductive SessionCall where
  | table (spec : String)
  | fields (spec : String)
  | fieldExpr (e : Expression)
  | values (row : Record)
  | rows (rows : List Record)
  | set (column : String) (v : Value)
  | onDuplicateKey (sql : String)
  | restrict (conjunction : Conjunction) (template : String) (values : List Value)
  | beginGroup
  | endGroup (conjunction : Conjunction)
  | join (table condition : String) (type : JoinType)
  | groupBy (spec : String)
  | orderBy (spec : String) (order : Order)
  | having (template : String) (values : List Value)
  | limit (count : UInt64) (offset : Option UInt64)

namespace SessionCall

/-- The name a fault calls it by. -/
def name : SessionCall → String
  | .table _ => "table"
  | .fields _ => "fields"
  | .fieldExpr _ => "field_expr"
  | .values _ => "values"
  | .rows _ => "rows"
  | .set _ _ => "set"
  | .onDuplicateKey _ => "on_duplicate_key"
  | .restrict .and _ _ => "and_where"
  | .restrict .or _ _ => "or_where"
  | .beginGroup => "begin_group"
  | .endGroup _ => "end_group"
  | .join _ _ _ => "join"
  | .groupBy _ => "group_by"
  | .orderBy _ _ => "order_by"
  | .having _ _ => "having"
  | .limit _ _ => "limit"

/-- The call on a WHERE clause it makes, if it makes one. -/
def restriction : SessionCall → Option WhereCall
  | .restrict conjunction template args => some (.push conjunction template args)
  | .beginGroup => some .beginGroup
  | .endGroup conjunction => some (.endGroup conjunction)
  | _ => none

def onSelect : SessionCall → Option SelectCall
  | .table spec => some (.table spec)
  | .fields spec => some (.fields spec)
  | .fieldExpr e => some (.fieldExpr e)
  | .join target condition type => some (.join (.spec target condition type))
  | .groupBy spec => some (.groupBy spec)
  | .orderBy spec order => some (.orderBy spec order)
  | .having template args => some (.having template args)
  | .limit count offset => some (.limit count offset)
  | c => c.restriction.map .restrict

def onInsert : SessionCall → Option InsertCall
  | .values row => some (.values row)
  | .rows records => some (.rows records)
  | .onDuplicateKey sql => some (.onDuplicateKey sql)
  | _ => none

def onUpdate : SessionCall → Option UpdateCall
  | .values row => some (.values row)
  | .set column v => some (.set column v)
  | .join target condition type => some (.join (.spec target condition type))
  | c => c.restriction.map .restrict

/-- The call on a statement of a kind; none when the kind does not have it. -/
def onKind (kind : StatementKind) (c : SessionCall) : Option StatementCall :=
  match kind with
  | .select => c.onSelect.map .select
  | .insert => c.onInsert.map .insert
  | .update => c.onUpdate.map .update
  | .delete | .truncate => c.restriction.map .delete

/-- Why a call is refused on a statement of a kind. -/
def refusal (kind : StatementKind) : SessionCall → BuildFault
  | .join _ _ _ => .joinsNotAllowed kind
  | c => .unsupportedCall c.name kind

end SessionCall

end SqlComposer
