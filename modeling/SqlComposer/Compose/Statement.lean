/-
  SqlComposer.Compose.Statement — statements begun by kind and table, and calls on them.

  A call on a statement names the call of its kind; a call of another kind leaves the
  statement as it is.
-/

import SqlComposer.Compose.Delete
import SqlComposer.Compose.Select
import SqlComposer.Compose.Update

namespace SqlComposer

/-- A statement of this kind on the table or tables of `spec`. -/
def Statement.start (kind : StatementKind) (spec : String) : Statement :=
  match kind with
  | .select => .select (Select.empty.table spec)
  | .insert => .insert (.into spec)
  | .update => .update (.of spec)
  | .delete => .delete (.of spec)
  | .truncate => .delete (.truncationOf spec)

/-- A call on a statement of any kind. -/
inductive StatementCall where
  | select (call : SelectCall)
  | insert (call : InsertCall)
  | update (call : UpdateCall)
  | delete (call : WhereCall)

def Statement.apply : Statement → StatementCall → Statement
  | .select s, .select c => .select (s.apply c)
  | .insert s, .insert c => .insert (s.apply c)
  | .update s, .update c => .update (s.apply c)
  | .delete s, .delete c => .delete (s.restrict c)
  | s, _ => s

end SqlComposer
