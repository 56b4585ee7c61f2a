/-
  SqlComposer.Compose.Update — the calls that build an UPDATE.
-/

import SqlComposer.Compose.Condition
import SqlComposer.Compose.Insert
import SqlComposer.Compose.Join

namespace SqlComposer

namespace Update

/-- An UPDATE of a table given as text, which may name an alias. -/
def of (table : String) : Update :=
  match TableRef.parse table with
  | .ok t => ⟨some t, [], .empty .update, .empty, none⟩
  | .error f => ⟨none, [], .empty .update, .empty, some f⟩

def set (column : String) (v : Value) (s : Update) : Update :=
  { s with fields := s.fields ++ [(Text.trim column, .value v)] }

/-- Sets a column to SQL as it stands. -/
def setRaw (column sql : String) (s : Update) : Update :=
  { s with fields := s.fields ++ [(Text.trim column, .raw sql)] }

def values (row : Record) (s : Update) : Update := row.foldl (fun s (column, v) => s.set column v) s

def join (c : JoinCall) (s : Update) : Update := { s with joins := s.joins.apply c }

def restrict (c : WhereCall) (s : Update) : Update := { s with conditions := s.conditions.apply c }

end Update

/-- A call on an UPDATE. -/
inductive UpdateCall where
  | set (column : String) (v : Value)
  | setRaw (column sql : String)
  | values (row : Record)
  | join (call : JoinCall)
  | restrict (call : WhereCall)

def Update.apply (s : Update) : UpdateCall → Update
  | .set column v => s.set column v
  | .setRaw column sql => s.setRaw column sql
  | .values row => s.values row
  | .join c => s.join c
  | .restrict c => s.restrict c

end SqlComposer
