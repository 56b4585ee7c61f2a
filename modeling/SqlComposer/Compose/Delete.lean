/-
  SqlComposer.Compose.Delete — the calls that build a DELETE or a TRUNCATE. A TRUNCATE
  takes no predicates: any call that would add one is its fault and changes nothing else.
-/

import SqlComposer.Compose.Condition
import SqlComposer.Syntax.Statement

namespace SqlComposer

namespace Delete

def withFault (s : Delete) (f : BuildFault) : Delete := { s with fault := s.fault <|> some f }

def start (truncates : Bool) (table : String) : Delete :=
  let table := Text.trim table
  let kind := if truncates then StatementKind.truncate else .delete
  ⟨table, truncates, .empty, if table.isEmpty then some (.emptyTarget kind) else none⟩

def of (table : String) : Delete := start false table

def truncationOf (table : String) : Delete := start true table

def restrict (c : WhereCall) (s : Delete) : Delete :=
  if s.truncates then s.withFault .whereOnTruncate else { s with conditions := s.conditions.apply c }

end Delete

end SqlComposer
