/-
  SqlComposer.Error.Build — why a statement cannot be built.

  A builder call that is wrong records one of these; rendering a statement that has
  recorded one fails with it.
-/

import SqlComposer.Json.Printer
import SqlComposer.Syntax.Keyword
import SqlComposer.Text.Blank

namespace SqlComposer

inductive BuildFault where
  /-- A free text, for faults that come from outside the library. -/
  | said (text : String)
  /-- A fault recorded with the name of its kind in front. -/
  | named (fault : BuildFault)
  | unknownConjunction (word : String)
  | unknownJoinType (word : String)
  | unknownOrder (word : String)
  | emptyTableRef
  | malformedTableRef (spec : String)
  | emptyTableList
  | emptyTableMap
  | tooManyTables (count : Nat)
  | emptyTarget (kind : StatementKind)
  | placeholders (template : String) (marks values : Nat)
  | groupNotOpen
  | groupsLeftOpen (count : Nat)
  | joinsNotAllowed (kind : StatementKind)
  | joinNeedsCondition (type : JoinType)
  | whereOnTruncate
  | selectNeedsTable
  | updateNeedsTable
  | updateNeedsFields
  | insertNeedsRows
  | rowWithoutColumns (row : Nat)
  | rowColumnsDiffer (row : Nat) (columns first : List String)
  | rowNotObject (row : Nat)
  | valuesNotObjects
  | column (name : String) (fault : BuildFault)
  | nestedJson (value : Json)
  | emptyDuplicateClause
  | noActiveStatement (call : String)
  | unsupportedCall (call : String) (kind : StatementKind)
  | noStatement
  | badCharset (name : String)

namespace BuildFault

def kindName : String := "Builder error: "

def text : BuildFault → String
  | .said t => t
  | .named f => kindName ++ f.text
  | .unknownConjunction w => s!"group conjunction must be and|or, got '{w}'"
  | .unknownJoinType w => s!"unknown join type: {w}"
  | .unknownOrder w => s!"invalid sort direction: '{w}'"
  | .emptyTableRef => "table reference is empty"
  | .malformedTableRef spec =>
    s!"invalid table reference '{spec}'" ++ ": expected `table`, `table alias` or `table AS alias`"
  | .emptyTableList => "SELECT table is empty"
  | .emptyTableMap => "SELECT table map is empty"
  | .tooManyTables n => s!"too many tables to alias automatically ({n})"
  | .emptyTarget kind => s!"{kind.keyword} table is empty"
  | .placeholders template marks values =>
    s!"placeholder mismatch: template '{template}' has {marks} '?', but {values} values provided"
  | .groupNotOpen => "end_group called without a matching begin_group"
  | .groupsLeftOpen n => s!"{n} where group(s) left open"
  | .joinsNotAllowed kind => s!"joins are only allowed on SELECT and UPDATE statements, not {kind.keyword}"
  | .joinNeedsCondition type => s!"{type.keyword} requires an ON predicate"
  | .whereOnTruncate => "TRUNCATE does not accept a WHERE clause"
  | .selectNeedsTable => "SELECT requires a table"
  | .updateNeedsTable => "UPDATE requires a table"
  | .updateNeedsFields => "UPDATE SET clause cannot be empty"
  | .insertNeedsRows => "INSERT requires at least one row"
  | .rowWithoutColumns n => s!"INSERT row {n} has no columns"
  | .rowColumnsDiffer n columns first =>
    let given := Text.join ", " columns
    let expected := Text.join ", " first
    s!"INSERT row {n} columns ({given}) differ from the first row ({expected})"
  | .rowNotObject n => s!"INSERT row {n} is not an object"
  | .valuesNotObjects => "INSERT values must be an object or an array of objects"
  | .column name f => s!"column '{name}': {kindName}{f.text}"
  | .nestedJson value => s!"cannot bind a nested JSON value: {value.print}"
  | .emptyDuplicateClause => "ON DUPLICATE KEY UPDATE clause is empty"
  | .noActiveStatement call => s!"`{call}` called with no active statement"
  | .unsupportedCall call kind => s!"`{call}` is not supported on {kind.keyword} statements"
  | .noStatement => "No statement set"
  | .badCharset name => s!"invalid charset name: '{name}'"

end BuildFault

end SqlComposer
