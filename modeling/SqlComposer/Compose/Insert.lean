/-
  SqlComposer.Compose.Insert — the calls that build an INSERT.

  Every row names the columns of the first one, in the same order. A call that sets rows
  replaces those before it. The first wrong call is recorded.
-/

import SqlComposer.Compose.Expression
import SqlComposer.Syntax.Statement

namespace SqlComposer

/-- Columns and their values, in order. -/
abbrev Record := List (String × Value)

namespace Insert

def withFault (s : Insert) (f : BuildFault) : Insert := { s with fault := s.fault <|> some f }

def into (table : String) : Insert :=
  let table := Text.trim table
  ⟨table, [], [], none, if table.isEmpty then some (.emptyTarget .insert) else none⟩

/-- Appends a row; the first one gives the columns. -/
def addRow (row : Record) (s : Insert) : Insert :=
  let columns := row.map fun (c, _) => Text.trim c
  let values := row.map (·.2)
  let position := s.rows.length + 1
  if columns.isEmpty then s.withFault (.rowWithoutColumns position)
  else if s.rows.isEmpty then { s with columns, rows := [values] }
  else if columns != s.columns then s.withFault (.rowColumnsDiffer position columns s.columns)
  else { s with rows := s.rows ++ [values] }

def clear (s : Insert) : Insert := { s with columns := [], rows := [] }

/-- Replaces the rows by one. -/
def values (row : Record) (s : Insert) : Insert := s.clear.addRow row

/-- Replaces the rows by these, of which at least one must be good. -/
def setRows (rows : List Record) (s : Insert) : Insert :=
  let s := rows.foldl (fun s row => s.addRow row) s.clear
  if s.rows.isEmpty then s.withFault .insertNeedsRows else s

/-! ## Rows from JSON -/

/-- The members of the items, which must all be objects; `position` is that of the first. -/
def objects (position : Nat) : List Json → Except BuildFault (List (List (String × Json)))
  | [] => .ok []
  | .object members :: rest => (objects (position + 1) rest).map (members :: ·)
  | _ :: _ => .error (.rowNotObject position)

/-- One row, its columns in the order of the members. -/
def recordOf : List (String × Json) → Except BuildFault Record
  | [] => .ok []
  | (column, j) :: rest =>
    match Value.ofJson j with
    | .error f => .error (.column column f)
    | .ok v => (recordOf rest).map ((column, v) :: ·)

def recordsOf (j : Json) : Except BuildFault (List Record) := do
  let rows ← match j with
    | .object members => .ok [members]
    | .array items => objects 1 items
    | _ => .error .valuesNotObjects
  rows.mapM recordOf

/-- Replaces the rows by those of an object or of an array of objects. -/
def valuesJson (j : Json) (s : Insert) : Insert :=
  match recordsOf j with
  | .ok rows => s.setRows rows
  | .error f => s.withFault f

/-- Sets the clause for rows whose key is there already. -/
def onDuplicateKey (sql : String) (s : Insert) : Insert :=
  let sql := Text.trim sql
  if sql.isEmpty then s.withFault .emptyDuplicateClause else { s with onDuplicate := some sql }

end Insert

/-- A call on an INSERT. -/
inductive InsertCall where
  | values (row : Record)
  | rows (rows : List Record)
  | addRow (row : Record)
  | valuesJson (j : Json)
  | onDuplicateKey (sql : String)

def Insert.apply (s : Insert) : InsertCall → Insert
  | .values row => s.values row
  | .rows rows => s.setRows rows
  | .addRow row => s.addRow row
  | .valuesJson j => s.valuesJson j
  | .onDuplicateKey sql => s.onDuplicateKey sql

end SqlComposer
