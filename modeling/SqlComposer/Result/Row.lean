/-
  SqlComposer.Result.Row — result rows and what a statement answers.

  Every cell arrives as text or as NULL, and typed access reads it on demand. Columns
  keep the order of the result; a name that occurs twice means its first column.
-/

import SqlComposer.Error
import SqlComposer.Json.Printer
import SqlComposer.Result.Scalar

namespace SqlComposer

/-- One result row: each column's name and its text, none for NULL. -/
structure Row where
  cells : List (String × Option String)
  deriving DecidableEq, Repr

namespace Row

/-- Each column with its value; values that are missing are NULL and further ones are dropped. -/
def ofColumns : List String → List (Option String) → Row
  | [], _ => ⟨[]⟩
  | c :: columns, [] => ⟨(c, none) :: (ofColumns columns []).cells⟩
  | c :: columns, v :: values => ⟨(c, v) :: (ofColumns columns values).cells⟩

def columns (r : Row) : List String := r.cells.map (·.1)

def size (r : Row) : Nat := r.cells.length

def isEmpty (r : Row) : Bool := r.cells.isEmpty

/-- The cell of a column; none when the row lacks it. -/
def cell? (r : Row) (column : String) : Option (Option String) :=
  (r.cells.find? fun (c, _) => c == column).map (·.2)

/-- The text of a column; none when it is NULL or missing. -/
def get? (r : Row) (column : String) : Option String := (r.cell? column).join

/-- The text at a position; none when it is NULL or beyond the row. -/
def at? (r : Row) (position : Nat) : Option String := r.cells[position]?.bind (·.2)

/-- Reads a column as a type, with NULL as none. -/
def readOption (r : Row) (t : ScalarType) (column : String) : Except Error (Option Scalar) :=
  match r.cell? column with
  | none => .error (.decode column .missingColumn)
  | some none => .ok none
  | some (some s) =>
    match t.read s with
    | .ok v => .ok (some v)
    | .error f => .error (.decode column (.unreadable s f))

/-- Reads a column as a type; NULL is a fault. -/
def read (r : Row) (t : ScalarType) (column : String) : Except Error Scalar := do
  match ← r.readOption t column with
  | some v => .ok v
  | none => .error (.decode column .unexpectedNull)

/-- One JSON object, its members in column order. -/
def json (r : Row) : String :=
  (Json.object (r.cells.map fun (c, v) => (c, (v.map Json.string).getD .null))).print

end Row

/-! ## Outcomes -/

/-- What a statement answers: how many rows it changed, or the rows of its result. -/
inductive Outcome where
  | affected (count : UInt64)
  | rows (rows : List Row)
  deriving DecidableEq, Repr

namespace Outcome

/-- Changed rows, or the number of rows in the result. -/
def count : Outcome → Nat
  | .affected n => n.toNat
  | .rows rs => rs.length

/-- The rows of the result, none for a count. -/
def toRows : Outcome → List Row
  | .affected _ => []
  | .rows rs => rs

def text : Outcome → String
  | .affected n => s!"{n.toNat} row(s) affected"
  | .rows rs => s!"{rs.length} row(s) returned"

end Outcome

end SqlComposer
