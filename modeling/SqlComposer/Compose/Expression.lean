/-
  SqlComposer.Compose.Expression — function calls and verbatim fragments, built step by
  step, and values made from JSON.
-/

import SqlComposer.Syntax.Tree

namespace SqlComposer

namespace Expression

/-- A call without operands; the function's name is trimmed and put in upper case. -/
def call (function : String) : Expression := ⟨.call (Text.upper (Text.trim function)) [], none, none⟩

/-- SQL as it stands, where an expression is expected. -/
def literal (sql : String) : Expression := ⟨.literal sql, none, none⟩

/-- One more operand; a verbatim fragment takes none and stays as it is. -/
def operand (o : Operand) (e : Expression) : Expression :=
  match e.body with
  | .call function operands => { e with body := .call function (operands ++ [o]) }
  | .literal _ => e

def column (name : String) (e : Expression) : Expression := e.operand (.column name)

/-- A call on one column, such as `COUNT(*)`. -/
def ofColumn (function name : String) : Expression := (call function).column name

/-- Sets the output label. -/
def labelled (label : String) (e : Expression) : Expression := { e with label := some label }

/-- Sets the table alias of column operands without one. -/
def qualified (qualifier : String) (e : Expression) : Expression := { e with qualifier := some qualifier }

end Expression

namespace Value

def isNull : Value → Bool
  | .null => true
  | _ => false

/-- `true` for the values written without quotes as digits. -/
def isNumeric : Value → Bool
  | .int _ | .uint _ | .float _ => true
  | _ => false

/-- An integer as a signed word when one holds it, else as an unsigned word. -/
def ofInteger (n : Int) : Value :=
  if -Int.pow 2 63 ≤ n && n < Int.pow 2 63 then .int (Int64.ofInt n) else .uint (UInt64.ofNat n.toNat)

/-- A scalar; arrays and objects have no literal. -/
def ofJson : Json → Except BuildFault Value
  | .null => .ok .null
  | .bool b => .ok (.bool b)
  | .integer n => .ok (ofInteger n)
  | .float x => .ok (.float x)
  | .string s => .ok (.text s)
  | j => .error (.nestedJson j)

end Value

end SqlComposer
