/-
  SqlComposer.Error.Cell — why a cell of a result row cannot be read as a type.
-/

import SqlComposer.Number.Decimal
import SqlComposer.Number.Integer

namespace SqlComposer

/-- Why a text is no value of a type. -/
inductive ReadFault where
  | integer (fault : IntegerFault)
  | float (fault : Decimal.Fault)
  | notBool
  | noChar
  | manyChars
  deriving DecidableEq, Repr

def ReadFault.text : ReadFault → String
  | .integer f => f.message
  | .float f => f.message
  | .notBool => "provided string was not `true` or `false`"
  | .noChar => "cannot parse char from empty string"
  | .manyChars => "too many characters in string"

inductive CellFault where
  /-- A free text, for faults that come from outside the library. -/
  | said (text : String)
  | missingColumn
  | unexpectedNull
  | unreadable (text : String) (fault : ReadFault)
  deriving DecidableEq, Repr

def CellFault.text : CellFault → String
  | .said t => t
  | .missingColumn => "no such column"
  | .unexpectedNull => "unexpected NULL"
  | .unreadable t fault => s!"cannot parse '{t}'" ++ ": " ++ fault.text

end SqlComposer
