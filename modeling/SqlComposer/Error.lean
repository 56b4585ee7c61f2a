/-
  SqlComposer.Error — every way this library fails, by kind and cause.

  `message` is the text of the cause; `display` puts the kind's name in front of it.
-/

import SqlComposer.Error.Build
import SqlComposer.Error.Cell
import SqlComposer.Error.Config
import SqlComposer.Error.Connection

namespace SqlComposer

inductive Error where
  | config (fault : ConfigFault)
  | connection (fault : ConnectionFault)
  | builder (fault : BuildFault)
  | execution (text : String)
  | decode (column : String) (fault : CellFault)
  | io (text : String)

namespace Error

/-- The fault of a file that is not there. -/
def noFile : Error := .io "No such file or directory (os error 2)"

/-- The text of the cause, without the kind's name. -/
def message : Error → String
  | .config f => f.text
  | .connection f => f.text
  | .builder f => f.text
  | .execution t => t
  | .decode column f => s!"{column}: {f.text}"
  | .io t => t

/-- The cause behind the name of its kind. -/
def display : Error → String
  | .config f => s!"Config error: {f.text}"
  | .connection f => s!"Connection error: {f.text}"
  | .builder f => BuildFault.kindName ++ f.text
  | .execution t => s!"Execution error: {t}"
  | .decode column f => s!"Decode error on column '{column}'" ++ ": " ++ f.text
  | .io t => s!"I/O error: {t}"

end Error

end SqlComposer
