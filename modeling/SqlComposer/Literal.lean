/-
  SqlComposer.Literal — bodies of string literals, escaped as each engine's client
  library does it. The quotes around a body are the caller's.
-/

import SqlComposer.Engine

namespace SqlComposer

namespace Literal

/-- Quotes and backslashes behind a backslash, and letters for the controls a client would cut or
    misread. -/
def mysqlChar : Char → List Char
  | '\x00' => ['\\', '0']
  | '\n' => ['\\', 'n']
  | '\r' => ['\\', 'r']
  | '\\' => ['\\', '\\']
  | '\'' => ['\\', '\'']
  | '"' => ['\\', '"']
  | '\x1a' => ['\\', 'Z']
  | c => [c]

/-- Single quotes and backslashes twice; NUL has no place in a text value and is dropped. -/
def postgresChar : Char → List Char
  | '\'' => ['\'', '\'']
  | '\\' => ['\\', '\\']
  | '\x00' => []
  | c => [c]

def mysql (s : String) : String := String.ofList (s.toList.flatMap mysqlChar)

def postgres (s : String) : String := String.ofList (s.toList.flatMap postgresChar)

/-- A value with a backslash must stand in a literal that reads backslash escapes. -/
def needsEscapeMark (s : String) : Bool := s.toList.contains '\\'

end Literal

/-- The body of the literal for `s`. -/
def Engine.escape : Engine → String → String
  | .mysql => Literal.mysql
  | .postgres => Literal.postgres

end SqlComposer
