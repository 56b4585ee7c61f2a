/-
  SqlComposer.Settings.Environment — variables, and texts that refer to them.

  A reference is a dollar sign with a name in braces behind it. One pass from left to
  right puts values in the place of references; a value is not read again, and a dollar
  sign before anything else stands for itself.
-/

import SqlComposer.Error.Config

namespace SqlComposer

/-- What each variable is set to. -/
abbrev Environment := String → Option String

namespace Environment

/-- The value a reference stands for. -/
def value (env : Environment) (name : String) : Except ConfigFault String :=
  if name.isEmpty then .error .emptyVariable
  else
    match env name with
    | some v => .ok v
    | none => .error (.missingVariable name)

/-- The expansion of `cs`, where `name?` is what has been read of the name of a reference, inside
    of one. -/
def expandChars (env : Environment) (name? : Option (List Char)) (cs : List Char) : Except ConfigFault (List Char) :=
  match name?, cs with
  | none, [] => .ok []
  | none, '$' :: '\x7b' :: rest => expandChars env (some []) rest
  | none, c :: rest => (expandChars env none rest).map (c :: ·)
  | some name, [] => .error (.unterminatedVariable (String.ofList name))
  | some name, c :: rest =>
    if c == '\x7d' then do
      let v ← env.value (String.ofList name)
      (expandChars env none rest).map (v.toList ++ ·)
    else expandChars env (some (name ++ [c])) rest

/-- The text with the values of all variables it refers to. -/
def expand (env : Environment) (s : String) : Except ConfigFault String :=
  (expandChars env none s.toList).map String.ofList

end Environment

end SqlComposer
