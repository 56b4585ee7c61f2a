/-
  SqlComposer.Compose.Table — table references and how they are read from text.

  A text names a table, a table and its alias, or a table and its alias with the word
  AS between them, in any letter case. The alias is made of letters, digits and
  underscores and does not begin with a digit. Letters are compared without regard to
  case as Unicode folds it, so the long s and the Kelvin sign count as s and k.
-/

import SqlComposer.Syntax.Tree

namespace SqlComposer

namespace Chars

/-! ## Letters and words -/

/-- The letters a to z in either case, and the two further characters that fold to one of them. -/
def isFoldedLetter (c : Char) : Bool := c.isAlpha || c == '\u017f' || c == '\u212a'

def foldsToA (c : Char) : Bool := c == 'a' || c == 'A'

def foldsToS (c : Char) : Bool := c == 's' || c == 'S' || c == '\u017f'

/-- What follows the word AS and the white space behind it. -/
def stripAs : List Char → Option (List Char)
  | a :: s :: rest =>
    if foldsToA a && foldsToS s && (rest.head?.any isBlank) then some (trimStart rest) else none
  | _ => none

/-- A letter or an underscore, then letters, digits and underscores. -/
def isIdentifier : List Char → Bool
  | [] => false
  | c :: cs => (isFoldedLetter c || c == '_') && cs.all fun c => isFoldedLetter c || c.isDigit || c == '_'

end Chars

namespace TableRef

/-! ## Forms -/

def named (name : String) : TableRef := ⟨.name (Text.trim name), none⟩

def aliased (name aliasName : String) : TableRef := ⟨.name (Text.trim name), some (Text.trim aliasName)⟩

/-- A sub-select in the place of a table. -/
def subselect (s : Select) (aliasName : String) : TableRef := ⟨.select s, some (Text.trim aliasName)⟩

/-- An expression in the place of a table. -/
def expression (e : Expression) (aliasName : String) : TableRef := ⟨.expr e, some (Text.trim aliasName)⟩

/-! ## Reading -/

/-- The alias in what follows the table's name: an identifier, the word AS before it or not. -/
def readAlias (cs : List Char) : Option (List Char) :=
  match (Chars.stripAs cs).filter Chars.isIdentifier with
  | some name => some name
  | none => if Chars.isIdentifier cs then some cs else none

def parse (spec : String) : Except BuildFault TableRef :=
  let cs := Chars.trim spec.toList
  let (name, rest) := Chars.takeWord cs
  if cs.isEmpty then .error .emptyTableRef
  else if rest.isEmpty then .ok (named (String.ofList name))
  else
    match readAlias (Chars.trimStart rest) with
    | some a => .ok (aliased (String.ofList name) (String.ofList a))
    | none => .error (.malformedTableRef (String.ofList cs))

end TableRef

end SqlComposer
