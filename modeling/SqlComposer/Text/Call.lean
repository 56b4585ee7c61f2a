/-
  SqlComposer.Text.Call — texts that call a function.
-/

import SqlComposer.Text.Blank
import SqlComposer.Text.Word

namespace SqlComposer

/-- A word followed by an opening parenthesis, white space between them or not, anywhere in `cs`;
    `behindWord` says that a word and then only white space stood before `cs`. -/
def Chars.hasCall (behindWord : Bool) : List Char → Bool
  | [] => false
  | c :: cs =>
    if behindWord && c == '(' then true
    else hasCall (isWordChar c || (behindWord && isBlank c)) cs

/-- `true` for texts such as `COUNT(*)`, which are kept as they are. -/
def Text.hasCall (s : String) : Bool := Chars.hasCall false s.toList

end SqlComposer
