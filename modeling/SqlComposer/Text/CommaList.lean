/-
  SqlComposer.Text.CommaList — comma-separated lists whose terms may hold commas.

  A comma ends a term only at depth zero: outside every parenthesis and outside every
  quotation. Single quotes, double quotes and backticks open a quotation, which the
  same character closes; inside one, parentheses mean nothing. A closing parenthesis
  without an opening one changes nothing. Terms are trimmed and blank ones dropped.
-/

import SqlComposer.Text.Blank

namespace SqlComposer

namespace CommaList

/-! ## Where a scan stands -/

/-- The open quotation, if any, and the number of open parentheses. -/
structure Depth where
  quote : Option Char := none
  parens : Nat := 0
  deriving DecidableEq, Repr

/-- `true` outside every quotation and parenthesis. -/
def Depth.isTop (d : Depth) : Bool := d.quote.isNone && d.parens == 0

/-- Where the scan stands behind `c`. -/
def Depth.after (d : Depth) (c : Char) : Depth :=
  match d.quote with
  | some q => if c == q then { d with quote := none } else d
  | none =>
    if c == '\'' || c == '"' || c == '\x60' then { d with quote := some c }
    else if c == '(' then { d with parens := d.parens + 1 }
    else if c == ')' then { d with parens := d.parens - 1 }
    else d

/-! ## Pieces -/

/-- The pieces between the commas that stand at depth zero, from depth `d` on. -/
def pieces (d : Depth) : List Char → List (List Char)
  | [] => [[]]
  | c :: cs =>
    if c == ',' && d.isTop then [] :: pieces d cs
    else
      match pieces (d.after c) cs with
      | [] => [[c]]
      | piece :: rest => (c :: piece) :: rest

end CommaList

/-- The terms of a comma-separated list, trimmed, without the blank ones. -/
def Text.commaList (s : String) : List String :=
  (((CommaList.pieces { } s.toList).map Chars.trim).filter (!·.isEmpty)).map String.ofList

end SqlComposer
