/-
  SqlComposer.Json.Printer — compact JSON text.

  No blanks are written. In strings the quote, the backslash and the controls below
  space are escaped, five of them by a letter and the rest by four hexadecimal digits;
  all other characters stand for themselves. Doubles are in shortest digits, ties going
  to the even one, always with a point or an exponent: positional when the decimal point
  falls from five places before the first digit to sixteen behind it, and otherwise
  scientific, the exponent with its sign.
-/

import SqlComposer.Number.Decimal
import SqlComposer.Json.Value

namespace SqlComposer

namespace Json

/-! ## Strings -/

def hexDigits (n : Nat) : List Char := [Nat.digitChar (n / 16), Nat.digitChar (n % 16)]

def escapeChar : Char → List Char
  | '"' => ['\\', '"']
  | '\\' => ['\\', '\\']
  | '\x08' => ['\\', 'b']
  | '\t' => ['\\', 't']
  | '\n' => ['\\', 'n']
  | '\x0c' => ['\\', 'f']
  | '\r' => ['\\', 'r']
  | c => if c.toNat < 0x20 then ['\\', 'u', '0', '0'] ++ hexDigits c.toNat else [c]

def quote (s : String) : String := String.ofList ('"' :: s.toList.flatMap escapeChar ++ ['"'])

/-! ## Doubles -/

/-- An exponent, which always has a sign. -/
def exponentChars (e : Int) : List Char := (if 0 ≤ e then '+' else '-') :: Decimal.digitChars e.natAbs

/-- The shortest digits of a magnitude, with a point or an exponent. -/
def magnitude (d : Decimal) : List Char :=
  let ds := Decimal.digitChars d.digits
  let point := ds.length + d.exponent
  if 0 ≤ d.exponent && point ≤ 16 then d.positional ++ ['.', '0']
  else if -5 < point && point ≤ 16 then d.positional
  else
    let lead := match ds with
      | [] => []
      | [c] => [c]
      | c :: cs => c :: '.' :: cs
    lead ++ 'e' :: exponentChars (point - 1)

/-- An infinity or a NaN has no number in JSON and is written as null. -/
def doubleText (x : Float) : String :=
  match Binary.ofFloat x with
  | none => "null"
  | some b => String.ofList ((if Number.isNegative x then ['-'] else []) ++ magnitude (Decimal.shortest .even b))

/-! ## Values -/

mutual

def print : Json → String
  | .null => "null"
  | .bool true => "true"
  | .bool false => "false"
  | .integer n => toString n
  | .float x => doubleText x
  | .string s => quote s
  | .array items => "[" ++ ",".intercalate (printItems items) ++ "]"
  | .object members => "\x7b" ++ ",".intercalate (printMembers members) ++ "\x7d"

def printItems : List Json → List String
  | [] => []
  | item :: rest => print item :: printItems rest

def printMembers : List (String × Json) → List String
  | [] => []
  | (key, value) :: rest => (quote key ++ ":" ++ print value) :: printMembers rest

end

end Json

end SqlComposer
