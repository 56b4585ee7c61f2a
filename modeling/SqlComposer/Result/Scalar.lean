/-
  SqlComposer.Result.Scalar — the types a cell's text can be read as, and the values.
-/

import SqlComposer.Error.Cell

namespace SqlComposer

inductive ScalarType where
  | integer (range : IntegerRange)
  | float (format : BinaryFormat)
  | bool
  | char
  | text
  deriving DecidableEq, Repr

inductive Scalar where
  | integer (n : Int)
  | float (x : Float)
  | bool (b : Bool)
  | char (c : Char)
  | text (s : String)

/-- The value of a type that `s` spells. -/
def ScalarType.read (t : ScalarType) (s : String) : Except ReadFault Scalar :=
  match t with
  | .integer range => (Integer.read range s).mapError .integer |>.map .integer
  | .float format => (Decimal.read format s).mapError .float |>.map .float
  | .bool => if s == "true" then .ok (.bool true) else if s == "false" then .ok (.bool false) else .error .notBool
  | .char =>
    match s.toList with
    | [] => .error .noChar
    | [c] => .ok (.char c)
    | _ => .error .manyChars
  | .text => .ok (.text s)

/-- The text of a value: doubles in shortest positional digits, all else as it is read. -/
def Scalar.spell : Scalar → String
  | .integer n => toString n
  | .float x => Number.text x
  | .bool b => if b then "true" else "false"
  | .char c => c.toString
  | .text s => s

end SqlComposer
