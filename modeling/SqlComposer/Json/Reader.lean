/-
  SqlComposer.Json.Reader — JSON values read from text.

  Every function takes the characters left and gives back what it read and the
  characters behind it. Values nest at most as deep as the text is long, so that length
  is the fuel of the recursion.

  The digits of a number that is a double are taken as one 64-bit word, those beyond its
  range only counted; the word is then multiplied or divided once by a power of ten. So
  a double written with up to fifteen digits and a small exponent is read exactly, and a
  longer one to within its last place.
-/

import SqlComposer.Number.Decimal
import SqlComposer.Json.Value

namespace SqlComposer

namespace Json

def skipBlanks (cs : List Char) : List Char :=
  cs.dropWhile fun c => c == ' ' || c == '\t' || c == '\n' || c == '\r'

/-! ## Numbers -/

/-- The digits a word can hold, as a number, and how many there were, then the other digits. -/
def wordDigits (word : Nat) : List Char → Nat × Nat × List Char
  | [] => (word, 0, [])
  | c :: cs =>
    let next := word * 10 + (c.toNat - '0'.toNat)
    if Nat.pow 2 64 ≤ next then (word, 0, c :: cs)
    else
      let (w, used, rest) := wordDigits next cs
      (w, used + 1, rest)

/-- The double nearest to `10 ^ n`. -/
def powerOfTen (n : Nat) : Float := (Decimal.Literal.finite 1 n).toFloat .double false

/-- `word * 10 ^ e` by at most one rounding of the word and one of the product; none beyond the
    doubles. -/
def scale (word : Nat) (e : Int) : Option Float :=
  let f := (Decimal.Literal.finite word 0).toFloat .double false
  if 0 ≤ e then
    let product := f * powerOfTen e.toNat
    if word == 0 then some f else if 308 < e || product.isInf then none else some product
  else shrink 4 f (-e).toNat
where
  shrink : Nat → Float → Nat → Option Float
    | 0, f, _ => some (f / powerOfTen 308)
    | fuel + 1, f, n => if n ≤ 308 then some (f / powerOfTen n) else shrink fuel (f / powerOfTen 308) (n - 308)

def negate (negative : Bool) (x : Float) : Float := if negative then -x else x

/-- A number without its minus sign. -/
def readNumber (negative : Bool) (cs : List Char) : Option (Json × List Char) :=
  let (whole, rest) := cs.span Char.isDigit
  if whole.isEmpty || (whole.head? == some '0' && 1 < whole.length) then none
  else
    let (fraction, rest) := match rest with
      | '.' :: more => let (ds, rest) := more.span Char.isDigit; (some ds, rest)
      | rest => (none, rest)
    let (exponent, rest) := match rest with
      | 'e' :: '-' :: more | 'E' :: '-' :: more => let (ds, rest) := more.span Char.isDigit; (some ('-' :: ds), rest)
      | 'e' :: '+' :: more | 'E' :: '+' :: more => let (ds, rest) := more.span Char.isDigit; (some ('+' :: ds), rest)
      | 'e' :: more | 'E' :: more => let (ds, rest) := more.span Char.isDigit; (some ('+' :: ds), rest)
      | rest => (none, rest)
    let n := Decimal.ofDigitChars whole
    match fraction, exponent with
    | some [], _ => none
    | _, some [_] => none
    | none, none =>
      if negative && 0 < n && n ≤ Nat.pow 2 63 then some (.integer (-n), rest)
      else if !negative && n < Nat.pow 2 64 then some (.integer n, rest)
      else number whole [] [] rest
    | _, _ => number whole (fraction.getD []) (exponent.getD []) rest
where
  number (whole fraction exponent rest : List Char) : Option (Json × List Char) :=
    let (word, _, left) := wordDigits 0 whole
    let (word, places, _) := if left.isEmpty then wordDigits word fraction else (word, 0, [])
    let e : Int := match exponent with
      | '-' :: ds => -(Decimal.ofDigitChars ds : Int)
      | _ :: ds => Decimal.ofDigitChars ds
      | [] => 0
    (scale word (max (-2000) (e + left.length - places))).map fun x => (.float (negate negative x), rest)

/-! ## Strings -/

def hexValue? (c : Char) : Option Nat :=
  if c.isDigit then some (c.toNat - '0'.toNat)
  else if 'a' ≤ c && c ≤ 'f' then some (c.toNat - 'a'.toNat + 10)
  else if 'A' ≤ c && c ≤ 'F' then some (c.toNat - 'A'.toNat + 10)
  else none

def readHex (a b c d : Char) : Option Nat := do
  return ((← hexValue? a) * 16 + (← hexValue? b)) * 256 + (← hexValue? c) * 16 + (← hexValue? d)

/-- The characters up to the closing quote. -/
def readChars : List Char → Option (List Char × List Char)
  | [] => none
  | '"' :: rest => some ([], rest)
  | '\\' :: 'u' :: a :: b :: c :: d :: rest => do
    let unit ← readHex a b c d
    if 0xD800 ≤ unit && unit < 0xDC00 then
      match rest with
      | '\\' :: 'u' :: a :: b :: c :: d :: rest => do
        let low ← readHex a b c d
        if low < 0xDC00 || 0xDFFF < low then none
        else
          let (cs, rest) ← readChars rest
          return (Char.ofNat (0x10000 + (unit - 0xD800) * 0x400 + (low - 0xDC00)) :: cs, rest)
      | _ => none
    else if 0xDC00 ≤ unit && unit < 0xE000 then none
    else
      let (cs, rest) ← readChars rest
      return (Char.ofNat unit :: cs, rest)
  | '\\' :: c :: rest => do
    let escaped ← match c with
      | '"' => some '"'
      | '\\' => some '\\'
      | '/' => some '/'
      | 'b' => some '\x08'
      | 'f' => some '\x0c'
      | 'n' => some '\n'
      | 'r' => some '\r'
      | 't' => some '\t'
      | _ => none
    let (cs, rest) ← readChars rest
    return (escaped :: cs, rest)
  | c :: rest =>
    if c.toNat < 0x20 then none
    else (readChars rest).map fun (cs, rest) => (c :: cs, rest)

/-! ## Values -/

mutual

def readValue : Nat → List Char → Option (Json × List Char)
  | 0, _ => none
  | fuel + 1, cs =>
    match skipBlanks cs with
    | 'n' :: 'u' :: 'l' :: 'l' :: rest => some (.null, rest)
    | 't' :: 'r' :: 'u' :: 'e' :: rest => some (.bool true, rest)
    | 'f' :: 'a' :: 'l' :: 's' :: 'e' :: rest => some (.bool false, rest)
    | '"' :: rest => (readChars rest).map fun (s, rest) => (.string (String.ofList s), rest)
    | '[' :: rest =>
      match skipBlanks rest with
      | ']' :: rest => some (.array [], rest)
      | rest => (readItems fuel rest).map fun (items, rest) => (.array items, rest)
    | '\x7b' :: rest =>
      match skipBlanks rest with
      | '\x7d' :: rest => some (.object [], rest)
      | rest => (readMembers fuel rest).map fun (members, rest) => (ofMembers members, rest)
    | '-' :: rest => readNumber true rest
    | rest => readNumber false rest

/-- Items up to the closing bracket. -/
def readItems : Nat → List Char → Option (List Json × List Char)
  | 0, _ => none
  | fuel + 1, cs => do
    let (item, rest) ← readValue fuel cs
    match skipBlanks rest with
    | ']' :: rest => return ([item], rest)
    | ',' :: rest =>
      let (items, rest) ← readItems fuel rest
      return (item :: items, rest)
    | _ => none

/-- Members up to the closing brace. -/
def readMembers : Nat → List Char → Option (List (String × Json) × List Char)
  | 0, _ => none
  | fuel + 1, cs => do
    match skipBlanks cs with
    | '"' :: rest =>
      let (key, rest) ← readChars rest
      match skipBlanks rest with
      | ':' :: rest =>
        let (value, rest) ← readValue fuel rest
        let member := (String.ofList key, value)
        match skipBlanks rest with
        | '\x7d' :: rest => return ([member], rest)
        | ',' :: rest =>
          let (members, rest) ← readMembers fuel rest
          return (member :: members, rest)
        | _ => none
      | _ => none
    | _ => none

end

/-- The one value `s` holds, blanks around it apart. -/
def parse (s : String) : Option Json :=
  let cs := s.toList
  match readValue (cs.length + 1) cs with
  | some (j, rest) => if (skipBlanks rest).isEmpty then some j else none
  | none => none

end Json

end SqlComposer
