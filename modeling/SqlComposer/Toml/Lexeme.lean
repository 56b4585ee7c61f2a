/-
  SqlComposer.Toml.Lexeme — the smallest pieces of a TOML document: blanks and comments,
  strings, numbers and keys.

  Each reader takes the characters left and gives back what it read and what follows.
-/

import SqlComposer.Number.Decimal
import SqlComposer.Text.Blank

namespace SqlComposer.Toml

/-! ## Blanks and comments -/

def isSpace (c : Char) : Bool := c == ' ' || c == '\t'

/-- A control that may stand neither in a string nor in a comment. -/
def isControl (c : Char) : Bool := (c.toNat < 0x20 && c != '\t') || c.toNat == 0x7F

def skipSpaces (cs : List Char) : List Char := cs.dropWhile isSpace

/-- What follows a line end. -/
def lineEnd? : List Char → Option (List Char)
  | '\n' :: rest | '\r' :: '\n' :: rest => some rest
  | _ => none

/-- What follows a comment, if there is one here; none when it holds a control. -/
def skipComment (cs : List Char) : Option (List Char) :=
  match cs with
  | '#' :: rest =>
    let rest := rest.dropWhile fun c => !isControl c
    if rest.isEmpty || (lineEnd? rest).isSome then some rest else none
  | cs => some cs

/-- What follows spaces, line ends and comments. -/
def skipLines : Nat → List Char → Option (List Char)
  | 0, _ => none
  | fuel + 1, cs => do
    let rest ← skipComment (skipSpaces cs)
    match lineEnd? rest with
    | some rest => skipLines fuel rest
    | none => some rest

/-! ## Strings -/

def hexValue? (c : Char) : Option Nat :=
  if c.isDigit then some (c.toNat - '0'.toNat)
  else if 'a' ≤ c && c ≤ 'f' then some (c.toNat - 'a'.toNat + 10)
  else if 'A' ≤ c && c ≤ 'F' then some (c.toNat - 'A'.toNat + 10)
  else none

/-- The character with a code point in hexadecimal digits, surrogates excluded. -/
def scalar (ds : List Char) : Option Char := do
  let values ← ds.mapM hexValue?
  let n := values.foldl (fun n d => n * 16 + d) 0
  if n.isValidChar then some (Char.ofNat n) else none

def escaped? : Char → Option Char
  | 'b' => some '\x08'
  | 't' => some '\t'
  | 'n' => some '\n'
  | 'f' => some '\x0c'
  | 'r' => some '\r'
  | 'e' => some '\x1b'
  | '"' => some '"'
  | '\\' => some '\\'
  | _ => none

/-- A string behind its opening quote, up to the closing one. -/
def readBasic : List Char → Option (List Char × List Char)
  | '"' :: rest => some ([], rest)
  | '\\' :: 'x' :: a :: b :: rest => do
    let c ← scalar [a, b]
    (readBasic rest).map fun (s, rest) => (c :: s, rest)
  | '\\' :: 'u' :: a :: b :: c :: d :: rest => do
    let c ← scalar [a, b, c, d]
    (readBasic rest).map fun (s, rest) => (c :: s, rest)
  | '\\' :: 'U' :: a :: b :: c :: d :: e :: f :: g :: h :: rest => do
    let c ← scalar [a, b, c, d, e, f, g, h]
    (readBasic rest).map fun (s, rest) => (c :: s, rest)
  | '\\' :: c :: rest => do
    let c ← escaped? c
    (readBasic rest).map fun (s, rest) => (c :: s, rest)
  | c :: rest => if isControl c then none else (readBasic rest).map fun (s, rest) => (c :: s, rest)
  | [] => none

/-- Whether nothing but spaces stands before the next line end. -/
def endsLine (cs : List Char) : Bool := (lineEnd? (skipSpaces cs)).isSome

/-- A string of several lines behind its opening quotes; `skipping` leaves out the blanks behind a
    backslash that ends a line. Line ends stay as they are written. Up to two quotes may stand before
    the three that close it. -/
def readLongBasic (skipping : Bool) : List Char → Option (List Char × List Char)
  | '"' :: '"' :: '"' :: '"' :: '"' :: rest => some (['"', '"'], rest)
  | '"' :: '"' :: '"' :: '"' :: rest => some (['"'], rest)
  | '"' :: '"' :: '"' :: rest => some ([], rest)
  | '\\' :: 'x' :: a :: b :: rest => do
    let c ← scalar [a, b]
    (readLongBasic false rest).map fun (s, rest) => (c :: s, rest)
  | '\\' :: 'u' :: a :: b :: c :: d :: rest => do
    let c ← scalar [a, b, c, d]
    (readLongBasic false rest).map fun (s, rest) => (c :: s, rest)
  | '\\' :: 'U' :: a :: b :: c :: d :: e :: f :: g :: h :: rest => do
    let c ← scalar [a, b, c, d, e, f, g, h]
    (readLongBasic false rest).map fun (s, rest) => (c :: s, rest)
  | '\\' :: c :: rest =>
    if endsLine (c :: rest) then readLongBasic true rest
    else do
      let c ← escaped? c
      (readLongBasic false rest).map fun (s, rest) => (c :: s, rest)
  | '\r' :: '\n' :: rest =>
    (readLongBasic skipping rest).map fun (s, rest) => (if skipping then s else '\r' :: '\n' :: s, rest)
  | c :: rest =>
    if skipping && (isSpace c || c == '\n') then readLongBasic true rest
    else if isControl c && c != '\n' then none
    else (readLongBasic false rest).map fun (s, rest) => (c :: s, rest)
  | [] => none

/-- A string without escapes behind its opening quote. -/
def readLiteral : List Char → Option (List Char × List Char)
  | '\'' :: rest => some ([], rest)
  | c :: rest => if isControl c then none else (readLiteral rest).map fun (s, rest) => (c :: s, rest)
  | [] => none

/-- A string of several lines without escapes behind its opening quotes. -/
def readLongLiteral : List Char → Option (List Char × List Char)
  | '\'' :: '\'' :: '\'' :: '\'' :: '\'' :: rest => some (['\'', '\''], rest)
  | '\'' :: '\'' :: '\'' :: '\'' :: rest => some (['\''], rest)
  | '\'' :: '\'' :: '\'' :: rest => some ([], rest)
  | '\r' :: '\n' :: rest => (readLongLiteral rest).map fun (s, rest) => ('\r' :: '\n' :: s, rest)
  | c :: rest =>
    if isControl c && c != '\n' then none
    else (readLongLiteral rest).map fun (s, rest) => (c :: s, rest)
  | [] => none

/-- A line end right behind the opening quotes of a string of several lines does not count. -/
def dropLineEnd (cs : List Char) : List Char := (lineEnd? cs).getD cs

/-- A string of any kind; none where no string begins. -/
def readString : List Char → Option (List Char × List Char)
  | '"' :: '"' :: '"' :: rest => readLongBasic false (dropLineEnd rest)
  | '\'' :: '\'' :: '\'' :: rest => readLongLiteral (dropLineEnd rest)
  | '"' :: rest => readBasic rest
  | '\'' :: rest => readLiteral rest
  | _ => none

/-! ## Keys -/

def isBareKeyChar (c : Char) : Bool := c.isAlphanum || c == '_' || c == '-'

def readSimpleKey (cs : List Char) : Option (String × List Char) :=
  match cs with
  | '"' :: rest => (readBasic rest).map fun (s, rest) => (String.ofList s, rest)
  | '\'' :: rest => (readLiteral rest).map fun (s, rest) => (String.ofList s, rest)
  | cs =>
    let (name, rest) := cs.span isBareKeyChar
    if name.isEmpty then none else some (String.ofList name, rest)

/-- Simple keys with dots between them. -/
def readKey : Nat → List Char → Option (List String × List Char)
  | 0, _ => none
  | fuel + 1, cs => do
    let (key, rest) ← readSimpleKey (skipSpaces cs)
    match skipSpaces rest with
    | '.' :: rest =>
      let (path, rest) ← readKey fuel rest
      return (key :: path, rest)
    | rest => return ([key], rest)

/-! ## Numbers -/

/-- The digits without the underscores, each of which must stand between two digits. -/
def digitsOf (isDigit : Char → Bool) (cs : List Char) : Option (List Char) :=
  let groups := Chars.splitOn (· == '_') cs
  if groups.all fun g => !g.isEmpty && g.all isDigit then some groups.flatten else none

def unsignedOf (base : Nat) (ds : List Char) : Nat :=
  ds.foldl (fun n c => n * base + (hexValue? c).getD 0) 0

def isHexDigit (c : Char) : Bool := (hexValue? c).isSome

def isOctalDigit (c : Char) : Bool := '0' ≤ c && c ≤ '7'

def isBinaryDigit (c : Char) : Bool := c == '0' || c == '1'

/-- A decimal integer without leading zeros. -/
def readDecimal (cs : List Char) : Option Nat := do
  let ds ← digitsOf Char.isDigit cs
  if ds.head? == some '0' && 1 < ds.length then none else some (unsignedOf 10 ds)

/-- An integer in base ten with a sign or not, or in base sixteen, eight or two, within 64 bits. -/
def readInteger (cs : List Char) : Option Int := do
  let n : Int ← match cs with
    | '0' :: 'x' :: ds => (digitsOf isHexDigit ds).map fun ds => (unsignedOf 16 ds : Int)
    | '0' :: 'o' :: ds => (digitsOf isOctalDigit ds).map fun ds => (unsignedOf 8 ds : Int)
    | '0' :: 'b' :: ds => (digitsOf isBinaryDigit ds).map fun ds => (unsignedOf 2 ds : Int)
    | '+' :: ds => (readDecimal ds).map fun n => (n : Int)
    | '-' :: ds => (readDecimal ds).map fun n => -(n : Int)
    | ds => (readDecimal ds).map fun n => (n : Int)
  if -Int.pow 2 63 ≤ n && n < Int.pow 2 64 then some n else none

/-- A number with a fraction or an exponent, an infinity, or a NaN. -/
def readFloat (cs : List Char) : Option Float := do
  let (negative, body) := match cs with
    | '+' :: body => (false, body)
    | '-' :: body => (true, body)
    | body => (false, body)
  if body == "inf".toList then return Decimal.Literal.infinity.toFloat .double negative
  if body == "nan".toList then return Decimal.Literal.nan.toFloat .double negative
  let (whole, rest) := body.span fun c => c.isDigit || c == '_'
  let _ ← readDecimal whole
  let (fraction, rest) ← match rest with
    | '.' :: more =>
      let (ds, rest) := more.span fun c => c.isDigit || c == '_'
      (digitsOf Char.isDigit ds).map fun ds => (ds, rest)
    | rest => some ([], rest)
  if fraction.isEmpty && rest.isEmpty then none
  let exponent ← Decimal.readExponent (rest.filter (· != '_'))
  let digits ← digitsOf Char.isDigit whole
  return (Decimal.Literal.finite (Decimal.ofDigitChars (digits ++ fraction)) (exponent - fraction.length)).toFloat
    .double negative

end SqlComposer.Toml
