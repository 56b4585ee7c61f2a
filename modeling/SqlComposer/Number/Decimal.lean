/-
  SqlComposer.Number.Decimal — decimal texts of binary numbers, both ways.

  Writing: `shortest` gives the fewest digits that read back as the same double, and of
  those the nearest to it; a tie rule settles what lies halfway between two. `positional`
  writes them without an exponent.

  Reading: an optional sign, then digits with at most one point, at least one digit in
  all, and an optional exponent; or one of the words `inf`, `infinity` and `nan` in any
  letter case. The value is rounded once, to the format asked for.
-/

import SqlComposer.Number.Binary

namespace SqlComposer

/-- The magnitude `digits * 10 ^ exponent`. -/
structure Decimal where
  digits : Nat
  exponent : Int
  deriving DecidableEq, Repr

namespace Decimal

/-- The decimal digits of `n`, most significant first. -/
def digitChars (n : Nat) : List Char := Nat.toDigits 10 n

/-! ## Shortest digits -/

/-- Which of two decimals a double halfway between them is written as. -/
inductive Tie where
  | up
  | even
  deriving DecidableEq, Repr

/-- Whether the greater neighbour of `d` is taken in a tie. -/
def Tie.takesNext : Tie → Nat → Bool
  | .up, _ => true
  | .even, d => d % 2 == 1

/-- The reals that round to a double, in quarters of its last place, and whether the ends do. -/
structure Interval where
  low : Nat
  high : Nat
  closed : Bool
  deriving DecidableEq, Repr

/-- Below a power of two the next double is half as far away as above it. -/
def Interval.around (b : Binary) : Interval :=
  let step := if b.mantissa == Nat.pow 2 52 && b.exponent != -1074 then 1 else 2
  ⟨4 * b.mantissa - step, 4 * b.mantissa + 2, b.mantissa % 2 == 0⟩

/-- `quarters / 4 * 2 ^ e / 10 ^ k` as a quotient of naturals. -/
def scaled (quarters : Nat) (e k : Int) : Nat × Nat :=
  (quarters * Nat.pow 2 e.toNat * Nat.pow 10 (-k).toNat, 4 * Nat.pow 2 (-e).toNat * Nat.pow 10 k.toNat)

/-- Whether `d * 10 ^ k` lies in the interval whose last place is `2 ^ e`. -/
def Interval.holds (i : Interval) (e k : Int) (d : Nat) : Bool :=
  let (low, unit) := scaled i.low e k
  let (high, _) := scaled i.high e k
  if i.closed then low ≤ d * unit && d * unit ≤ high else low < d * unit && d * unit < high

/-- The decimal exponent of the first digit of `b`. -/
def leading (b : Binary) : Int :=
  let (num, den) := scaled (4 * b.mantissa) b.exponent (-330)
  ((digitChars (num / den)).length : Int) - 331

/-- The multiple of `10 ^ k` nearest to `b` among its two neighbours that round to it. -/
def onGrid (tie : Tie) (b : Binary) (k : Int) : Option Decimal :=
  let i := Interval.around b
  let (num, den) := scaled (4 * b.mantissa) b.exponent k
  let d := num / den
  match i.holds b.exponent k d, i.holds b.exponent k (d + 1) with
  | false, false => none
  | true, false => some ⟨d, k⟩
  | false, true => some ⟨d + 1, k⟩
  | true, true =>
    let twice := 2 * (num % den)
    if twice < den || (twice == den && !tie.takesNext d) then some ⟨d, k⟩ else some ⟨d + 1, k⟩

/-- Trailing zeros moved into the exponent. -/
def reduce : Nat → Decimal → Decimal
  | 0, d => d
  | fuel + 1, d => if d.digits != 0 && d.digits % 10 == 0 then reduce fuel ⟨d.digits / 10, d.exponent + 1⟩ else d

/-- The fewest digits that read back as `b`; seventeen always do. -/
def shortest (tie : Tie) (b : Binary) : Decimal :=
  if b.mantissa == 0 then ⟨0, 0⟩
  else
    let top := leading b
    reduce 20 (((List.range 17).findSome? fun (n : Nat) => onGrid tie b (top - n)).getD ⟨0, 0⟩)

/-! ## Positional text -/

/-- The digits with a point where the exponent puts it, and no exponent. -/
def positional (d : Decimal) : List Char :=
  let ds := digitChars d.digits
  if 0 ≤ d.exponent then ds ++ List.replicate d.exponent.toNat '0'
  else
    let places := (-d.exponent).toNat
    if places < ds.length then ds.take (ds.length - places) ++ '.' :: ds.drop (ds.length - places)
    else '0' :: '.' :: List.replicate (places - ds.length) '0' ++ ds

/-! ## Reading -/

/-- Why a text is no floating-point number. -/
inductive Fault where
  | empty
  | invalid
  deriving DecidableEq, Repr

def Fault.message : Fault → String
  | .empty => "cannot parse float from empty string"
  | .invalid => "invalid float literal"

/-- The number a text spells. -/
inductive Literal where
  | nan
  | infinity
  | finite (digits : Nat) (exponent : Int)
  deriving DecidableEq, Repr

def ofDigitChars (cs : List Char) : Nat := cs.foldl (fun n c => n * 10 + (c.toNat - '0'.toNat)) 0

/-- An exponent mark, an optional sign and at least one digit; or nothing at all. -/
def readExponent : List Char → Option Int
  | [] => some 0
  | c :: cs =>
    if c != 'e' && c != 'E' then none
    else
      let (negative, ds) := match cs with
        | '-' :: ds => (true, ds)
        | '+' :: ds => (false, ds)
        | ds => (false, ds)
      if ds.isEmpty || !ds.all Char.isDigit then none
      else some (if negative then -(ofDigitChars ds : Int) else ofDigitChars ds)

/-- Digits, a point with digits, an exponent. -/
def readFinite (cs : List Char) : Option Literal :=
  let (whole, rest) := cs.span Char.isDigit
  let (fraction, rest) := match rest with
    | '.' :: more => more.span Char.isDigit
    | more => ([], more)
  if whole.isEmpty && fraction.isEmpty then none
  else (readExponent rest).map fun e => .finite (ofDigitChars (whole ++ fraction)) (e - fraction.length)

def readUnsigned (cs : List Char) : Option Literal :=
  let word := cs.map Char.toLower
  if word == "nan".toList then some .nan
  else if word == "inf".toList || word == "infinity".toList then some .infinity
  else readFinite cs

/-- `digits * 10 ^ exponent` rounded to format `f`, as a double; exponents far beyond the format
    are settled without computing the power. -/
def Literal.toFloat (f : BinaryFormat) (negative : Bool) : Literal → Float
  | .nan => Float.ofBits 0x7FF8000000000000
  | .infinity => infinity
  | .finite 0 _ => Binary.toFloat negative ⟨0, f.lowest⟩
  | .finite digits e =>
    let size := (digitChars digits).length + e
    if 400 < size then infinity
    else if size < -400 then Binary.toFloat negative ⟨0, f.lowest⟩
    else
      match Binary.round f (digits * Nat.pow 10 e.toNat) (Nat.pow 10 (-e).toNat) with
      | some b => Binary.toFloat negative b
      | none => infinity
where
  infinity : Float := Float.ofBits (if negative then 0xFFF0000000000000 else 0x7FF0000000000000)

/-- The number of format `f` nearest to the one `s` spells. -/
def read (f : BinaryFormat) (s : String) : Except Fault Float :=
  let (negative, cs) := match s.toList with
    | '-' :: cs => (true, cs)
    | '+' :: cs => (false, cs)
    | cs => (false, cs)
  if s.isEmpty then .error .empty
  else match readUnsigned cs with
    | none => .error .invalid
    | some literal => .ok (literal.toFloat f negative)

end Decimal

namespace Number

/-- A finite double in shortest positional digits, ties going up, with the sign of a negative zero;
    none for an infinity or a NaN. -/
def text? (x : Float) : Option String :=
  (Binary.ofFloat x).map fun b =>
    String.ofList ((if isNegative x then ['-'] else []) ++ (Decimal.shortest .up b).positional)

/-- As `text?`, with the names `NaN`, `inf` and `-inf` for the rest. -/
def text (x : Float) : String :=
  match text? x with
  | some s => s
  | none => if x.isNaN then "NaN" else if isNegative x then "-inf" else "inf"

end Number

end SqlComposer
