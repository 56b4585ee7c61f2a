/-
  SqlComposer.Number.Binary — binary floating point as mantissa times a power of two.

  A finite number is a sign and `mantissa * 2 ^ exponent`, with the exponent as small
  as the format's precision lets it be. A quotient of naturals rounds to the nearest
  such number; halfway between two, it goes to the one with the even mantissa.

  Powers are spelled `Nat.pow`, so that a definition is the same term whether or not
  more algebra, with a power of its own, is in scope.
-/

namespace SqlComposer

/-- A binary format: the bits of a mantissa, and the exponents of the last place of its least and
    of its greatest numbers. -/
structure BinaryFormat where
  precision : Nat
  lowest : Int
  highest : Int
  deriving DecidableEq, Repr

def BinaryFormat.double : BinaryFormat := ⟨53, -1074, 971⟩

def BinaryFormat.single : BinaryFormat := ⟨24, -149, 104⟩

/-- The magnitude `mantissa * 2 ^ exponent`. -/
structure Binary where
  mantissa : Nat
  exponent : Int
  deriving DecidableEq, Repr

namespace Binary

/-! ## Rounding -/

/-- The natural nearest to `num / den`, an even one halfway. -/
def nearest (num den : Nat) : Nat :=
  let q := num / den
  let twice := 2 * (num % den)
  if twice < den || (twice == den && q % 2 == 0) then q else q + 1

/-- `num / den` in units of `2 ^ e`, as a quotient of naturals. -/
def inUnits (num den : Nat) (e : Int) : Nat × Nat :=
  if 0 ≤ e then (num, den * Nat.pow 2 e.toNat) else (num * Nat.pow 2 (-e).toNat, den)

/-- The number of format `f` nearest to `num / den`; none when it is beyond the greatest one. -/
def round (f : BinaryFormat) (num den : Nat) : Option Binary :=
  if num == 0 then some ⟨0, f.lowest⟩
  else
    let guess := (num.log2 : Int) - den.log2 - f.precision
    let (n, d) := inUnits num den guess
    let fit := if Nat.pow 2 f.precision ≤ n / d then guess + 1 else guess
    let e := max fit f.lowest
    let (n, d) := inUnits num den e
    let m := nearest n d
    let result : Binary := if m == Nat.pow 2 f.precision then ⟨m / 2, e + 1⟩ else ⟨m, e⟩
    if f.highest < result.exponent then none else some result

/-! ## Doubles -/

/-- The magnitude of a finite double; none for an infinity or a NaN. -/
def ofFloat (x : Float) : Option Binary :=
  let bits := x.toBits.toNat
  let field : Nat := bits / Nat.pow 2 52 % Nat.pow 2 11
  let fraction : Nat := bits % Nat.pow 2 52
  if field == 2047 then none
  else if field == 0 then some ⟨fraction, -1074⟩
  else some ⟨Nat.pow 2 52 + fraction, field - 1075⟩

/-- The double with this sign and magnitude, for a magnitude that doubles hold. -/
def toFloat (negative : Bool) (b : Binary) : Float :=
  let up := min (52 - b.mantissa.log2) (b.exponent + 1074).toNat
  let m := b.mantissa * Nat.pow 2 up
  let e := b.exponent - up
  let field := if m < Nat.pow 2 52 then 0 else (e + 1075).toNat
  let sign := if negative then Nat.pow 2 63 else 0
  Float.ofBits (UInt64.ofNat (sign + field * Nat.pow 2 52 + m % Nat.pow 2 52))

end Binary

/-- The sign bit, which zeros and NaNs have too. -/
def Number.isNegative (x : Float) : Bool := Nat.pow 2 63 ≤ x.toBits.toNat

end SqlComposer
