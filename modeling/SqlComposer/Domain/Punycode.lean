/-
  SqlComposer.Domain.Punycode — labels with other characters than ASCII in letters and
  digits.

  The ASCII characters come first, then a hyphen, then one number for every other
  character, in the order of code points: how far it is, counted in places and rounds of
  places, from the one before. A number's digits run up from the lowest, to base 36, and
  the last digit is one below a threshold that moves with the numbers read so far.
-/

namespace SqlComposer.Domain

namespace Punycode

def digitChar (d : Nat) : Char := Char.ofNat (if d < 26 then 'a'.toNat + d else '0'.toNat + (d - 26))

def digitValue (c : Char) : Option Nat :=
  if 'a' ≤ c && c ≤ 'z' then some (c.toNat - 'a'.toNat)
  else if 'A' ≤ c && c ≤ 'Z' then some (c.toNat - 'A'.toNat)
  else if c.isDigit then some (c.toNat - '0'.toNat + 26)
  else none

/-- The threshold of the digit at place `k`, counted in steps of 36 from 36. -/
def threshold (k bias : Nat) : Nat := max 1 (min 26 (k - bias))

/-- How often `delta` is divided by 35 until it is at most 455, times 36, and what is left. -/
def shrink (delta k : Nat) : Nat × Nat :=
  if 455 < delta then shrink (delta / 35) (k + 36) else (k, delta)
termination_by delta
decreasing_by exact Nat.div_lt_self (by omega) (by omega)

/-- The bias after a number `delta`, with `size` characters written; the first number is
taken for an outlier. -/
def adapt (delta size : Nat) (first : Bool) : Nat :=
  let d := if first then delta / 700 else delta / 2
  let (k, rest) := shrink (d + d / size) 0
  k + 36 * rest / (rest + 38)

/-! ## Reading -/

structure Reading where
  out : List Char
  /-- The last character read and the place behind it. -/
  code : Nat
  place : Nat
  bias : Nat
  /-- The number being read, the weight of its next digit and the digit's place. -/
  delta : Nat
  weight : Nat
  k : Nat

/-- A complete number: the next character and its place. -/
def Reading.insert (r : Reading) (delta : Nat) : Option Reading :=
  let size := r.out.length + 1
  let code := r.code + (r.place + delta) / size
  let place := (r.place + delta) % size
  if code.isValidChar then
    some ⟨r.out.insertIdx place (Char.ofNat code), code, place + 1, adapt delta size (r.place == 0), 0, 1, 36⟩
  else none

def Reading.digit (r : Reading) (c : Char) : Option Reading := do
  let d ← digitValue c
  let t := threshold r.k r.bias
  if d < t then r.insert (r.delta + d * r.weight)
  else some { r with delta := r.delta + d * r.weight, weight := r.weight * (36 - t), k := r.k + 36 }

/-- The characters before the last hyphen, and the digits behind it. -/
def splitLast (cs : List Char) : List Char × List Char :=
  let digits := (cs.reverse.takeWhile (· != '-')).reverse
  (cs.take (cs.length - digits.length - 1), digits)

/-- The label `cs` stands for; none where the digits end inside a number or lead to no
character. -/
def decode (cs : List Char) : Option (List Char) := do
  let (plain, digits) := splitLast cs
  let r ← digits.foldlM Reading.digit ⟨plain, 128, 0, 72, 0, 1, 36⟩
  if r.k == 36 then some r.out else none

/-! ## Writing -/

theorem threshold_bounds (k bias : Nat) : 1 ≤ threshold k bias ∧ threshold k bias ≤ 26 := by
  unfold threshold
  omega

/-- The digits of a number from place `k` on. -/
def digits (bias k n : Nat) : List Char :=
  let t := threshold k bias
  if n < t then [digitChar n]
  else digitChar (t + (n - t) % (36 - t)) :: digits bias (k + 36) ((n - t) / (36 - t))
termination_by n
decreasing_by
  have := threshold_bounds k bias
  have := Nat.div_le_self (n - threshold k bias) (36 - threshold k bias)
  omega

structure Writing where
  out : List Char
  delta : Nat
  bias : Nat
  /-- The characters written so far. -/
  size : Nat

/-- One character of the label, in the round of the code point `code`. -/
def Writing.pass (plain code : Nat) (w : Writing) (c : Char) : Writing :=
  if c.toNat < code then { w with delta := w.delta + 1 }
  else if c.toNat == code then
    ⟨w.out ++ digits w.bias 36 w.delta, 0, adapt w.delta (w.size + 1) (w.size == plain), w.size + 1⟩
  else w

/-- The rounds of all code points, in ascending order, the first not below `next`. -/
def Writing.rounds (label : List Char) (plain : Nat) : List Nat → Nat → Writing → Writing
  | [], _, w => w
  | code :: codes, next, w =>
    let w := label.foldl (Writing.pass plain code) { w with delta := w.delta + (code - next) * (w.size + 1) }
    Writing.rounds label plain codes (code + 1) { w with delta := w.delta + 1 }

/-- The digits and letters for a label. -/
def encode (label : List Char) : List Char :=
  let plain := label.filter (·.toNat < 128)
  let codes := ((label.map Char.toNat).filter (128 ≤ ·)).mergeSort.eraseDups
  let start := if plain.isEmpty then [] else plain ++ ['-']
  (Writing.rounds label plain.length codes 128 ⟨start, 0, 72, plain.length⟩).out

end Punycode

end SqlComposer.Domain
