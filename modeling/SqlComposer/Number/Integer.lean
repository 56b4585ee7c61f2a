/-
  SqlComposer.Number.Integer — integers of a bounded range, read from decimal text.

  The text is an optional sign and at least one ASCII digit; a minus sign is admitted
  only where the range holds negative numbers. It is read from the left and refused at
  the first character that is no digit or that leaves the range, so of two faults the
  earlier one is reported.
-/

namespace SqlComposer

/-- Why a text is no integer of a range. -/
inductive IntegerFault where
  | empty
  | invalidDigit
  | tooLarge
  | tooSmall
  deriving DecidableEq, Repr

def IntegerFault.message : IntegerFault → String
  | .empty => "cannot parse integer from empty string"
  | .invalidDigit => "invalid digit found in string"
  | .tooLarge => "number too large to fit in target type"
  | .tooSmall => "number too small to fit in target type"

/-- The integers from `lowest` to `highest`. -/
structure IntegerRange where
  lowest : Int
  highest : Int
  deriving DecidableEq, Repr

namespace IntegerRange

/-- The two's complement range of a word of `bits` bits. -/
def signed (bits : Nat) : IntegerRange := ⟨-Int.pow 2 (bits - 1), Int.pow 2 (bits - 1) - 1⟩

/-- The range of an unsigned word of `bits` bits. -/
def unsigned (bits : Nat) : IntegerRange := ⟨0, Int.pow 2 bits - 1⟩

def contains (r : IntegerRange) (n : Int) : Bool := r.lowest ≤ n && n ≤ r.highest

end IntegerRange

namespace Integer

def digit? (c : Char) : Option Nat := if c.isDigit then some (c.toNat - '0'.toNat) else none

/-- Appends the digits of `cs` to `acc`, moving away from zero in the direction of the sign. -/
def digits (r : IntegerRange) (negative : Bool) (acc : Int) : List Char → Except IntegerFault Int
  | [] => .ok acc
  | c :: cs =>
    match digit? c with
    | none => .error .invalidDigit
    | some d =>
      let next := if negative then acc * 10 - d else acc * 10 + d
      if next < r.lowest then .error .tooSmall
      else if r.highest < next then .error .tooLarge
      else digits r negative next cs

/-- The integer `cs` spells, when it lies in `r`. -/
def ofChars (r : IntegerRange) : List Char → Except IntegerFault Int
  | [] => .error .empty
  | ['+'] | ['-'] => .error .invalidDigit
  | '+' :: cs => digits r false 0 cs
  | '-' :: cs => if r.lowest < 0 then digits r true 0 cs else .error .invalidDigit
  | cs => digits r false 0 cs

/-- The integer `s` spells, when it lies in `r`. -/
def read (r : IntegerRange) (s : String) : Except IntegerFault Int := ofChars r s.toList

end Integer

end SqlComposer
