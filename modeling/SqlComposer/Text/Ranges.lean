/-
  SqlComposer.Text.Ranges — character classes given as ranges of code points.
-/

namespace SqlComposer

/-- Whether the code point of `c` lies in one of the ranges, ends included. -/
def inRanges (ranges : List (Nat × Nat)) (c : Char) : Bool :=
  ranges.any fun (first, last) => first ≤ c.toNat && c.toNat ≤ last

end SqlComposer
