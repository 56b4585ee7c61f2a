/-
  SqlComposer.Domain.Mapping — how domains write a character: lower case, compatibility
  forms resolved, invisible characters left out, and others refused.
-/

import SqlComposer.Domain.Letters
import SqlComposer.Domain.Refused
import SqlComposer.Domain.Sequences
import SqlComposer.Text.Ranges

namespace SqlComposer.Domain

/-- Whether `c` is in an alternating range, at the place of a capital. -/
def alternates (c : Char) : Bool :=
  alternating.any fun (first, last) => first ≤ c.toNat && c.toNat ≤ last && (c.toNat - first) % 2 == 0

/-- The characters several characters long that `c` is written as. -/
def sequence? (c : Char) : Option (List Char) :=
  (sequences.find? fun (first, last, _) => first ≤ c.toNat && c.toNat ≤ last).map fun (_, _, codes) =>
    codes.map Char.ofNat

/-- The one character `c` is written as. -/
def letter? (c : Char) : Option Char :=
  (letters.find? fun (first, last, _) => first ≤ c.toNat && c.toNat ≤ last).map fun (first, _, code) =>
    Char.ofNat (code + (c.toNat - first))

/-- What a domain writes for `c`; none where no domain holds `c`. -/
def mapChar (c : Char) : Option (List Char) :=
  if c.toNat < 0x80 then some [c.toLower]
  else if inRanges refused c then none
  else if inRanges ignored c then some []
  else if alternates c then some [Char.ofNat (c.toNat + 1)]
  else match letter? c with
    | some d => some [d]
    | none => some ((sequence? c).getD [c])

/-- Whether a domain writes `c` as it is. -/
def isKept (c : Char) : Bool := mapChar c == some [c]

end SqlComposer.Domain
