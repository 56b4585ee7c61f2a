/-
  SqlComposer.Proofs.Number.Numerals — the characters of a written number.

  Proved: an integer and a finite double are written with digits and points, behind a
  minus sign or not (`numeral_int`, `numeral_nat`, `numeral_text?`); the sign of an
  integer is written below zero alone (`toList_toString_int`).
-/

import SqlComposer.Number.Decimal
import SqlComposer.Proofs.Number.Integers

namespace SqlComposer

def isNumeralChar (c : Char) : Bool := c.isDigit || c == '.'

/-- Digits and points, with a minus sign in front or not. -/
def Numeral (cs : List Char) : Prop :=
  ∃ body, (cs = body ∨ cs = '-' :: body) ∧ ∀ c ∈ body, isNumeralChar c = true

theorem Numeral.of_body {body : List Char} (h : ∀ c ∈ body, isNumeralChar c = true) : Numeral body :=
  ⟨body, .inl rfl, h⟩

theorem isNumeralChar_toDigits {n : Nat} : ∀ c ∈ Nat.toDigits 10 n, isNumeralChar c = true := by
  intro c hc
  rw [isNumeralChar, Nat.isDigit_of_mem_toDigits (by decide) (by decide) hc, Bool.true_or]

theorem numeral_nat (n : Nat) : Numeral (toString n).toList := by
  rw [Nat.toString_eq_repr, Nat.toList_repr]
  exact .of_body isNumeralChar_toDigits

theorem toList_toString_int (n : Int) :
    (toString n).toList = (if n < 0 then ['-'] else []) ++ Nat.toDigits 10 n.natAbs := by
  cases n with
  | ofNat n =>
    rw [if_neg (by simp)]
    show (toString n).toList = _
    rw [Nat.toString_eq_repr, Nat.toList_repr]
    rfl
  | negSucc n =>
    rw [if_pos (Int.negSucc_lt_zero n), Int.toString_eq_repr, Int.repr]
    simp [Nat.toList_repr]

theorem numeral_int (n : Int) : Numeral (toString n).toList := by
  refine ⟨Nat.toDigits 10 n.natAbs, ?_, isNumeralChar_toDigits⟩
  rw [toList_toString_int]
  split
  · exact .inr rfl
  · exact .inl rfl

/-! ## Doubles -/

theorem isNumeralChar_positional (d : Decimal) : ∀ c ∈ d.positional, isNumeralChar c = true := by
  have hdigits : ∀ c ∈ Decimal.digitChars d.digits, isNumeralChar c = true := isNumeralChar_toDigits
  have hzeros (n : Nat) : ∀ c ∈ List.replicate n '0', isNumeralChar c = true := by
    intro c hc
    rw [(List.mem_replicate.mp hc).2]
    decide
  unfold Decimal.positional
  dsimp only
  split
  · exact List.forall_mem_append.mpr ⟨hdigits, hzeros _⟩
  split
  · refine List.forall_mem_append.mpr ⟨fun c hc => hdigits c (List.mem_of_mem_take hc), ?_⟩
    exact List.forall_mem_cons.mpr ⟨by decide, fun c hc => hdigits c (List.mem_of_mem_drop hc)⟩
  · refine List.forall_mem_append.mpr ⟨?_, hdigits⟩
    exact List.forall_mem_cons.mpr ⟨by decide, List.forall_mem_cons.mpr ⟨by decide, hzeros _⟩⟩

theorem Decimal.positional_ne_nil (d : Decimal) : d.positional ≠ [] := by
  have hdigits : digitChars d.digits ≠ [] := Nat.toDigits_ne_nil
  unfold positional
  dsimp only
  split
  · simp [hdigits]
  · split <;> simp

theorem numeral_text? {x : Float} {s : String} (h : Number.text? x = some s) : Numeral s.toList := by
  obtain ⟨b, _, rfl⟩ := Option.map_eq_some_iff.mp h
  rw [String.toList_ofList]
  refine ⟨(Decimal.shortest .up b).positional, ?_, isNumeralChar_positional _⟩
  split
  · exact .inr rfl
  · exact .inl rfl

end SqlComposer
