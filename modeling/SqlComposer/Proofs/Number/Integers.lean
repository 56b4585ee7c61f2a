/-
  SqlComposer.Proofs.Number.Integers — numbers written in decimal, and read.

  Proved: the decimal digits of a number that lies in a range are read as that number
  (`Integer.read_toString`); they hold nothing to trim (`trim_toString`). A range without
  negative numbers reads digits behind a plus sign or none, and nothing else
  (`Integer.ofChars_ok_iff`).
-/

import SqlComposer.Number.Integer
import SqlComposer.Proofs.Text.Chars

namespace SqlComposer

/-! ## Digits -/

theorem isBlank_of_isDigit {c : Char} (h : c.isDigit = true) : isBlank c = false := by
  have hrange : 48 ≤ c.toNat ∧ c.toNat ≤ 57 := by simpa [Char.isDigit, UInt32.le_iff_toNat_le] using h
  simp only [isBlank, Bool.or_eq_false_iff, Bool.and_eq_false_iff, decide_eq_false_iff_not, beq_eq_false_iff_ne]
  omega

theorem ne_of_isDigit {c x : Char} (hc : c.isDigit = true) (hx : x.isDigit = false) : c ≠ x := by
  rintro rfl
  rw [hc] at hx
  cases hx

theorem isDigit_toString {n : Nat} : ∀ c ∈ (toString n).toList, c.isDigit = true := by
  intro c hc
  rw [Nat.toString_eq_repr, Nat.toList_repr] at hc
  exact Nat.isDigit_of_mem_toDigits (by decide) (by decide) hc

theorem toList_toString_ne_nil (n : Nat) : (toString n).toList ≠ [] := by
  rw [Nat.toString_eq_repr, Nat.toList_repr]
  exact Nat.toDigits_ne_nil

theorem isBlank_toString {n : Nat} : ∀ c ∈ (toString n).toList, isBlank c = false :=
  fun c hc => isBlank_of_isDigit (isDigit_toString c hc)

theorem trim_toString (n : Nat) : Text.trim (toString n) = toString n := by
  have htrimmed : Chars.Trimmed (toString n).toList := {
    start := fun c hc => isBlank_toString c (List.mem_of_mem_head? hc)
    finish := fun c hc => isBlank_toString c (List.mem_of_mem_getLast? hc) }
  rw [Text.trim, Chars.trim_of_trimmed htrimmed, String.ofList_toList]

/-! ## Reading -/

namespace Integer

variable {r : IntegerRange}

theorem le_ofDigitChars (cs : List Char) (acc : Nat) : acc ≤ Nat.ofDigitChars 10 cs acc := by
  induction cs generalizing acc with
  | nil => exact Nat.le_refl acc
  | cons c cs ih =>
    rw [Nat.ofDigitChars_cons]
    have := ih (10 * acc + (c.toNat - '0'.toNat))
    omega

/-- Digits are read as the number they spell when that number lies in the range. -/
theorem digits_eq_ofDigitChars (hlow : r.lowest ≤ 0) {cs : List Char} (acc : Nat)
    (hdigit : ∀ c ∈ cs, c.isDigit = true) (hhigh : (Nat.ofDigitChars 10 cs acc : Int) ≤ r.highest) :
    digits r false acc cs = .ok (Nat.ofDigitChars 10 cs acc : Int) := by
  induction cs generalizing acc with
  | nil => rfl
  | cons c cs ih =>
    have hc := hdigit c List.mem_cons_self
    rw [Nat.ofDigitChars_cons] at hhigh ⊢
    have hmono := le_ofDigitChars cs (10 * acc + (c.toNat - '0'.toNat))
    have hrest := ih (10 * acc + (c.toNat - '0'.toNat)) (fun c hc => hdigit c (List.mem_cons_of_mem _ hc)) hhigh
    have hnext : (acc : Int) * 10 + ((c.toNat - '0'.toNat : Nat) : Int) = ((10 * acc + (c.toNat - '0'.toNat) : Nat) : Int) := by
      omega
    simp only [digits, digit?, hc, if_true, Bool.false_eq_true, if_false, hnext]
    rw [if_neg (by omega), if_neg (by omega)]
    exact hrest

theorem ofChars_of_isDigit {c : Char} (hc : c.isDigit = true) (cs : List Char) :
    ofChars r (c :: cs) = digits r false 0 (c :: cs) := by
  have hplus : c ≠ '+' := ne_of_isDigit hc (by decide)
  have hminus : c ≠ '-' := ne_of_isDigit hc (by decide)
  unfold ofChars
  split <;> simp_all

/-- What is read is digits, and their number. -/
theorem digits_ok {cs : List Char} {acc : Nat} {n : Int} (h : digits r false acc cs = .ok n)
    (hacc : (acc : Int) ≤ r.highest) :
    (∀ c ∈ cs, c.isDigit = true) ∧ n = Nat.ofDigitChars 10 cs acc ∧ n ≤ r.highest := by
  induction cs generalizing acc with
  | nil =>
    obtain rfl := Except.ok.inj h
    exact ⟨by simp, by simp, hacc⟩
  | cons c cs ih =>
    by_cases hc : c.isDigit = true
    · have hnext : (acc : Int) * 10 + ((c.toNat - '0'.toNat : Nat) : Int) =
          ((10 * acc + (c.toNat - '0'.toNat) : Nat) : Int) := by omega
      simp only [digits, digit?, hc, if_true, Bool.false_eq_true, if_false, hnext] at h
      split at h
      · cases h
      split at h
      · cases h
      · next hhigh =>
        obtain ⟨hdigit, hn, hle⟩ := ih h (by omega)
        exact ⟨List.forall_mem_cons.mpr ⟨hc, hdigit⟩, by rw [hn, Nat.ofDigitChars_cons], hle⟩
    · simp [digits, digit?, hc] at h

/-- Without negative numbers: digits, behind a plus sign or not, whose number lies in the range. -/
theorem ofChars_ok_iff (hlow : r.lowest = 0) (hhigh : 0 ≤ r.highest) {cs : List Char} {n : Int} :
    ofChars r cs = .ok n ↔ ∃ ds, (cs = ds ∨ cs = '+' :: ds) ∧ ds ≠ [] ∧ (∀ c ∈ ds, c.isDigit = true) ∧
      n = Nat.ofDigitChars 10 ds 0 ∧ n ≤ r.highest := by
  constructor
  · intro h
    have hread {ds : List Char} (hne : ds ≠ []) (hcs : cs = ds ∨ cs = '+' :: ds) (hds : digits r false 0 ds = .ok n) :
        ∃ ds, (cs = ds ∨ cs = '+' :: ds) ∧ ds ≠ [] ∧ (∀ c ∈ ds, c.isDigit = true) ∧
          n = Nat.ofDigitChars 10 ds 0 ∧ n ≤ r.highest := by
      obtain ⟨hdigit, hn, hle⟩ := digits_ok hds hhigh
      exact ⟨ds, hcs, hne, hdigit, hn, hle⟩
    unfold ofChars at h
    split at h
    · cases h
    · cases h
    · cases h
    · next ds hne =>
      refine hread ?_ (.inr rfl) h
      rintro rfl
      exact hne rfl
    · rw [if_neg (by omega)] at h
      cases h
    · next hnil _ _ _ _ => exact hread (fun he => hnil he) (.inl rfl) h
  · rintro ⟨ds, hcs, hne, hdigit, rfl, hle⟩
    have hread := digits_eq_ofDigitChars (by omega) 0 hdigit hle
    obtain ⟨c, rest, rfl⟩ := List.exists_cons_of_ne_nil hne
    rcases hcs with rfl | rfl
    · rw [ofChars_of_isDigit (hdigit c List.mem_cons_self)]
      exact hread
    · exact hread

theorem read_toString (hlow : r.lowest ≤ 0) {n : Nat} (hhigh : (n : Int) ≤ r.highest) :
    read r (toString n) = .ok (n : Int) := by
  have hdigit := isDigit_toString (n := n)
  have hspelled : Nat.ofDigitChars 10 (toString n).toList 0 = n := by
    rw [Nat.toString_eq_repr, Nat.toList_repr]
    exact Nat.ofDigitChars_toDigits (by decide) (by decide)
  have hread := digits_eq_ofDigitChars hlow 0 hdigit (by rwa [hspelled])
  rw [hspelled] at hread
  rw [read]
  cases hcs : (toString n).toList with
  | nil => exact absurd hcs (toList_toString_ne_nil n)
  | cons c cs =>
    rw [hcs] at hread hdigit
    rw [ofChars_of_isDigit (hdigit c List.mem_cons_self)]
    exact hread

end Integer

end SqlComposer
