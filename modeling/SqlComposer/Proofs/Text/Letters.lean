/-
  SqlComposer.Proofs.Text.Letters — letters in either case.

  Key words are compared in upper or lower case of ASCII. Aliases, and the word AS before
  one, are compared as Unicode folds letter case: two characters from beyond ASCII fold
  into it, the long s to s and the Kelvin sign to k.

  Proved: what readers accept without regard to letter case is what folds to a lower-case
  spelling (`foldsToA_eq`, `foldsToS_eq`, `isIdentifier_iff`). Letter case makes no
  character blank (`isBlank_fold`, `isBlank_toUpper`).
-/

import SqlComposer.Compose.Table
import SqlComposer.Proofs.Number.Integers

namespace SqlComposer

namespace Chars

/-! ## ASCII -/

theorem isUpper_iff {c : Char} : c.isUpper = true ↔ 65 ≤ c.toNat ∧ c.toNat ≤ 90 := by
  change decide ('A'.val ≤ c.val ∧ c.val ≤ 'Z'.val) = true ↔ _
  rw [decide_eq_true_eq, UInt32.le_iff_toNat_le, UInt32.le_iff_toNat_le]
  rfl

theorem isLower_eq_true {c : Char} : c.isLower = true ↔ 'a'.val ≤ c.val ∧ c.val ≤ 'z'.val := by
  change (decide ('a'.val ≤ c.val) && decide (c.val ≤ 'z'.val)) = true ↔ _
  rw [Bool.and_eq_true, decide_eq_true_eq, decide_eq_true_eq]

theorem isLower_iff {c : Char} : c.isLower = true ↔ 97 ≤ c.toNat ∧ c.toNat ≤ 122 := by
  rw [isLower_eq_true, UInt32.le_iff_toNat_le, UInt32.le_iff_toNat_le]
  rfl

/-- No letter and no other sign that can be typed is blank, but the space. -/
theorem isBlank_of_graphic {c : Char} (hlow : 32 < c.toNat) (hhigh : c.toNat < 127) : isBlank c = false := by
  simp only [isBlank, Bool.or_eq_false_iff, Bool.and_eq_false_iff, decide_eq_false_iff_not, beq_eq_false_iff_ne]
  omega

theorem toLower_cases (c : Char) :
    (c.isUpper = true ∧ c.toLower.toNat = c.toNat + 32) ∨ (c.isUpper = false ∧ c.toLower = c) := by
  by_cases hc : c.isUpper = true
  · left
    obtain ⟨-, hle⟩ := isUpper_iff.mp hc
    have hlower : c.toLower.val = c.val + 32 := by
      have hif : c.toLower = _ := dif_pos (of_decide_eq_true hc)
      rw [hif]
      rfl
    have h32 : (32 : UInt32).toNat = 32 := rfl
    refine ⟨hc, ?_⟩
    change c.val.toNat ≤ 90 at hle
    change c.toLower.val.toNat = c.val.toNat + 32
    rw [hlower, UInt32.toNat_add, h32]
    omega
  · right
    have hc : c.isUpper = false := eq_false_of_ne_true hc
    exact ⟨hc, dif_neg (of_decide_eq_false hc)⟩

theorem toUpper_cases (c : Char) :
    (c.isLower = true ∧ c.toUpper.toNat + 32 = c.toNat) ∨ (c.isLower = false ∧ c.toUpper = c) := by
  by_cases hc : c.isLower = true
  · left
    obtain ⟨hge, hle⟩ := isLower_iff.mp hc
    have hupper : c.toUpper.val = c.val + 4294967264 := by
      have hif : c.toUpper = _ := dif_pos (isLower_eq_true.mp hc)
      rw [hif]
      rfl
    have hwrap : (4294967264 : UInt32).toNat = 4294967264 := rfl
    refine ⟨hc, ?_⟩
    change 97 ≤ c.val.toNat at hge
    change c.val.toNat ≤ 122 at hle
    change c.toUpper.val.toNat + 32 = c.val.toNat
    rw [hupper, UInt32.toNat_add, hwrap]
    omega
  · right
    exact ⟨eq_false_of_ne_true hc, dif_neg (mt isLower_eq_true.mpr hc)⟩

theorem isLower_toLower (c : Char) : c.toLower.isLower = c.isAlpha := by
  change c.toLower.isLower = (c.isUpper || c.isLower)
  rcases toLower_cases c with ⟨hupper, hlower⟩ | ⟨hupper, hlower⟩
  · have hbounds := isUpper_iff.mp hupper
    rw [hupper, Bool.true_or, isLower_iff]
    omega
  · rw [hlower, hupper, Bool.false_or]

theorem isBlank_toLower (c : Char) : isBlank c.toLower = isBlank c := by
  rcases toLower_cases c with ⟨hupper, hlower⟩ | ⟨-, hlower⟩
  · have hbounds := isUpper_iff.mp hupper
    rw [isBlank_of_graphic (by omega) (by omega), isBlank_of_graphic (by omega) (by omega)]
  · rw [hlower]

theorem isBlank_toUpper (c : Char) : isBlank c.toUpper = isBlank c := by
  rcases toUpper_cases c with ⟨hlower, hupper⟩ | ⟨-, hupper⟩
  · have hbounds := isLower_iff.mp hlower
    rw [isBlank_of_graphic (by omega) (by omega), isBlank_of_graphic (by omega) (by omega)]
  · rw [hupper]

/-- A lower-case letter stands for itself and the upper-case one. -/
theorem toLower_eq_iff {c d u : Char} (hd : d.toNat = u.toNat + 32) (hu : u.isUpper = true) :
    c.toLower = d ↔ c = d ∨ c = u := by
  have hbounds := isUpper_iff.mp hu
  simp only [← Char.toNat_inj]
  rcases toLower_cases c with ⟨hupper, hlower⟩ | ⟨hupper, hlower⟩
  · have hbounds' := isUpper_iff.mp hupper
    omega
  · have hnot : ¬ (65 ≤ c.toNat ∧ c.toNat ≤ 90) := by
      rw [← isUpper_iff, hupper]
      exact Bool.false_ne_true
    rw [hlower]
    omega

/-! ## Beyond ASCII -/

/-- The ASCII character that `c` counts as, without regard to letter case. Unicode folds the long s to s and the Kelvin
sign to k, and no other character from beyond ASCII into it. -/
def fold (c : Char) : Char :=
  if c = '\u017f' then 's'
  else if c = '\u212a' then 'k'
  else c.toLower

theorem fold_cases (c : Char) :
    c = '\u017f' ∨ c = '\u212a' ∨ (c ≠ '\u017f' ∧ c ≠ '\u212a' ∧ fold c = c.toLower) := by
  by_cases hs : c = '\u017f'
  · exact .inl hs
  · by_cases hk : c = '\u212a'
    · exact .inr (.inl hk)
    · exact .inr (.inr ⟨hs, hk, by rw [fold, if_neg hs, if_neg hk]⟩)

theorem isBlank_fold (c : Char) : isBlank (fold c) = isBlank c := by
  rcases fold_cases c with rfl | rfl | ⟨-, -, hfold⟩
  · decide
  · decide
  · rw [hfold, isBlank_toLower]

theorem fold_ne_of_blank {b d : Char} (hb : isBlank b = true) (hd : isBlank d = false) : fold b ≠ d := by
  rintro rfl
  rw [isBlank_fold, hb] at hd
  cases hd

theorem isFoldedLetter_eq (c : Char) : isFoldedLetter c = (fold c).isLower := by
  rcases fold_cases c with rfl | rfl | ⟨hs, hk, hfold⟩
  · decide
  · decide
  · rw [hfold, isLower_toLower, isFoldedLetter, beq_eq_false_iff_ne.mpr hs, beq_eq_false_iff_ne.mpr hk, Bool.or_false,
      Bool.or_false]

theorem foldsToA_eq (c : Char) : foldsToA c = (fold c == 'a') := by
  rcases fold_cases c with rfl | rfl | ⟨-, -, hfold⟩
  · decide
  · decide
  · have hiff : c.toLower = 'a' ↔ c = 'a' ∨ c = 'A' := toLower_eq_iff rfl rfl
    rw [Bool.eq_iff_iff, foldsToA, hfold]
    simpa using hiff.symm

theorem foldsToS_eq (c : Char) : foldsToS c = (fold c == 's') := by
  rcases fold_cases c with rfl | rfl | ⟨hs, -, hfold⟩
  · decide
  · decide
  · have hiff : c.toLower = 's' ↔ c = 's' ∨ c = 'S' := toLower_eq_iff rfl rfl
    rw [Bool.eq_iff_iff, foldsToS, hfold, beq_eq_false_iff_ne.mpr hs]
    simpa using hiff.symm

theorem isIdentifier_cons {c : Char} {cs : List Char} :
    isIdentifier (c :: cs) = true ↔ ((fold c).isLower = true ∨ c = '_') ∧
      ∀ d ∈ cs, (fold d).isLower = true ∨ d.isDigit = true ∨ d = '_' := by
  simp [isIdentifier, isFoldedLetter_eq, or_assoc]

end Chars

/-! ## Texts -/

namespace Text

/-- Texts that fold to the same one differ in letter case alone. -/
def fold (s : String) : String := String.ofList (s.toList.map Chars.fold)

/-- A letter or an underscore, then letters, digits and underscores. A letter is what folds to one of ASCII. -/
def IsName (s : String) : Prop :=
  ∃ first rest, s.toList = first :: rest ∧ ((Chars.fold first).isLower = true ∨ first = '_') ∧
    ∀ c ∈ rest, (Chars.fold c).isLower = true ∨ c.isDigit = true ∨ c = '_'

theorem isIdentifier_iff {s : String} : Chars.isIdentifier s.toList = true ↔ IsName s := by
  constructor
  · intro h
    cases hs : s.toList with
    | nil =>
      rw [hs] at h
      cases h
    | cons c cs =>
      rw [hs, Chars.isIdentifier_cons] at h
      exact ⟨c, cs, hs, h⟩
  · rintro ⟨c, cs, hs, h⟩
    rw [hs, Chars.isIdentifier_cons]
    exact h

/-- A name is one word. -/
theorem IsName.word {s : String} (h : IsName s) : ∀ c ∈ s.toList, SqlComposer.isBlank c = false := by
  have hletter {c : Char} (hc : (Chars.fold c).isLower = true) : SqlComposer.isBlank c = false := by
    have hbounds := Chars.isLower_iff.mp hc
    rw [← Chars.isBlank_fold, Chars.isBlank_of_graphic (by omega) (by omega)]
  have hunderscore : SqlComposer.isBlank '_' = false := by decide
  obtain ⟨first, rest, hs, hfirst, hrest⟩ := h
  rw [hs, List.forall_mem_cons]
  constructor
  · rcases hfirst with hfirst | rfl
    · exact hletter hfirst
    · exact hunderscore
  · intro c hc
    rcases hrest c hc with hlower | hdigit | rfl
    · exact hletter hlower
    · exact isBlank_of_isDigit hdigit
    · exact hunderscore

end Text

end SqlComposer
