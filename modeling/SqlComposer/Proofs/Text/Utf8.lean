/-
  SqlComposer.Proofs.Text.Utf8 — bytes of texts, and texts of bytes.

  A byte below 0x80 is a character by itself wherever it stands: it belongs to no longer
  character, and it ends a run that could still have become one.

  Proved: decoding bytes decodes what is before such a byte and what is behind it
  (`decode_append_cons`), and no character but the byte's own is encoded with it
  (`eq_of_mem_encodeChar`).
-/

import Mathlib.Tactic.SplitIfs
import SqlComposer.Text.Utf8

namespace SqlComposer

namespace Utf8

variable {b : UInt8}

theorem encode_append (cs ds : List Char) : encode (cs ++ ds) = encode cs ++ encode ds := List.flatMap_append

theorem isContinuation_of_lt (h : b < 0x80) : isContinuation b = false := by
  have hb : ¬ 0x80 ≤ b := UInt8.not_le.mpr h
  simp [isContinuation, hb]

theorem not_admits_of_lt (h : b < 0x80) {range : Option (UInt8 × UInt8)} (hrange : ∀ r ∈ range, 0x80 ≤ r.1) :
    admits range b = false := by
  cases range with
  | none => rfl
  | some r =>
    have hlow : ¬ r.1 ≤ b := UInt8.not_le.mpr (UInt8.lt_of_lt_of_le h (hrange r rfl))
    simp [admits, hlow]

theorem secondOfThree_ge (a : UInt8) : ∀ r ∈ secondOfThree a, 0x80 ≤ r.1 := by
  unfold secondOfThree
  split
  · simp
  split
  · simp
  split <;> simp

theorem secondOfFour_ge (a : UInt8) : ∀ r ∈ secondOfFour a, 0x80 ≤ r.1 := by
  unfold secondOfFour
  split
  · simp
  split
  · simp
  split <;> simp

/-- The character at the front does not reach a byte below 0x80 behind it. -/
theorem next_append_cons (h : b < 0x80) (x : UInt8) (xs ys : List UInt8) :
    next (x :: xs ++ b :: ys) = next (x :: xs) ∧ (next (x :: xs)).1 ≤ xs.length + 1 := by
  have hcont := isContinuation_of_lt h
  have hthree := not_admits_of_lt h (secondOfThree_ge x)
  have hfour := not_admits_of_lt h (secondOfFour_ge x)
  match xs with
  | [] => by_cases hx : x < 0x80 <;> simp [next, hx, hcont, hthree, hfour]
  | [y] =>
    cases ys <;> simp only [List.cons_append, List.nil_append, next, hcont] <;> split_ifs <;> simp_all
  | [y, z] =>
    simp only [List.cons_append, List.nil_append, next, hcont]
    split_ifs <;> simp_all
  | y :: z :: w :: rest =>
    simp only [List.cons_append, next]
    split_ifs <;> simp

/-- Bytes that are skipped belong to a character in front of the byte below 0x80. -/
theorem decodeFrom_append_cons (h : b < 0x80) (xs ys : List UInt8) {skip : Nat} (hskip : skip ≤ xs.length) :
    decodeFrom skip (xs ++ b :: ys) = decodeFrom skip xs ++ Char.ofNat b.toNat :: decode ys := by
  induction xs generalizing skip with
  | nil =>
    obtain rfl : skip = 0 := Nat.le_zero.mp hskip
    have hnext : next (b :: ys) = (1, Char.ofNat b.toNat) := by simp [next, h]
    simp only [List.nil_append, decodeFrom, hnext]
    rfl
  | cons x xs ih =>
    cases skip with
    | succ skip => exact ih (Nat.le_of_succ_le_succ hskip)
    | zero =>
      obtain ⟨hnext, hsize⟩ := next_append_cons h x xs ys
      rw [List.cons_append] at hnext ⊢
      simp only [decodeFrom, hnext]
      rw [ih (Nat.sub_le_of_le_add hsize), List.cons_append]

theorem decode_append_cons (h : b < 0x80) (xs ys : List UInt8) :
    decode (xs ++ b :: ys) = decode xs ++ Char.ofNat b.toNat :: decode ys :=
  decodeFrom_append_cons h xs ys (Nat.zero_le _)

/-- A byte below 0x80 encodes the character that it is. -/
theorem eq_of_mem_encodeChar (h : b < 0x80) {c : Char} (hb : b ∈ encodeChar c) : c = Char.ofNat b.toNat := by
  have hlt : b.toNat < 0x80 := UInt8.lt_iff_toNat_lt.mp h
  unfold encodeChar String.utf8EncodeChar at hb
  dsimp only at hb
  split_ifs at hb with hone
  · obtain rfl := List.mem_singleton.mp hb
    have hval : c.val.toNat % 256 = c.val.toNat := by omega
    rw [UInt8.toNat_ofNat', hval]
    exact (Char.ofNat_toNat c).symm
  -- All bytes of a longer character are at least 0x80.
  all_goals
    simp only [List.mem_cons, List.not_mem_nil, or_false] at hb
    rcases hb with rfl | rfl | rfl | rfl <;> simp only [UInt8.toNat_ofNat'] at hlt <;> omega

end Utf8

end SqlComposer
