/-
  SqlComposer.Proofs.Text.Splitting — texts split at separators.

  Proved: a separator splits a text into the pieces before it and those behind it
  (`splitOn_append_cons`); a piece holds characters of the text, and no separator
  (`mem_of_mem_splitOn`); a text without separators is one piece (`splitOn_of_none`), and
  only such a text has no last separator (`splitLast_eq_none`); behind the last one there is
  no other (`splitLast_some`).
-/

import SqlComposer.Proofs.Text.Chars
import SqlComposer.Text.CommaList

namespace SqlComposer

namespace Chars

variable {p : Char → Bool} {cs piece : List Char}

theorem splitOn_ne_nil (p : Char → Bool) (cs : List Char) : splitOn p cs ≠ [] := by
  cases cs with
  | nil => simp [splitOn]
  | cons c cs => rw [splitOn]; split <;> simp

theorem splitOn_separator {s : Char} (hs : p s = true) (cs : List Char) : splitOn p (s :: cs) = [] :: splitOn p cs := by
  simp [splitOn, hs]

/-- A character that is no separator goes to the piece behind it. -/
theorem splitOn_plain {c : Char} (hc : p c = false) (cs : List Char) :
    ∃ piece pieces, splitOn p cs = piece :: pieces ∧ splitOn p (c :: cs) = (c :: piece) :: pieces := by
  obtain ⟨piece, pieces, hcs⟩ := List.exists_cons_of_ne_nil (splitOn_ne_nil p cs)
  exact ⟨piece, pieces, hcs, by simp [splitOn, hc, hcs]⟩

theorem splitOn_append_cons {s : Char} (hs : p s = true) (xs ys : List Char) :
    splitOn p (xs ++ s :: ys) = splitOn p xs ++ splitOn p ys := by
  induction xs with
  | nil => exact splitOn_separator hs ys
  | cons x xs ih =>
    rw [List.cons_append]
    by_cases hx : p x = true
    · rw [splitOn_separator hx, splitOn_separator hx, ih, List.cons_append]
    · have hx : p x = false := eq_false_of_ne_true hx
      obtain ⟨first, rest, hxs, hcons⟩ := splitOn_plain hx xs
      obtain ⟨first', rest', hall, hcons'⟩ := splitOn_plain hx (xs ++ s :: ys)
      rw [ih, hxs, List.cons_append] at hall
      obtain ⟨rfl, rfl⟩ := List.cons_eq_cons.mp hall
      rw [hcons', hcons, List.cons_append]

theorem mem_of_mem_splitOn (h : piece ∈ splitOn p cs) : ∀ c ∈ piece, c ∈ cs ∧ p c = false := by
  induction cs generalizing piece with
  | nil =>
    obtain rfl : piece = [] := by simpa [splitOn] using h
    intro c hc
    cases hc
  | cons x xs ih =>
    have later : ∀ q ∈ splitOn p xs, ∀ c ∈ q, c ∈ x :: xs ∧ p c = false := by
      intro q hq c hc
      obtain ⟨hmem, hplain⟩ := ih hq c hc
      exact ⟨List.mem_cons_of_mem x hmem, hplain⟩
    by_cases hx : p x = true
    · rw [splitOn_separator hx] at h
      rcases List.mem_cons.mp h with rfl | h
      · intro c hc
        cases hc
      · exact later piece h
    · have hx : p x = false := eq_false_of_ne_true hx
      obtain ⟨first, rest, hxs, hcons⟩ := splitOn_plain hx xs
      rw [hcons] at h
      rw [hxs] at later
      rcases List.mem_cons.mp h with rfl | h
      · intro c hc
        rcases List.mem_cons.mp hc with rfl | hc
        · exact ⟨List.mem_cons_self, hx⟩
        · exact later first List.mem_cons_self c hc
      · exact later piece (List.mem_cons_of_mem first h)

theorem splitOn_of_none (h : ∀ c ∈ cs, p c = false) : splitOn p cs = [cs] := by
  induction cs with
  | nil => rfl
  | cons c cs ih =>
    obtain ⟨hc, hcs⟩ := List.forall_mem_cons.mp h
    obtain ⟨first, rest, hsplit, hcons⟩ := splitOn_plain hc cs
    rw [ih hcs] at hsplit
    obtain ⟨rfl, rfl⟩ := List.cons_eq_cons.mp hsplit
    exact hcons

/-! ## The first separator -/

/-- What stands in front without a separator goes to the text before the first one. -/
theorem splitFirst_append {s : Char} {xs : List Char} (h : s ∉ xs) (ys : List Char) :
    splitFirst s (xs ++ ys) = (splitFirst s ys).map fun (before, after) => (xs ++ before, after) := by
  induction xs with
  | nil => simp
  | cons x xs ih =>
    obtain ⟨hx, hxs⟩ : x ≠ s ∧ s ∉ xs := by simpa [eq_comm] using h
    rw [List.cons_append, splitFirst, if_neg (by simp [hx]), ih hxs, Option.map_map]
    rfl

/-! ## The last separator -/

theorem splitLast_eq_none {p : Char → Bool} {cs : List Char} : splitLast p cs = none ↔ ∀ c ∈ cs, p c = false := by
  induction cs with
  | nil => simp [splitLast]
  | cons c cs ih =>
    rw [splitLast, List.forall_mem_cons, ← ih]
    cases splitLast p cs <;> simp

/-- What stands behind the last separator holds none. -/
theorem splitLast_some {p : Char → Bool} {cs before after : List Char} (h : splitLast p cs = some (before, after)) :
    ∃ c, p c = true ∧ cs = before ++ c :: after ∧ ∀ a ∈ after, p a = false := by
  induction cs generalizing before with
  | nil => cases h
  | cons c cs ih =>
    rw [splitLast] at h
    cases hcs : splitLast p cs with
    | some split =>
      rw [hcs] at h
      obtain ⟨rfl, rfl⟩ := Prod.mk.inj (Option.some.inj h)
      obtain ⟨b, hb, hsplit, hafter⟩ := ih hcs
      exact ⟨b, hb, congrArg (c :: ·) hsplit, hafter⟩
    | none =>
      rw [hcs] at h
      dsimp only at h
      split at h
      · next hc =>
        obtain ⟨rfl, rfl⟩ := Prod.mk.inj (Option.some.inj h)
        exact ⟨c, hc, rfl, splitLast_eq_none.mp hcs⟩
      · cases h

theorem splitLast_append_cons {p : Char → Bool} {c : Char} {after : List Char} (hc : p c = true)
    (hafter : ∀ a ∈ after, p a = false) (before : List Char) :
    splitLast p (before ++ c :: after) = some (before, after) := by
  induction before with
  | nil => rw [List.nil_append, splitLast, splitLast_eq_none.mpr hafter, hc, if_pos rfl]
  | cons b before ih => rw [List.cons_append, splitLast, ih]

end Chars

/-! ## Comma-separated lists -/

theorem CommaList.pieces_of_not_mem {cs : List Char} (h : ',' ∉ cs) (d : Depth) : pieces d cs = [cs] := by
  induction cs generalizing d with
  | nil => rfl
  | cons c cs ih =>
    obtain ⟨hc, hcs⟩ : c ≠ ',' ∧ ',' ∉ cs := by simpa [eq_comm] using h
    rw [pieces, if_neg (by simp [hc]), ih hcs]

theorem Text.commaList_of_blank {s : String} (h : Text.isBlank s = true) : Text.commaList s = [] := by
  have htrim : Chars.trim s.toList = [] := List.isEmpty_iff.mp h
  have hcomma : ',' ∉ s.toList := Chars.not_mem_of_blank (Chars.trim_eq_nil.mp htrim) (by decide)
  rw [Text.commaList, CommaList.pieces_of_not_mem hcomma, List.map_singleton, htrim]
  rfl

end SqlComposer
