/-
  SqlComposer.Proofs.Text.Chars — fronts of texts, trimmed texts, and marks inside texts.

  Every text has a longest front of one class, which what follows does not go on with
  (`exists_span`, `span_append`). A text is trimmed when it neither begins nor ends with a
  blank. Trimming gives such a text (`trimmed_trim`) and leaves it as it is
  (`trim_of_trimmed`); what it takes off is white space (`exists_trim`). A mark stands
  across no character that it does not hold, so such a character splits the search for it
  (`contains_append_cons`).
-/

import Mathlib.Data.List.TakeDrop
import Mathlib.Data.List.TakeWhile
import SqlComposer.Text.Blank

namespace SqlComposer

namespace Chars

/-! ## Spans -/

/-- The longest front of one class is what a text begins with, when what follows begins with none of it. -/
theorem span_append {p : Char → Bool} {cs rest : List Char} (h : ∀ c ∈ cs, p c = true)
    (hrest : ∀ c ∈ rest.head?, p c = false) : (cs ++ rest).span p = (cs, rest) := by
  rw [List.span_eq_takeWhile_dropWhile, List.takeWhile_append_of_pos h, List.dropWhile_append_of_pos h]
  cases rest with
  | nil => simp
  | cons c rest => simp [hrest c rfl]

theorem exists_span (p : Char → Bool) (cs : List Char) :
    ∃ front rest, cs = front ++ rest ∧ (∀ c ∈ front, p c = true) ∧ ∀ c ∈ rest.head?, p c = false := by
  refine ⟨cs.takeWhile p, cs.dropWhile p, List.takeWhile_append_dropWhile.symm, ?_, ?_⟩
  · exact fun c hc => List.all_eq_true.mp List.all_takeWhile c hc
  · intro c hc
    have hnot := List.head?_dropWhile_not p cs
    rw [hc] at hnot
    simpa using hnot

/-! ## Trimming -/

structure Trimmed (cs : List Char) : Prop where
  start : ∀ c ∈ cs.head?, isBlank c = false
  finish : ∀ c ∈ cs.getLast?, isBlank c = false

theorem dropWhile_of_head {p : Char → Bool} {cs : List Char} (h : ∀ c ∈ cs.head?, p c = false) : cs.dropWhile p = cs := by
  cases cs with
  | nil => rfl
  | cons c cs => simp [h c rfl]

/-- White space before a text is taken off, and nothing else. -/
theorem trimStart_append {gap cs : List Char} (hgap : ∀ c ∈ gap, isBlank c = true)
    (hcs : ∀ c ∈ cs.head?, isBlank c = false) : trimStart (gap ++ cs) = cs := by
  rw [trimStart, List.dropWhile_append_of_pos hgap, dropWhile_of_head hcs]

theorem head_dropWhile (cs : List Char) : ∀ c ∈ (cs.dropWhile isBlank).head?, isBlank c = false := by
  intro c hc
  have := List.head?_dropWhile_not isBlank cs
  rw [hc] at this
  exact this

theorem trimEnd_of_finish {cs : List Char} (h : ∀ c ∈ cs.getLast?, isBlank c = false) : trimEnd cs = cs := by
  have hend : ∀ c ∈ cs.reverse.head?, isBlank c = false := by
    rw [List.head?_reverse]
    exact h
  rw [trimEnd, dropWhile_of_head hend, List.reverse_reverse]

theorem trim_of_trimmed {cs : List Char} (h : Trimmed cs) : trim cs = cs := by
  rw [trim, trimStart, dropWhile_of_head h.start, trimEnd_of_finish h.finish]

theorem finish_of_suffix {xs ys : List Char} (h : ys <:+ xs) (hxs : ∀ c ∈ xs.getLast?, isBlank c = false) :
    ∀ c ∈ ys.getLast?, isBlank c = false := by
  obtain ⟨front, rfl⟩ := h
  intro c hc
  have hc : ys.getLast? = some c := hc
  refine hxs c ?_
  rw [List.getLast?_append, hc]
  rfl

theorem trimEnd_prefix (cs : List Char) : trimEnd cs <+: cs := by
  have hback := List.reverse_prefix.mpr (List.dropWhile_suffix (l := cs.reverse) isBlank)
  rwa [List.reverse_reverse] at hback

theorem trimmed_trim (cs : List Char) : Trimmed (trim cs) where
  start c hc := by
    obtain ⟨rest, hrest⟩ := trimEnd_prefix (trimStart cs)
    have hhead : c ∈ (trimStart cs).head? := by
      have hc : (trimEnd (trimStart cs)).head? = some c := hc
      rw [← hrest, List.head?_append, hc]
      rfl
    exact head_dropWhile cs c hhead
  finish c hc := by
    rw [trim, trimEnd, List.getLast?_reverse] at hc
    exact head_dropWhile _ c hc

theorem trimEnd_append_cons {c : Char} (hc : isBlank c = false) (xs ys : List Char) :
    trimEnd (xs ++ c :: ys) = xs ++ c :: trimEnd ys := by
  have hkept : (c :: xs.reverse).dropWhile isBlank = c :: xs.reverse := List.dropWhile_cons_of_neg (by simp [hc])
  rw [trimEnd, trimEnd, List.reverse_append, List.reverse_cons, List.append_assoc, List.singleton_append,
    List.dropWhile_append, hkept]
  split
  · next hys => simp [List.isEmpty_iff.mp hys]
  · simp

theorem trimEnd_append_blank {blanks : List Char} (h : ∀ c ∈ blanks, isBlank c = true) (cs : List Char) :
    trimEnd (cs ++ blanks) = trimEnd cs := by
  have hreverse : ∀ c ∈ blanks.reverse, isBlank c = true := fun c hc => h c (List.mem_reverse.mp hc)
  rw [trimEnd, List.reverse_append, List.dropWhile_append_of_pos hreverse, trimEnd]

/-- A text is trimmed when what it begins and ends with is, whatever stands between. -/
theorem trimmed_append {xs ys : List Char} (hxs : xs ≠ []) (hys : ys ≠ []) (hstart : ∀ c ∈ xs.head?, isBlank c = false)
    (hfinish : ∀ c ∈ ys.getLast?, isBlank c = false) (between : List Char) : Trimmed (xs ++ between ++ ys) := by
  have hhead : (xs ++ between ++ ys).head? = xs.head? := by
    rw [List.append_assoc, List.head?_append, List.head?_eq_some_head hxs, Option.some_or]
  have hlast : (xs ++ between ++ ys).getLast? = ys.getLast? := by
    rw [List.getLast?_append, List.getLast?_eq_some_getLast hys, Option.some_or]
  exact ⟨hhead ▸ hstart, hlast ▸ hfinish⟩

theorem length_trim_le (cs : List Char) : (trim cs).length ≤ cs.length := by
  have hend := trimEnd_prefix (trimStart cs)
  exact hend.length_le.trans (List.dropWhile_suffix isBlank).length_le

/-- A text is its trimmed text with white space around it. -/
theorem exists_trim (cs : List Char) :
    ∃ pre post, cs = pre ++ (trim cs ++ post) ∧ (∀ c ∈ pre, isBlank c = true) ∧ ∀ c ∈ post, isBlank c = true := by
  have hstart : cs = cs.takeWhile isBlank ++ trimStart cs := List.takeWhile_append_dropWhile.symm
  have hend : trimStart cs = trim cs ++ ((trimStart cs).reverse.takeWhile isBlank).reverse := by
    rw [trim, trimEnd, ← List.reverse_append, List.takeWhile_append_dropWhile, List.reverse_reverse]
  refine ⟨cs.takeWhile isBlank, ((trimStart cs).reverse.takeWhile isBlank).reverse, ?_, ?_, ?_⟩
  · rw [← hend]
    exact hstart
  · exact fun c hc => List.all_eq_true.mp List.all_takeWhile c hc
  · exact fun c hc => List.all_eq_true.mp List.all_takeWhile c (List.mem_reverse.mp hc)

theorem length_trimEnd_le {xs ys : List Char} (h : ys <:+ xs) : (trimEnd ys).length ≤ (trimEnd xs).length := by
  obtain ⟨front, rfl⟩ := h
  rw [trimEnd, trimEnd, List.length_reverse, List.length_reverse, List.reverse_append, List.dropWhile_append]
  split
  · next hys => simp [List.isEmpty_iff.mp hys]
  · simp

theorem trim_eq_nil {cs : List Char} : trim cs = [] ↔ ∀ c ∈ cs, isBlank c = true := by
  constructor
  · intro h
    obtain ⟨pre, post, hsplit, hpre, hpost⟩ := exists_trim cs
    rw [hsplit, h]
    exact List.forall_mem_append.mpr ⟨hpre, hpost⟩
  · intro h
    have hstart : trimStart cs = [] := List.dropWhile_eq_nil_iff.mpr h
    rw [trim, hstart]
    rfl

theorem not_mem_of_blank {cs : List Char} (h : ∀ c ∈ cs, isBlank c = true) {c : Char} (hc : isBlank c = false) :
    c ∉ cs := by
  intro hmem
  rw [h c hmem] at hc
  cases hc

theorem trim_surrounded {pre post : List Char} (hpre : ∀ c ∈ pre, isBlank c = true)
    (hpost : ∀ c ∈ post, isBlank c = true) (cs : List Char) : trim (pre ++ (cs ++ post)) = trim cs := by
  have hstart : trimStart (pre ++ (cs ++ post)) = trimStart (cs ++ post) := List.dropWhile_append_of_pos hpre
  rw [trim, hstart, trimStart, List.dropWhile_append]
  split
  · next hcs =>
    have hcs : trimStart cs = [] := List.isEmpty_iff.mp hcs
    have hpost : post.dropWhile isBlank = [] := List.dropWhile_eq_nil_iff.mpr hpost
    rw [trim, hcs, hpost]
  · exact trimEnd_append_blank hpost _

/-! ## Marks -/

theorem stripLead_eq_some {lead cs rest : List Char} : stripLead lead cs = some rest ↔ cs = lead ++ rest := by
  induction lead generalizing cs with
  | nil => simp [stripLead]
  | cons l lead ih =>
    cases cs with
    | nil => simp [stripLead]
    | cons c cs =>
      rw [stripLead, List.cons_append, List.cons_eq_cons, ← ih]
      by_cases hc : l = c
      · simp [hc]
      · simp [hc, Ne.symm hc]

theorem stripLead_append_cons {needle : List Char} {c : Char} (hc : c ∉ needle) (xs ys : List Char) :
    (stripLead needle (xs ++ c :: ys)).isSome = (stripLead needle xs).isSome := by
  induction needle generalizing xs with
  | nil => simp [stripLead]
  | cons l ls ih =>
    obtain ⟨hl, hls⟩ : l ≠ c ∧ c ∉ ls := by simpa [eq_comm] using hc
    cases xs with
    | nil => simp [stripLead, hl]
    | cons x xs =>
      simp only [List.cons_append, stripLead]
      split
      · exact ih hls xs
      · rfl

theorem contains_nil {needle : List Char} (hne : needle ≠ []) : contains needle [] = false := by
  simpa [contains] using hne

theorem contains_append_cons {needle : List Char} {c : Char} (hne : needle ≠ []) (hc : c ∉ needle) (xs ys : List Char) :
    contains needle (xs ++ c :: ys) = (contains needle xs || contains needle ys) := by
  induction xs with
  | nil =>
    have hlead : (stripLead needle (c :: ys)).isSome = false := by
      cases needle with
      | nil => exact absurd rfl hne
      | cons l ls => simpa [stripLead] using stripLead_append_cons hc [] ys
    rw [List.nil_append, contains_nil hne, contains, hlead]
  | cons x xs ih =>
    simp only [List.cons_append, contains]
    rw [← List.cons_append, stripLead_append_cons hc, ih, Bool.or_assoc]

theorem contains_cons {needle : List Char} {c : Char} (hne : needle ≠ []) (hc : c ∉ needle) (cs : List Char) :
    contains needle (c :: cs) = contains needle cs := by
  rw [← List.nil_append (c :: cs), contains_append_cons hne hc, contains_nil hne, Bool.false_or]

/-- What lacks one of a mark's characters does not begin with the mark. -/
theorem stripLead_of_not_mem {needle : List Char} {l : Char} (hl : l ∈ needle) {cs : List Char} (hcs : l ∉ cs) :
    (stripLead needle cs).isSome = false := by
  induction needle generalizing cs with
  | nil => simp at hl
  | cons n needle ih =>
    cases cs with
    | nil => rfl
    | cons c cs =>
      obtain ⟨hlc, hcs⟩ : l ≠ c ∧ l ∉ cs := by simpa using hcs
      simp only [stripLead]
      split
      · next hnc =>
        have hln : l ≠ n := fun hln => hlc (hln.trans (by simpa using hnc))
        exact ih (by simpa [hln] using hl) hcs
      · rfl

theorem not_contains {needle : List Char} {l : Char} (hl : l ∈ needle) {cs : List Char} (hcs : l ∉ cs) :
    contains needle cs = false := by
  induction cs with
  | nil => exact contains_nil (List.ne_nil_of_mem hl)
  | cons c cs ih =>
    have hcs' : l ∉ cs := fun h => hcs (List.mem_cons_of_mem _ h)
    rw [contains, stripLead_of_not_mem hl hcs, ih hcs', Bool.false_or]

end Chars

end SqlComposer
