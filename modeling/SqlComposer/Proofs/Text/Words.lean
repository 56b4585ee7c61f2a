/-
  SqlComposer.Proofs.Text.Words — the words of a text, and what words are compared by.

  White space separates words. Key words and aliases are compared without regard to letter
  case, as Unicode folds it; a function is called where a word comes before an opening
  parenthesis.

  Proved: the first word of a text is what reading takes from its front
  (`Chars.exists_word`), and the last one is what stands behind the last white space
  (`Chars.words_of_splitLast`); one word alone is the trimmed text (`Chars.trim_of_words`).
  The readers of aliases, of the word AS and of calls recognize just what folds to them
  (`Chars.isIdentifier_iff`, `Chars.stripAs_word`) and what calls (`Text.hasCall_iff`).
-/

import Mathlib.Tactic.Tauto
import SqlComposer.Proofs.Text.Letters
import SqlComposer.Proofs.Text.Splitting
import SqlComposer.Text.Call

namespace SqlComposer

namespace Chars

/-! ## Words -/

/-- The words of a text, which white space separates. -/
def words (cs : List Char) : List (List Char) := (splitOn isBlank cs).filter (!·.isEmpty)

/-- Nothing, or white space first. -/
def Ended (cs : List Char) : Prop := ∀ c ∈ cs.head?, isBlank c = true

theorem words_append_cons {b : Char} (hb : isBlank b = true) (xs ys : List Char) :
    words (xs ++ b :: ys) = words xs ++ words ys := by
  rw [words, splitOn_append_cons hb, List.filter_append, words, words]

theorem words_of_word {w : List Char} (hne : w ≠ []) (hw : ∀ c ∈ w, isBlank c = false) : words w = [w] := by
  rw [words, splitOn_of_none hw]
  simp [hne]

theorem words_blank_append {gap : List Char} (hgap : ∀ c ∈ gap, isBlank c = true) (cs : List Char) :
    words (gap ++ cs) = words cs := by
  induction gap with
  | nil => rfl
  | cons b gap ih =>
    obtain ⟨hb, hgap⟩ := List.forall_mem_cons.mp hgap
    have hsplit := words_append_cons hb [] (gap ++ cs)
    rw [List.nil_append] at hsplit
    rw [List.cons_append, hsplit, ih hgap]
    rfl

theorem words_append_blank {gap : List Char} (hgap : ∀ c ∈ gap, isBlank c = true) (cs : List Char) :
    words (cs ++ gap) = words cs := by
  cases gap with
  | nil => rw [List.append_nil]
  | cons b gap =>
    obtain ⟨hb, hgap⟩ := List.forall_mem_cons.mp hgap
    have hnone := words_blank_append hgap []
    rw [List.append_nil] at hnone
    rw [words_append_cons hb, hnone]
    exact List.append_nil _

theorem words_trimStart (cs : List Char) : words (trimStart cs) = words cs := by
  have hstart : cs.takeWhile isBlank ++ trimStart cs = cs := List.takeWhile_append_dropWhile
  have hgap : ∀ c ∈ cs.takeWhile isBlank, isBlank c = true := fun c hc => List.all_eq_true.mp List.all_takeWhile c hc
  rw [← words_blank_append hgap, hstart]

theorem words_trim (cs : List Char) : words (trim cs) = words cs := by
  obtain ⟨pre, post, hsplit, hpre, hpost⟩ := exists_trim cs
  calc words (trim cs) = words (pre ++ (trim cs ++ post)) := by rw [words_blank_append hpre, words_append_blank hpost]
    _ = words cs := by rw [← hsplit]

/-- A word at the front is the first one. -/
theorem words_word_append {w rest : List Char} (hne : w ≠ []) (hw : ∀ c ∈ w, isBlank c = false) (hrest : Ended rest) :
    words (w ++ rest) = w :: words rest := by
  cases rest with
  | nil =>
    rw [List.append_nil, words_of_word hne hw]
    rfl
  | cons b rest =>
    have hb : isBlank b = true := hrest b rfl
    have hgap : words ([b] ++ rest) = words rest := words_blank_append (by simpa using hb) rest
    rw [List.singleton_append] at hgap
    rw [words_append_cons hb, words_of_word hne hw, hgap, List.singleton_append]

theorem exists_word {cs : List Char} (hne : cs ≠ []) (hstart : ∀ c ∈ cs.head?, isBlank c = false) :
    ∃ w rest, takeWord cs = (w, rest) ∧ cs = w ++ rest ∧ w ≠ [] ∧ (∀ c ∈ w, isBlank c = false) ∧ Ended rest ∧
      words cs = w :: words rest := by
  obtain ⟨w, rest, rfl, hplain, hstop⟩ := exists_span (!isBlank ·) cs
  have hw : ∀ c ∈ w, isBlank c = false := fun c hc => by simpa using hplain c hc
  have hrest : Ended rest := fun c hc => by simpa using hstop c hc
  have hword : w ≠ [] := by
    rintro rfl
    obtain ⟨c, rest, rfl⟩ := List.exists_cons_of_ne_nil hne
    have hc := hstart c rfl
    rw [hrest c rfl] at hc
    cases hc
  exact ⟨w, rest, span_append hplain hstop, rfl, hword, hw, hrest, words_word_append hword hw hrest⟩

theorem words_eq_nil {cs : List Char} : words cs = [] ↔ trim cs = [] := by
  constructor
  · intro h
    by_contra hne
    obtain ⟨w, rest, -, -, -, -, -, hwords⟩ := exists_word hne (trimmed_trim cs).start
    rw [words_trim, h] at hwords
    cases hwords
  · intro h
    rw [← words_trim, h]
    rfl

theorem words_ne_nil {cs : List Char} (hne : cs ≠ []) (hfinish : ∀ c ∈ cs.getLast?, isBlank c = false) :
    words cs ≠ [] := by
  intro hnil
  have hblank : ∀ c ∈ cs, isBlank c = true := trim_eq_nil.mp (words_eq_nil.mp hnil)
  have hlast := hfinish _ (List.getLast?_eq_some_getLast hne)
  rw [hblank _ (List.getLast_mem hne)] at hlast
  cases hlast

/-- A text of one word is that word, with white space around it. -/
theorem trim_of_words {cs w : List Char} (h : words cs = [w]) : trim cs = w := by
  have hne : trim cs ≠ [] := by
    intro hnil
    rw [words_eq_nil.mpr hnil] at h
    cases h
  obtain ⟨v, rest, -, hsplit, -, -, hrest, hwords⟩ := exists_word hne (trimmed_trim cs).start
  rw [words_trim, h] at hwords
  obtain ⟨rfl, hnone⟩ := List.cons.inj hwords
  have hblank : ∀ c ∈ rest, isBlank c = true := trim_eq_nil.mp (words_eq_nil.mp hnone.symm)
  cases hlast : rest.getLast? with
  | none =>
    rw [List.getLast?_eq_none_iff.mp hlast, List.append_nil] at hsplit
    exact hsplit
  | some b =>
    have hend : (trim cs).getLast? = some b := by rw [hsplit, List.getLast?_append, hlast, Option.some_or]
    have hb : isBlank b = false := (trimmed_trim cs).finish b hend
    rw [hblank b (List.mem_of_mem_getLast? hlast)] at hb
    cases hb

theorem words_of_splitLast {cs before w : List Char} (h : splitLast isBlank cs = some (before, w)) (hne : w ≠ []) :
    words cs = words before ++ [w] := by
  obtain ⟨b, hb, rfl, hw⟩ := splitLast_some h
  rw [words_append_cons hb, words_of_word hne hw]

/-- The last word of a text of several stands behind the last white space. -/
theorem exists_lastWord {cs : List Char} (hfinish : ∀ c ∈ cs.getLast?, isBlank c = false)
    (hblank : ∃ b ∈ cs, isBlank b = true) :
    ∃ before w, splitLast isBlank cs = some (before, w) ∧ (∀ c ∈ w, isBlank c = false) ∧
      (words cs).getLast? = some w := by
  cases hsplit : splitLast isBlank cs with
  | none =>
    obtain ⟨b, hb, hblank⟩ := hblank
    rw [splitLast_eq_none.mp hsplit b hb] at hblank
    cases hblank
  | some split =>
    obtain ⟨before, w⟩ := split
    obtain ⟨b, hb, rfl, hw⟩ := splitLast_some hsplit
    have hne : w ≠ [] := by
      rintro rfl
      rw [hfinish b (by simp)] at hb
      cases hb
    refine ⟨before, w, rfl, hw, ?_⟩
    rw [words_of_splitLast hsplit hne, List.getLast?_append]
    rfl

/-! ## The word AS -/

theorem stripAs_blank {c : Char} (hc : isBlank c = true) (cs : List Char) : stripAs (c :: cs) = none := by
  have ha : fold c ≠ 'a' := fold_ne_of_blank hc (by decide)
  cases cs <;> simp [stripAs, foldsToA_eq, ha]

/-- A first word that is AS, in whichever letter case, is taken off with the white space behind it. -/
theorem stripAs_word {k : List Char} {b : Char} (hk : ∀ c ∈ k, isBlank c = false) (hb : isBlank b = true)
    (rest : List Char) :
    stripAs (k ++ b :: rest) = if k.map fold = ['a', 's'] then some (trimStart (b :: rest)) else none := by
  match k with
  | [] => exact stripAs_blank hb rest
  | [x] =>
    have hs : fold b ≠ 's' := fold_ne_of_blank hb (by decide)
    simp [stripAs, foldsToS_eq, hs]
  | [x, y] => simp [stripAs, foldsToA_eq, foldsToS_eq, hb]
  | x :: y :: z :: k =>
    have hz : isBlank z = false := hk z (by simp)
    simp [stripAs, hz]

theorem stripAs_of_word {w : List Char} (hw : ∀ c ∈ w, isBlank c = false) : stripAs w = none := by
  match w with
  | [] => rfl
  | [x] => rfl
  | [x, y] => simp [stripAs]
  | x :: y :: z :: w =>
    have hz : isBlank z = false := hw z (by simp)
    simp [stripAs, hz]

/-! ## Calls -/

/-- White space or none, and then an opening parenthesis. -/
def Opens (cs : List Char) : Prop := ∃ gap after, cs = gap ++ '(' :: after ∧ ∀ b ∈ gap, isBlank b = true

/-- A parenthesis opens behind a word in the text. -/
def Calls (cs : List Char) : Prop := ∃ before c after, cs = before ++ c :: after ∧ isWordChar c = true ∧ Opens after

theorem not_opens_nil : ¬ Opens [] := by
  rintro ⟨gap, after, h, -⟩
  cases gap <;> cases h

theorem opens_cons {c : Char} {cs : List Char} : Opens (c :: cs) ↔ c = '(' ∨ (isBlank c = true ∧ Opens cs) := by
  constructor
  · rintro ⟨gap, after, h, hgap⟩
    cases gap with
    | nil => exact .inl (List.cons.inj h).1
    | cons b gap =>
      obtain ⟨rfl, rfl⟩ := List.cons.inj h
      obtain ⟨hc, hgap⟩ := List.forall_mem_cons.mp hgap
      exact .inr ⟨hc, gap, after, rfl, hgap⟩
  · rintro (rfl | ⟨hc, gap, after, rfl, hgap⟩)
    · exact ⟨[], cs, rfl, by simp⟩
    · exact ⟨c :: gap, after, rfl, List.forall_mem_cons.mpr ⟨hc, hgap⟩⟩

theorem not_calls_nil : ¬ Calls [] := by
  rintro ⟨before, c, after, h, -⟩
  cases before <;> cases h

theorem calls_cons {c : Char} {cs : List Char} : Calls (c :: cs) ↔ (isWordChar c = true ∧ Opens cs) ∨ Calls cs := by
  constructor
  · rintro ⟨before, d, after, h, hd⟩
    cases before with
    | nil =>
      obtain ⟨rfl, rfl⟩ := List.cons.inj h
      exact .inl hd
    | cons b before =>
      obtain ⟨rfl, rfl⟩ := List.cons.inj h
      exact .inr ⟨before, d, after, rfl, hd⟩
  · rintro (h | ⟨before, d, after, rfl, hd⟩)
    · exact ⟨[], c, cs, rfl, h⟩
    · exact ⟨c :: before, d, after, rfl, hd⟩

/-- The search finds a call in the text, and behind a word also a parenthesis that opens at its front. -/
theorem hasCall_iff {behindWord : Bool} {cs : List Char} :
    hasCall behindWord cs = true ↔ (behindWord = true ∧ Opens cs) ∨ Calls cs := by
  induction cs generalizing behindWord with
  | nil => simp [hasCall, not_opens_nil, not_calls_nil]
  | cons c cs ih =>
    rw [hasCall, opens_cons, calls_cons]
    by_cases hfound : behindWord = true ∧ c = '('
    · simp [hfound]
    · rw [if_neg (by simpa using hfound), ih]
      simp only [Bool.or_eq_true, Bool.and_eq_true]
      tauto

end Chars

/-! ## On strings -/

namespace Text

def words (s : String) : List String := (Chars.words s.toList).map String.ofList

theorem trim_word {w : List Char} (hw : ∀ c ∈ w, SqlComposer.isBlank c = false) :
    trim (String.ofList w) = String.ofList w := by
  have htrimmed : Chars.Trimmed w :=
    ⟨fun c hc => hw c (List.mem_of_mem_head? hc), fun c hc => hw c (List.mem_of_mem_getLast? hc)⟩
  rw [trim, String.toList_ofList, Chars.trim_of_trimmed htrimmed]

/-- What begins and ends without white space is left as it is. -/
theorem trim_append {s t : String} (hs : s ≠ "") (ht : t ≠ "")
    (hstart : ∀ c ∈ s.toList.head?, SqlComposer.isBlank c = false)
    (hfinish : ∀ c ∈ t.toList.getLast?, SqlComposer.isBlank c = false) (between : String) :
    trim (s ++ between ++ t) = s ++ between ++ t := by
  have htrimmed := Chars.trimmed_append (by simpa using hs) (by simpa using ht) hstart hfinish between.toList
  rw [trim, String.toList_append, String.toList_append, Chars.trim_of_trimmed htrimmed, ← String.toList_append,
    ← String.toList_append, String.ofList_toList]

theorem fold_eq_as {s : String} : fold s = "as" ↔ s.toList.map Chars.fold = ['a', 's'] := by
  rw [fold, ← String.toList_inj, String.toList_ofList]
  rfl

theorem hasCall_iff {s : String} : hasCall s = true ↔ Chars.Calls s.toList := by
  simp [hasCall, Chars.hasCall_iff]

end Text

end SqlComposer
