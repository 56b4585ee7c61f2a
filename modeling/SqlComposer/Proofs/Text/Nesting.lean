/-
  SqlComposer.Proofs.Text.Nesting — quotations and parentheses, and lists of what they hold together.

  A text is balanced when it is made of plain characters, quotations, and groups in
  parentheses that are balanced inside. A quotation ends at the first character like the
  one it began with and may hold anything else. Commas stand inside quotations and groups.

  Proved:
  (1) the closed texts, which a scan of their characters finds, are the balanced ones
      (`closed_iff_balanced`);
  (2) closed terms, written as the entries of a list with white space around them and with
      blank entries among them, are read back (`Text.commaList_spread`).
-/

import SqlComposer.Proofs.Text.CommaLists

namespace SqlComposer

namespace CommaList

/-! ## Balanced texts -/

def IsQuote (c : Char) : Prop := c ∈ "'\"\x60".toList

/-- Quotations and groups one behind another and inside each other, with plain characters between them; `inner` for
what stands in a group, where commas are as good as plain characters. -/
inductive Balanced : Bool → List Char → Prop
  | nil {inner : Bool} : Balanced inner []
  | plain {inner : Bool} {c : Char} {cs : List Char} : IsPlain c → Balanced inner cs → Balanced inner (c :: cs)
  | comma {cs : List Char} : Balanced true cs → Balanced true (',' :: cs)
  | quotation {inner : Bool} {q : Char} {body cs : List Char} : IsQuote q → q ∉ body → Balanced inner cs →
      Balanced inner (q :: (body ++ q :: cs))
  | group {inner : Bool} {body cs : List Char} : Balanced true body → Balanced inner cs →
      Balanced inner ('(' :: (body ++ ')' :: cs))

/-! ## Scanning -/

theorem IsQuote.eq {c : Char} (h : IsQuote c) : c = '\'' ∨ c = '"' ∨ c = '\x60' := by simpa [IsQuote] using h

namespace Depth

variable {n : Nat} {c q : Char} {cs rest body : List Char}

theorem after_quote (h : IsQuote c) : after ⟨none, n⟩ c = ⟨some c, n⟩ := by
  rcases h.eq with rfl | rfl | rfl <;> rfl

theorem after_quoted (q c : Char) (n : Nat) : after ⟨some q, n⟩ c = if c = q then ⟨none, n⟩ else ⟨some q, n⟩ := by
  by_cases hc : c = q <;> simp [after, hc]

/-- A quotation is left at its closing character. -/
theorem closes_quotation (h : q ∉ body) : closes ⟨some q, n⟩ (body ++ q :: rest) = closes ⟨none, n⟩ rest := by
  induction body with
  | nil => rw [List.nil_append, closes, after_quoted, if_pos rfl]; rfl
  | cons c body ih =>
    obtain ⟨hc, hbody⟩ := not_or.mp (mt List.mem_cons.mpr h)
    rw [List.cons_append, closes, after_quoted, if_neg (Ne.symm hc), ih hbody]
    rfl

theorem exists_quotation (h : closes ⟨some q, n⟩ cs = true) :
    ∃ body rest, cs = body ++ q :: rest ∧ q ∉ body ∧ closes ⟨none, n⟩ rest = true := by
  induction cs with
  | nil => cases h
  | cons c cs ih =>
    have hcs := (closes_cons.mp h).2
    rw [after_quoted] at hcs
    by_cases hc : c = q
    · rw [if_pos hc] at hcs
      exact ⟨[], cs, by rw [hc, List.nil_append], List.not_mem_nil, hcs⟩
    · rw [if_neg hc] at hcs
      obtain ⟨body, rest, rfl, hbody, hrest⟩ := ih hcs
      exact ⟨c :: body, rest, rfl, mt List.mem_cons.mp (not_or.mpr ⟨Ne.symm hc, hbody⟩), hrest⟩

end Depth

open Depth

/-- A scan comes out of a balanced text as it went in. -/
theorem Balanced.closes_append {inner : Bool} {cs : List Char} (h : Balanced inner cs) {n : Nat}
    (hn : inner = true → n ≠ 0) (rest : List Char) : closes ⟨none, n⟩ (cs ++ rest) = closes ⟨none, n⟩ rest := by
  induction h generalizing n rest with
  | nil => rfl
  | plain hc _ ih =>
    obtain ⟨hcomma, -, hclose, -⟩ := hc.ne
    rw [List.cons_append, closes, after_plain hc, ih hn]
    simp [hcomma, hclose]
  | comma _ ih =>
    have hinside : isTop ⟨none, n⟩ = false := by simp [isTop, hn rfl]
    rw [List.cons_append, closes, hinside]
    exact ih hn rest
  | @quotation inner q body cs hq hbody _ ih =>
    have hneither : (q == ',' || q == ')') = false := by rcases hq.eq with rfl | rfl | rfl <;> rfl
    rw [List.cons_append, List.append_assoc, List.cons_append, closes, after_quote hq, closes_quotation hbody, ih hn,
      hneither, Bool.and_false]
    rfl
  | @group inner body cs _ _ ihBody ih =>
    rw [List.cons_append, List.append_assoc, List.cons_append]
    calc closes ⟨none, n⟩ ('(' :: (body ++ ')' :: (cs ++ rest)))
        = closes ⟨none, n + 1⟩ (body ++ ')' :: (cs ++ rest)) := by rw [closes]; simp [after]
      _ = closes ⟨none, n + 1⟩ (')' :: (cs ++ rest)) := ihBody (fun _ => Nat.succ_ne_zero n) _
      _ = closes ⟨none, n⟩ (cs ++ rest) := by rw [closes]; simp [after, isTop]
      _ = closes ⟨none, n⟩ rest := ih hn rest

/-- What may follow `n` opening parentheses: balanced texts, with a closing one behind each but the last. -/
def Closing : Nat → List Char → Prop
  | 0, cs => Balanced false cs
  | n + 1, cs => ∃ body rest, cs = body ++ ')' :: rest ∧ Balanced true body ∧ Closing n rest

namespace Closing

variable {n : Nat} {c q : Char} {body cs : List Char}

theorem prepend {lead : List Char} (hlead : ∀ {inner cs}, Balanced inner cs → Balanced inner (lead ++ cs))
    (h : Closing n cs) : Closing n (lead ++ cs) := by
  cases n with
  | zero => exact hlead h
  | succ n =>
    obtain ⟨body, rest, rfl, hbody, hrest⟩ := h
    exact ⟨lead ++ body, rest, (List.append_assoc ..).symm, hlead hbody, hrest⟩

theorem plain (hc : IsPlain c) (h : Closing n cs) : Closing n (c :: cs) := by
  rw [← List.singleton_append]
  exact h.prepend (.plain hc)

theorem quotation (hq : IsQuote q) (hbody : q ∉ body) (h : Closing n cs) : Closing n (q :: (body ++ q :: cs)) := by
  have hall : q :: (body ++ q :: cs) = (q :: (body ++ [q])) ++ cs := by simp
  rw [hall]
  exact h.prepend fun h => by simpa using Balanced.quotation hq hbody h

theorem opening (h : Closing (n + 1) cs) : Closing n ('(' :: cs) := by
  obtain ⟨body, rest, rfl, hbody, hrest⟩ := h
  have hall : '(' :: (body ++ ')' :: rest) = ('(' :: (body ++ [')'])) ++ rest := by simp
  rw [hall]
  exact hrest.prepend fun h => by simpa using Balanced.group hbody h

theorem closing (h : Closing n cs) : Closing (n + 1) (')' :: cs) := ⟨[], cs, rfl, .nil, h⟩

theorem comma (h : Closing (n + 1) cs) : Closing (n + 1) (',' :: cs) := by
  obtain ⟨body, rest, rfl, hbody, hrest⟩ := h
  exact ⟨',' :: body, rest, rfl, .comma hbody, hrest⟩

end Closing

theorem isPlain_or (c : Char) : IsPlain c ∨ IsQuote c ∨ c = '(' ∨ c = ')' ∨ c = ',' := by
  by_cases hplain : IsPlain c
  · exact .inl hplain
  · have hmark : c = ',' ∨ c = '(' ∨ c = ')' ∨ c = '\'' ∨ c = '"' ∨ c = '\x60' := by
      simpa [IsPlain, or_iff_not_imp_left] using hplain
    rcases hmark with rfl | rfl | rfl | rfl | rfl | rfl <;> simp [IsQuote]

theorem closing_of_closes {n : Nat} {cs : List Char} (h : closes ⟨none, n⟩ cs = true) : Closing n cs := by
  -- on the length: what follows a quotation is not the tail of the text
  induction hlength : cs.length using Nat.strong_induction_on generalizing n cs with
  | _ length ih =>
    subst hlength
    cases cs with
    | nil =>
      obtain rfl : n = 0 := by simpa [closes, isTop] using h
      exact .nil
    | cons c cs =>
      obtain ⟨hc, hcs⟩ := closes_cons.mp h
      rcases isPlain_or c with hplain | hquote | rfl | rfl | rfl
      · rw [after_plain hplain] at hcs
        exact .plain hplain (ih _ (Nat.lt_succ_self _) hcs rfl)
      · rw [after_quote hquote] at hcs
        obtain ⟨body, rest, rfl, hbody, hrest⟩ := exists_quotation hcs
        exact .quotation hquote hbody (ih rest.length (by simp; omega) hrest rfl)
      · exact .opening (ih _ (Nat.lt_succ_self _) hcs rfl)
      · cases n with
        | zero => exact absurd rfl (hc rfl).2
        | succ n => exact .closing (ih _ (Nat.lt_succ_self _) hcs rfl)
      · cases n with
        | zero => exact absurd rfl (hc rfl).1
        | succ n => exact .comma (ih _ (Nat.lt_succ_self _) hcs rfl)

theorem closed_iff_balanced {cs : List Char} : Closed cs ↔ Balanced false cs := by
  refine ⟨closing_of_closes, fun h => ?_⟩
  have hscan := h.closes_append (n := 0) (by simp) []
  rw [List.append_nil] at hscan
  exact hscan

/-! ## Terms of a list -/

/-- A text that is read as one term, and as it stands. -/
structure Term (t : String) : Prop where
  nonempty : t ≠ ""
  trimmed : Text.trim t = t
  closed : Closed t.toList

/-- The entries say these terms in their order, with white space around them, and others say nothing. -/
inductive Spread : List String → List String → Prop
  | nil : Spread [] []
  | blank {terms entries : List String} {e : String} : Text.isBlank e = true → Spread terms entries →
      Spread terms (e :: entries)
  | term {terms entries : List String} {t e : String} : Text.Around t e → Spread terms entries →
      Spread (t :: terms) (e :: entries)

theorem Spread.closed {terms entries : List String} (h : Spread terms entries) (hterms : ∀ t ∈ terms, Term t) :
    ∀ e ∈ entries, Closed e.toList := by
  induction h with
  | nil => simp
  | blank he _ ih => exact List.forall_mem_cons.mpr ⟨closed_of_blank (Text.isBlank_iff.mp he), ih hterms⟩
  | term he _ ih =>
    obtain ⟨ht, hterms⟩ := List.forall_mem_cons.mp hterms
    exact List.forall_mem_cons.mpr ⟨he.closed ht.closed, ih hterms⟩

theorem Spread.filter_trim {terms entries : List String} (h : Spread terms entries) (hterms : ∀ t ∈ terms, Term t) :
    (entries.map Text.trim).filter (· ≠ "") = terms := by
  induction h with
  | nil => rfl
  | @blank _ _ e he _ ih =>
    have hnothing : Text.trim e = "" := by
      rw [Text.trim, List.isEmpty_iff.mp he]
    rw [List.map_cons, hnothing]
    exact ih hterms
  | @term _ _ t e he _ ih =>
    obtain ⟨ht, hterms⟩ := List.forall_mem_cons.mp hterms
    have hsaid : decide (t ≠ "") = true := decide_eq_true ht.nonempty
    rw [List.map_cons, he.trim_eq, ht.trimmed, List.filter_cons, if_pos hsaid, ih hterms]

end CommaList

open CommaList

/-- The closed texts are those whose quotations and parentheses are balanced, with commas inside of them only; and
terms that are closed, trimmed and not empty are read back from a list, whatever white space is around them and however
many blank entries are among them. -/
theorem Text.commaList_spread :
    (∀ cs, Closed cs ↔ Balanced false cs) ∧
      ∀ terms entries, (∀ t ∈ terms, Term t) → Spread terms entries → commaList (join "," entries) = terms := by
  refine ⟨fun _ => closed_iff_balanced, fun terms entries hterms h => ?_⟩
  rw [commaList_join (h.closed hterms), h.filter_trim hterms]

/-- Calls inside a call, marks of one kind inside a quotation of another, and three blank entries. -/
theorem Text.commaList_spread_nested :
    let terms := ["COALESCE(a, 'it\"), (s', f(b, c))", "\x60d,e\x60", "g"]
    let entries := ["", " COALESCE(a, 'it\"), (s', f(b, c))\t", "  ", "\x60d,e\x60", "\n g", "\t"]
    (∀ t ∈ terms, Term t ∧ Balanced false t.toList) ∧ Spread terms entries ∧ commaList (join "," entries) = terms := by
  intro terms entries
  have hterms : ∀ t ∈ terms, Term t :=
    List.forall_mem_cons.mpr ⟨⟨by decide, by decide, rfl⟩,
      List.forall_mem_cons.mpr ⟨⟨by decide, by decide, rfl⟩,
        List.forall_mem_cons.mpr ⟨⟨by decide, by decide, rfl⟩, by simp⟩⟩⟩
  have hspread : Spread terms entries :=
    .blank rfl (.term ⟨" ", "\t", rfl, rfl, rfl⟩ (.blank rfl (.term ⟨"", "", rfl, rfl, rfl⟩
      (.term ⟨"\n ", "", rfl, rfl, rfl⟩ (.blank rfl .nil)))))
  obtain ⟨hclosed, hread⟩ := commaList_spread
  exact ⟨fun t ht => ⟨hterms t ht, (hclosed _).mp (hterms t ht).closed⟩, hspread, hread terms entries hterms hspread⟩

end SqlComposer
