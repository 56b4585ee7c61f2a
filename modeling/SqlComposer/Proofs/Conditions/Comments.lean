/-
  SqlComposer.Proofs.Conditions.Comments — predicates of numbers, and minus signs that
  meet.

  Two minus signs in a row begin a comment in SQL. Key words and numbers are written
  without quotes, and a negative number begins with a minus sign; no other minus sign is
  in them. So one that meets another can only be its first, directly behind a minus sign
  of the template: a clash.

  Proved:
  (1) text has no two minus signs in a row when none of them stands next to another
      (`Chars.contains_dashes`), and text without minus signs around it does not matter;
  (2) key words and numbers are rendered in every dialect, with a minus sign at most in
      front (`Value.render_unquoted`);
  (3) filling a template without comments gives one exactly where there is a clash
      (`Chars.uncommented_fill`), and so does rendering a predicate
      (`Predicate.render_comment_iff`). There are clashes: `debit -? > 40` with -5
      (`Predicate.render_begins_comment`).
-/

import Mathlib.Data.List.Chain
import SqlComposer.Proofs.Conditions.Restricting
import SqlComposer.Proofs.Number.Numerals

namespace SqlComposer

/-! ## Minus signs in a row -/

namespace Chars

/-- Not both are minus signs. -/
def Apart (a b : Char) : Prop := a = '-' → b ≠ '-'

/-- No minus sign stands next to another one. -/
def Uncommented (cs : List Char) : Prop := cs.IsChain Apart

theorem stripLead_dashes (c : Char) (cs : List Char) :
    (stripLead "--".toList (c :: cs)).isSome = true ↔ c = '-' ∧ cs.head? = some '-' := by
  by_cases hc : c = '-'
  · subst hc
    cases cs with
    | nil => simp [stripLead]
    | cons x xs =>
      by_cases hx : x = '-'
      · subst hx
        simp [stripLead]
      · simp [stripLead, hx, Ne.symm hx]
  · simp [stripLead, hc, Ne.symm hc]

theorem contains_dashes (cs : List Char) : contains "--".toList cs = false ↔ Uncommented cs := by
  induction cs with
  | nil => simp [contains, Uncommented]
  | cons c cs ih =>
    rw [contains, Bool.or_eq_false_iff, ih, Uncommented, Uncommented, List.isChain_cons, ← Bool.not_eq_true,
      stripLead_dashes]
    refine and_congr_left fun _ => ?_
    constructor
    · intro h y hy hc hdash
      subst hdash
      exact h ⟨hc, hy⟩
    · rintro h ⟨hc, hy⟩
      exact h '-' hy hc rfl

theorem uncommented_of_not_mem {cs : List Char} (h : '-' ∉ cs) : Uncommented cs := by
  rw [← contains_dashes]
  exact not_contains List.mem_cons_self h

theorem uncommented_append_left {xs : List Char} (hxs : '-' ∉ xs) (ys : List Char) :
    Uncommented (xs ++ ys) ↔ Uncommented ys := by
  rw [Uncommented, List.isChain_append]
  constructor
  · intro h
    exact h.2.1
  · intro h
    refine ⟨uncommented_of_not_mem hxs, h, ?_⟩
    rintro x hx y _ rfl
    exact absurd (List.mem_of_mem_getLast? hx) hxs

theorem uncommented_append_right {ys : List Char} (hys : '-' ∉ ys) (xs : List Char) :
    Uncommented (xs ++ ys) ↔ Uncommented xs := by
  rw [Uncommented, List.isChain_append]
  constructor
  · intro h
    exact h.1
  · intro h
    refine ⟨h, uncommented_of_not_mem hys, ?_⟩
    rintro x _ y hy _ rfl
    exact absurd (List.mem_of_mem_head? hy) hys

end Chars

/-! ## Key words and numbers -/

/-- A text that begins with a minus sign or not, and has no other one. -/
def Signed (negative : Bool) (s : String) : Prop :=
  ∃ body, body ≠ [] ∧ '-' ∉ body ∧ s.toList = (if negative then ['-'] else []) ++ body

namespace Signed

theorem head_iff {negative : Bool} {s : String} (h : Signed negative s) (rest : List Char) :
    (s.toList ++ rest).head? = some '-' ↔ negative = true := by
  obtain ⟨body, hne, hplain, hs⟩ := h
  rw [hs]
  cases negative with
  | true => simp
  | false =>
    obtain ⟨c, body, rfl⟩ := List.exists_cons_of_ne_nil hne
    have hc : c ≠ '-' := fun hc => hplain (by simp [hc])
    simp [hc]

/-- Its own minus sign meets none behind it. -/
theorem uncommented_append {negative : Bool} {s : String} (h : Signed negative s) (rest : List Char) :
    Chars.Uncommented (s.toList ++ rest) ↔ Chars.Uncommented rest := by
  obtain ⟨body, hne, hplain, hs⟩ := h
  have hbody : Chars.Uncommented (body ++ rest) ↔ Chars.Uncommented rest := Chars.uncommented_append_left hplain rest
  rw [hs]
  cases negative with
  | false => exact hbody
  | true =>
    obtain ⟨c, body, rfl⟩ := List.exists_cons_of_ne_nil hne
    have hc : c ≠ '-' := fun hc => hplain (by simp [hc])
    show Chars.Uncommented ('-' :: c :: (body ++ rest)) ↔ _
    rw [Chars.Uncommented, List.isChain_cons_cons, ← hbody]
    exact and_iff_right fun _ => hc

end Signed

namespace Value

/-- Written as a key word or a number. -/
def isUnquoted : Value → Bool
  | .null | .bool _ | .int _ | .uint _ | .float _ => true
  | _ => false

/-- An integer below zero, or a finite double with a minus sign, negative zero among them. -/
def isNegative : Value → Bool
  | .int n => n < 0
  | .float x => (Binary.ofFloat x).isSome && Number.isNegative x
  | _ => false

theorem dash_not_mem {body : List Char} (h : ∀ c ∈ body, isNumeralChar c = true) : '-' ∉ body :=
  fun hmem => absurd (h '-' hmem) (by decide)

theorem render_unquoted {v : Value} (hv : v.isUnquoted = true) (d : Dialect) :
    ∃ sql, v.render d = .ok sql ∧ Signed v.isNegative sql := by
  have word (s : String) (hs : s.toList ≠ []) (hplain : '-' ∉ s.toList) : Signed false s :=
    ⟨s.toList, hs, hplain, rfl⟩
  cases v with
  | null => exact ⟨_, rfl, word "NULL" (by decide) (by decide)⟩
  | bool b => cases b with
    | true => exact ⟨_, rfl, word "TRUE" (by decide) (by decide)⟩
    | false => exact ⟨_, rfl, word "FALSE" (by decide) (by decide)⟩
  | int n =>
    refine ⟨_, rfl, Nat.toDigits 10 n.toInt.natAbs, Nat.toDigits_ne_nil, dash_not_mem isNumeralChar_toDigits, ?_⟩
    show (toString n.toInt).toList = _
    rw [toList_toString_int]
    simp [isNegative, Int64.lt_iff_toInt_lt]
  | uint n =>
    have hdigits : (toString n).toList = Nat.toDigits 10 n.toNat := by
      show (toString n.toNat).toList = _
      rw [Nat.toString_eq_repr, Nat.toList_repr]
    refine ⟨_, rfl, word _ ?_ ?_⟩
    · rw [hdigits]
      exact Nat.toDigits_ne_nil
    · rw [hdigits]
      exact dash_not_mem isNumeralChar_toDigits
  | float x =>
    have hnegative : isNegative (.float x) = ((Binary.ofFloat x).isSome && Number.isNegative x) := rfl
    refine ⟨_, rfl, ?_⟩
    rw [hnegative, Number.text?]
    cases Binary.ofFloat x with
    | none => exact word "NULL" (by decide) (by decide)
    | some b =>
      refine ⟨(Decimal.shortest .up b).positional, Decimal.positional_ne_nil _,
        dash_not_mem (isNumeralChar_positional _), ?_⟩
      simp
  | text s => cases hv
  | expr e => cases hv
  | select s => cases hv

theorem signed_sql {v : Value} (hv : v.isUnquoted = true) (d : Dialect) : Signed v.isNegative (v.sql d) := by
  obtain ⟨sql, hsql, hsigned⟩ := render_unquoted hv d
  rw [sql_of_render hsql]
  exact hsigned

end Value

/-! ## Clashes -/

namespace Chars

/-- A question mark directly behind a minus sign takes a negative number; the values go to the question marks from the
left. -/
def Clash (cs : List Char) (values : List Value) : Prop :=
  ∃ before after v, cs = before ++ '-' :: '?' :: after ∧ values[before.count '?']? = some v ∧ v.isNegative = true

theorem not_clash_nil (cs : List Char) : ¬ Clash cs [] := by
  rintro ⟨before, after, v, -, hv, -⟩
  simp at hv

theorem clash_mark (cs : List Char) (v : Value) (values : List Value) :
    Clash ('?' :: cs) (v :: values) ↔ Clash cs values := by
  constructor
  · rintro ⟨before, after, w, hcs, hw, hnegative⟩
    cases before with
    | nil => simp at hcs
    | cons b before =>
      obtain ⟨rfl, rfl⟩ := List.cons_eq_cons.mp hcs
      exact ⟨before, after, w, rfl, by simpa using hw, hnegative⟩
  · rintro ⟨before, after, w, rfl, hw, hnegative⟩
    exact ⟨'?' :: before, after, w, rfl, by simpa using hw, hnegative⟩

theorem clash_cons {c : Char} (hc : c ≠ '?') (cs : List Char) (values : List Value) :
    Clash (c :: cs) values ↔
      (c = '-' ∧ cs.head? = some '?' ∧ ∃ v ∈ values.head?, v.isNegative = true) ∨ Clash cs values := by
  constructor
  · rintro ⟨before, after, v, hcs, hv, hnegative⟩
    cases before with
    | nil =>
      obtain ⟨rfl, rfl⟩ := List.cons_eq_cons.mp hcs
      exact .inl ⟨rfl, rfl, v, by simpa [List.head?_eq_getElem?] using hv, hnegative⟩
    | cons b before =>
      obtain ⟨rfl, rfl⟩ := List.cons_eq_cons.mp hcs
      exact .inr ⟨before, after, v, rfl, by simpa [List.count_cons_of_ne hc] using hv, hnegative⟩
  · rintro (⟨rfl, hmark, v, hv, hnegative⟩ | ⟨before, after, v, rfl, hv, hnegative⟩)
    · obtain ⟨after, rfl⟩ := List.head?_eq_some_iff.mp hmark
      exact ⟨[], after, v, rfl, by simpa [List.head?_eq_getElem?] using hv, hnegative⟩
    · exact ⟨c :: before, after, v, rfl, by simpa [List.count_cons_of_ne hc] using hv, hnegative⟩

/-- A filled template begins with a minus sign where a negative number does. -/
theorem head_fill {d : Dialect} {values : List Value} (hvalues : ∀ v ∈ values, v.isUnquoted = true) {cs : List Char}
    (hcs : cs.head? ≠ some '-') :
    (fill cs (values.map (Value.sql d))).head? = some '-' ↔
      cs.head? = some '?' ∧ ∃ v ∈ values.head?, v.isNegative = true := by
  cases cs with
  | nil => simp [fill]
  | cons c cs =>
    by_cases hc : c = '?'
    · subst hc
      cases values with
      | nil => simp [fill]
      | cons v values =>
        rw [List.map_cons, fill, (Value.signed_sql (hvalues v List.mem_cons_self) d).head_iff]
        simp
    · have hdash : c ≠ '-' := by simpa using hcs
      rw [fill_cons hc]
      simp [hc, hdash]

theorem uncommented_fill (d : Dialect) {values : List Value} (hvalues : ∀ v ∈ values, v.isUnquoted = true)
    {cs : List Char} (hcs : Uncommented cs) :
    Uncommented (fill cs (values.map (Value.sql d))) ↔ ¬ Clash cs values := by
  induction cs generalizing values with
  | nil =>
    refine iff_of_true (by simp [fill, Uncommented]) ?_
    rintro ⟨before, after, v, hnil, -⟩
    simp at hnil
  | cons c cs ih =>
    obtain ⟨hhead, htail⟩ := List.isChain_cons.mp hcs
    by_cases hc : c = '?'
    · subst hc
      cases values with
      | nil =>
        rw [List.map_nil, fill_nil]
        exact iff_of_true hcs (not_clash_nil _)
      | cons v values =>
        obtain ⟨hv, hrest⟩ := List.forall_mem_cons.mp hvalues
        rw [List.map_cons, fill, (Value.signed_sql hv d).uncommented_append, clash_mark]
        exact ih hrest htail
    · rw [fill_cons hc, Uncommented, List.isChain_cons, clash_cons hc, not_or]
      refine and_congr ?_ (ih hvalues htail)
      by_cases hdash : c = '-'
      · have hnext : cs.head? ≠ some '-' := fun h => hhead '-' h hdash rfl
        subst hdash
        rw [← head_fill hvalues hnext]
        constructor
        · rintro h ⟨-, hhead⟩
          exact h '-' hhead rfl rfl
        · rintro h y hy - rfl
          exact h ⟨rfl, hy⟩
      · refine iff_of_true ?_ ?_
        · intro y _ h
          exact absurd h hdash
        · intro h
          exact hdash h.1

/-! ## White space around templates -/

theorem fill_append_left {pre : List Char} (h : '?' ∉ pre) (cs : List Char) (texts : List String) :
    fill (pre ++ cs) texts = pre ++ fill cs texts := by
  induction pre with
  | nil => rfl
  | cons c pre ih =>
    obtain ⟨hc, hpre⟩ : c ≠ '?' ∧ '?' ∉ pre := by simpa [eq_comm] using h
    rw [List.cons_append, fill_cons hc, ih hpre, List.cons_append]

theorem fill_append_right {post : List Char} (h : '?' ∉ post) (cs : List Char) (texts : List String) :
    fill (cs ++ post) texts = fill cs texts ++ post := by
  induction cs generalizing texts with
  | nil =>
    have hpost := fill_append_left h [] texts
    simpa [fill] using hpost
  | cons c cs ih =>
    by_cases hc : c = '?'
    · subst hc
      cases texts with
      | nil => simp [fill_nil]
      | cons t texts => simp [fill, ih]
    · rw [List.cons_append, fill_cons hc, ih, fill_cons hc, List.cons_append]

end Chars

/-! ## Predicates -/

namespace Predicate

theorem templateOf_cases (template : String) :
    templateOf template = tautology ∨ (templateOf template).toList = Chars.trim template.toList := by
  unfold templateOf Text.trim
  dsimp only
  split
  · exact .inl rfl
  · exact .inr String.toList_ofList

/-- The white space around a template, and the tautology in the place of an empty one, neither add nor take away a
clash. -/
theorem uncommented_fill_templateOf (d : Dialect) {template : String} {values : List Value} {p : Predicate}
    (hplain : Text.contains template "--" = false) (hvalues : ∀ v ∈ values, v.isUnquoted = true)
    (hp : make template values = .ok p) :
    Chars.Uncommented (Chars.fill (templateOf template).toList (values.map (Value.sql d))) ↔
      ¬ Chars.Clash template.toList values := by
  rcases templateOf_cases template with htautology | htrim
  · have hnil : values = [] := by
      rcases (WhereClause.matched_of_make (r := ⟨.and, template, values⟩) hp).1 with hnil | hcount
      · exact hnil
      · have hmarks : tautology.toList.count '?' = 0 := by decide
        dsimp only at hcount
        rw [htautology, hmarks] at hcount
        exact List.length_eq_zero_iff.mp hcount
    subst hnil
    rw [htautology, List.map_nil, Chars.fill_nil]
    exact iff_of_true (Chars.uncommented_of_not_mem (by decide)) (Chars.not_clash_nil _)
  · obtain ⟨pre, post, hsplit, hpre, hpost⟩ := Chars.exists_trim template.toList
    have hfilled := Chars.uncommented_fill d hvalues ((Chars.contains_dashes template.toList).mp hplain)
    rw [← hfilled, htrim]
    conv_rhs => rw [hsplit]
    rw [Chars.fill_append_left (Chars.not_mem_of_blank hpre (by decide)),
      Chars.fill_append_right (Chars.not_mem_of_blank hpost (by decide)),
      Chars.uncommented_append_left (Chars.not_mem_of_blank hpre (by decide)),
      Chars.uncommented_append_right (Chars.not_mem_of_blank hpost (by decide))]

/-- A predicate of key words and numbers is rendered in every dialect, and begins a comment exactly where a question
mark directly behind a minus sign takes a negative number. -/
theorem render_comment_iff {template : String} {values : List Value} {p : Predicate}
    (hplain : Text.contains template "--" = false) (hvalues : ∀ v ∈ values, v.isUnquoted = true)
    (hp : make template values = .ok p) (d : Dialect) :
    ∃ sql, p.render d = .ok sql ∧ (Text.contains sql "--" = true ↔ Chars.Clash template.toList values) := by
  have hrendered : ∀ v ∈ values, ∃ sql, v.render d = .ok sql := by
    intro v hv
    obtain ⟨sql, hsql, -⟩ := Value.render_unquoted (hvalues v hv) d
    exact ⟨sql, hsql⟩
  obtain ⟨-, rfl⟩ := WhereClause.matched_of_make (r := ⟨.and, template, values⟩) hp
  refine ⟨String.ofList (Chars.fill (templateOf template).toList (values.map (Value.sql d))), ?_, ?_⟩
  · rw [render, Value.renderAll_eq_sql hrendered]
    rfl
  · have huncommented := uncommented_fill_templateOf d hplain hvalues hp
    rw [← Chars.contains_dashes, ← Bool.not_eq_true, not_iff_not] at huncommented
    rw [← huncommented]
    exact iff_of_eq (congrArg (Chars.contains "--".toList · = true) String.toList_ofList)

/-- A difference and a comparison of negative numbers, the minus sign of the template apart from the number's. -/
theorem render_comment_iff_of_difference :
    let values := [Value.int (-5), .int (-40)]
    Text.contains "debit - ? > ?" "--" = false ∧ (∀ v ∈ values, v.isUnquoted = true) ∧
      make "debit - ? > ?" values = .ok ⟨"debit - ? > ?", values⟩ ∧
      ∃ sql, Predicate.render (.offline .postgres) ⟨"debit - ? > ?", values⟩ = .ok sql ∧
        (Text.contains sql "--" = true ↔ Chars.Clash "debit - ? > ?".toList values) := by
  intro values
  have plain : Text.contains "debit - ? > ?" "--" = false := by decide
  have unquoted : ∀ v ∈ values, v.isUnquoted = true := by simp [values, Value.isUnquoted]
  have made : make "debit - ? > ?" values = .ok ⟨"debit - ? > ?", values⟩ := rfl
  exact ⟨plain, unquoted, made, render_comment_iff plain unquoted made _⟩

/-- Without the blank the two signs meet. -/
theorem render_begins_comment :
    let p : Predicate := ⟨"debit -? > 40", [.int (-5)]⟩
    Text.contains "debit -? > 40" "--" = false ∧ (∀ v ∈ p.values, v.isUnquoted = true) ∧
      make "debit -? > 40" [.int (-5)] = .ok p ∧
      ∀ e : Engine, (p.render (.offline e)).toOption = some "debit --5 > 40" ∧
        Text.contains "debit --5 > 40" "--" = true := by
  intro p
  have rendered (e : Engine) : (p.render (.offline e)).toOption = some "debit --5 > 40" := by
    cases e <;> decide +kernel +revert
  exact ⟨by decide, by simp [p, Value.isUnquoted], rfl, fun e => ⟨rendered e, by decide⟩⟩

end Predicate

end SqlComposer
