/-
  SqlComposer.Proofs.Naming.Quoting — quoted identifiers, read and quoted again.

  A quoted identifier is a row of segments with dots between them, each one a bare star or
  a body between two quotes.

  Proved (`Ident.quoted_normal_form`): a body is not empty, is trimmed, and holds no dot and
  no quote of either engine, so nothing in a name ends its quoting early. Reading leaves
  quotes out (`Ident.parse_toSql`), so a quoted identifier is read as the one it was written
  from; quoting it again changes nothing, and quoting it for the other engine is the same
  as quoting the original for it.
-/

import SqlComposer.Dialect
import SqlComposer.Proofs.Naming.Segments

namespace SqlComposer

namespace Ident

/-- The quotes of both engines. -/
def quotes : List Char := ['\x60', '"']

theorem isQuote_iff {c : Char} : isQuote c = true ↔ c ∈ quotes := by simp [isQuote, quotes]

theorem quoteChar_mem_quotes (e : Engine) : e.quoteChar ∈ quotes := by cases e <;> decide

/-! ## Without quotes -/

theorem segments_unquoted (cs : List Char) : segments (cs.filter (!isQuote ·)) = segments cs := by
  rw [segments, segments, List.filter_filter]
  simp

theorem Segment.unquoted_partSql {part : String} (h : Segment part) {q : Char} (hq : q ∈ quotes) :
    (partSql q part).toList.filter (!isQuote ·) = part.toList := by
  have hquote : isQuote q = true := isQuote_iff.mpr hq
  unfold partSql
  by_cases hstar : part = "*"
  · subst hstar
    exact h.unquoted
  · simp [hstar, Char.toString, hquote, h.unquoted]

/-- All that quoting adds to a row of segments is quotes. -/
theorem unquoted_toSql {parts : List String} (h : ∀ part ∈ parts, Segment part) {q : Char} (hq : q ∈ quotes) :
    (toSql q ⟨parts⟩).toList.filter (!isQuote ·) = (Text.join "." parts).toList := by
  induction parts with
  | nil => rfl
  | cons part rest ih =>
    obtain ⟨hpart, hrest⟩ := List.forall_mem_cons.mp h
    have hfirst := hpart.unquoted_partSql hq
    cases rest with
    | nil => simpa [toSql, Text.join] using hfirst
    | cons next rest =>
      have hnext := ih hrest
      simp only [toSql, List.map_cons] at hnext ⊢
      rw [toList_join_cons, toList_join_cons, List.filter_append, List.filter_cons_of_pos (by decide), hfirst,
        hnext]

/-- An identifier is read back from its quoted text. -/
theorem parse_toSql {parts : List String} (h : ∀ part ∈ parts, Segment part) {q : Char} (hq : q ∈ quotes) :
    parse (toSql q ⟨parts⟩) = ⟨parts⟩ := by
  have hsegments : segments (toSql q ⟨parts⟩).toList = segments (Text.join "." parts).toList := by
    rw [← segments_unquoted, unquoted_toSql h hq]
  rw [parse, hsegments]
  exact parse_join h

/-! ## The normal form -/

/-- What stands between two dots of a quoted identifier. -/
theorem Segment.partSql_cases {part : String} (h : Segment part) (q : Char) :
    partSql q part = "*" ∨ ∃ body, partSql q part = q.toString ++ body ++ q.toString ∧ body ≠ "" ∧
      Text.trim body = body ∧ ∀ c ∈ body.toList, c ≠ '.' ∧ c ∉ quotes := by
  unfold partSql
  by_cases hstar : part = "*"
  · left
    simp [hstar]
  · right
    refine ⟨part, by simp [hstar], h.nonempty, h.trim_eq, ?_⟩
    intro c hc
    obtain ⟨hdot, hquote⟩ := h.plain c hc
    exact ⟨hdot, fun hmem => by simp [isQuote_iff.mpr hmem] at hquote⟩

/-- A quoted identifier is a row of bare stars and of bodies in quotes, which are not empty, trimmed, and free of dots
and quotes; it is read as what it was written from, so quoting it for any engine is quoting the original. -/
theorem quoted_normal_form {q : Char} (hq : q ∈ quotes) (q2 : Char) (s : String) :
    (∃ rows : List String, (parse s).toSql q = Text.join "." rows ∧
      ∀ row ∈ rows, row = "*" ∨ ∃ body, row = q.toString ++ body ++ q.toString ∧ body ≠ "" ∧ Text.trim body = body ∧
        ∀ c ∈ body.toList, c ≠ '.' ∧ c ∉ quotes) ∧
      parse ((parse s).toSql q) = parse s ∧
      (parse ((parse s).toSql q)).toSql q2 = (parse s).toSql q2 ∧
      ∀ e e2 : Engine, e2.quoteIdentifier (e.quoteIdentifier s) = e2.quoteIdentifier s := by
  have hsegment : ∀ part ∈ (parse s).parts, Segment part := fun part hpart => segment_of_parse hpart
  have hback {q : Char} (hq : q ∈ quotes) : parse ((parse s).toSql q) = parse s := parse_toSql hsegment hq
  refine ⟨⟨(parse s).parts.map (partSql q), rfl, ?_⟩, hback hq, ?_, ?_⟩
  · intro row hrow
    obtain ⟨part, hpart, rfl⟩ := List.mem_map.mp hrow
    exact (hsegment part hpart).partSql_cases q
  · rw [hback hq]
  · intro e e2
    rw [Engine.quoteIdentifier, Engine.quoteIdentifier, hback (quoteChar_mem_quotes e)]
    rfl

/-- A star, an empty segment, blanks inside quotes and both kinds of quotes. -/
theorem quoted_normal_form_mixed :
    '\x60' ∈ quotes ∧ (parse "\x60 my app\x60..\"us\x60ers\".*").toSql '\x60' = "\x60my app\x60.\x60users\x60.*" ∧
      parse "\x60my app\x60.\x60users\x60.*" = parse "\x60 my app\x60..\"us\x60ers\".*" ∧
      (parse "\x60my app\x60.\x60users\x60.*").toSql '"' = "\"my app\".\"users\".*" := by
  have quote : '\x60' ∈ quotes := by decide
  have written : (parse "\x60 my app\x60..\"us\x60ers\".*").toSql '\x60' = "\x60my app\x60.\x60users\x60.*" := by decide
  obtain ⟨-, back, again, -⟩ := quoted_normal_form quote '"' "\x60 my app\x60..\"us\x60ers\".*"
  rw [written] at back again
  exact ⟨quote, written, back, again.trans (by decide)⟩

end Ident

end SqlComposer
