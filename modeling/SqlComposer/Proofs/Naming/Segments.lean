/-
  SqlComposer.Proofs.Naming.Segments — dotted identifiers as lists of segments.

  A segment is what can stand between two dots: trimmed, not empty, and without dots and
  quotes.

  Proved: reading gives segments (`segment_of_parse`), whatever white space is around the
  name (`parse_trim`), and segments with dots between them are read as they are
  (`parse_join`); changing the last one by something that gives segments leaves segments
  (`segment_of_mapLastPart`).
-/

import SqlComposer.Ident
import SqlComposer.Proofs.Text.Chars
import SqlComposer.Proofs.Text.Splitting

namespace SqlComposer

namespace Ident

structure Segment (part : String) : Prop where
  nonempty : part ≠ ""
  trimmed : Chars.Trimmed part.toList
  plain : ∀ c ∈ part.toList, c ≠ '.' ∧ isQuote c = false

theorem Segment.trim_eq {part : String} (h : Segment part) : Text.trim part = part := by
  rw [Text.trim, Chars.trim_of_trimmed h.trimmed, String.ofList_toList]

theorem Segment.append {a b : String} (ha : Segment a) (hb : Segment b) : Segment (a ++ b) where
  nonempty := by simp [ha.nonempty]
  trimmed := by
    have hane : a.toList ≠ [] := fun he => ha.nonempty (by simpa using he)
    have hbne : b.toList ≠ [] := fun he => hb.nonempty (by simpa using he)
    have htrimmed := Chars.trimmed_append hane hbne ha.trimmed.start hb.trimmed.finish []
    rwa [List.append_nil, ← String.toList_append] at htrimmed
  plain := by
    intro c hc
    rcases List.mem_append.mp (String.toList_append ▸ hc) with hc | hc
    · exact ha.plain c hc
    · exact hb.plain c hc

/-! ## Reading -/

theorem mem_of_mem_trim {cs : List Char} : ∀ c ∈ Chars.trim cs, c ∈ cs := by
  intro c hc
  have hstart := (Chars.trimEnd_prefix (Chars.trimStart cs)).subset hc
  exact (List.dropWhile_suffix isBlank).subset hstart

theorem segment_of_segments {cs piece : List Char} (h : piece ∈ segments cs) : Segment (String.ofList piece) := by
  simp only [segments, List.mem_filter, List.mem_map, Bool.not_eq_true', List.isEmpty_eq_false_iff] at h
  obtain ⟨⟨raw, hraw, rfl⟩, hne⟩ := h
  refine ⟨?_, ?_, ?_⟩
  · intro he
    exact hne (by simpa using congrArg String.toList he)
  · rw [String.toList_ofList]
    exact Chars.trimmed_trim raw
  · rw [String.toList_ofList]
    intro c hc
    obtain ⟨hkept, hdot⟩ := Chars.mem_of_mem_splitOn hraw c (mem_of_mem_trim c hc)
    obtain ⟨_, hquote⟩ := List.mem_filter.mp hkept
    exact ⟨by simpa using hdot, by simpa using hquote⟩

theorem segment_of_parse {name part : String} (h : part ∈ (parse name).parts) : Segment part := by
  obtain ⟨piece, hpiece, rfl⟩ := List.mem_map.mp h
  exact segment_of_segments hpiece

/-! ## Reading what was joined -/

theorem segments_append_dot (xs ys : List Char) : segments (xs ++ '.' :: ys) = segments xs ++ segments ys := by
  have hfilter : (xs ++ '.' :: ys).filter (!isQuote ·) = xs.filter (!isQuote ·) ++ '.' :: ys.filter (!isQuote ·) := by
    rw [List.filter_append, List.filter_cons_of_pos (by decide)]
  rw [segments, hfilter, Chars.splitOn_append_cons (by decide), List.map_append, List.filter_append, segments, segments]

theorem segments_of_plain {cs : List Char} (h : '.' ∉ cs) :
    segments cs = [Chars.trim (cs.filter (!isQuote ·))].filter (!·.isEmpty) := by
  have hsplit : Chars.splitOn (· == '.') (cs.filter (!isQuote ·)) = [cs.filter (!isQuote ·)] := by
    refine Chars.splitOn_of_none fun c hc => ?_
    rw [beq_eq_false_iff_ne]
    rintro rfl
    exact h (List.mem_filter.mp hc).1
  rw [segments, hsplit, List.map_singleton]

/-- A text is without dots, or two texts with a dot between them. -/
@[elab_as_elim]
theorem dot_induction {motive : List Char → Prop} (cs : List Char) (plain : ∀ cs, '.' ∉ cs → motive cs)
    (dot : ∀ xs ys, motive xs → motive ys → motive (xs ++ '.' :: ys)) : motive cs := by
  by_cases h : '.' ∈ cs
  · obtain ⟨xs, ys, rfl⟩ := List.append_of_mem h
    exact dot xs ys (dot_induction xs plain dot) (dot_induction ys plain dot)
  · exact plain cs h
termination_by cs.length

/-- A segment holds no quotes that reading would leave out. -/
theorem Segment.unquoted {part : String} (h : Segment part) : part.toList.filter (!isQuote ·) = part.toList := by
  apply List.filter_eq_self.mpr
  intro c hc
  simp [(h.plain c hc).2]

theorem segments_segment {part : String} (h : Segment part) : segments part.toList = [part.toList] := by
  have hdot : '.' ∉ part.toList := fun hmem => (h.plain _ hmem).1 rfl
  have hne : part.toList ≠ [] := fun he => h.nonempty (by simpa using he)
  rw [segments_of_plain hdot, h.unquoted, Chars.trim_of_trimmed h.trimmed]
  simp [hne]

theorem toList_join_cons (part next : String) (rest : List String) :
    (Text.join "." (part :: next :: rest)).toList = part.toList ++ '.' :: (Text.join "." (next :: rest)).toList := by
  simp [Text.join, String.intercalate_cons_cons]

/-- Segments with dots between them are read as they are. -/
theorem parse_join {parts : List String} (h : ∀ part ∈ parts, Segment part) :
    parse (Text.join "." parts) = ⟨parts⟩ := by
  have hsegments : segments (Text.join "." parts).toList = parts.map String.toList := by
    induction parts with
    | nil => decide
    | cons part rest ih =>
      obtain ⟨hpart, hrest⟩ := List.forall_mem_cons.mp h
      cases rest with
      | nil => simpa [Text.join] using segments_segment hpart
      | cons next rest =>
        rw [toList_join_cons, segments_append_dot, segments_segment hpart, ih hrest]
        rfl
  rw [parse, hsegments, List.map_map]
  simp [Function.comp_def]

/-- A segment alone is a name of itself. -/
theorem Segment.parse_eq {part : String} (h : Segment part) : parse part = ⟨[part]⟩ := by
  rw [parse, segments_segment h, List.map_singleton, String.ofList_toList]

/-! ## White space around a name -/

theorem filter_unquoted_blank {cs : List Char} (h : ∀ c ∈ cs, isBlank c = true) : cs.filter (!isQuote ·) = cs := by
  have hgrave : '\x60' ∉ cs := Chars.not_mem_of_blank h (by decide)
  have hdouble : '"' ∉ cs := Chars.not_mem_of_blank h (by decide)
  refine List.filter_eq_self.mpr fun c hc => ?_
  simp [isQuote, ne_of_mem_of_not_mem hc hgrave, ne_of_mem_of_not_mem hc hdouble]

theorem segments_surrounded {pre post : List Char} (hpre : ∀ c ∈ pre, isBlank c = true)
    (hpost : ∀ c ∈ post, isBlank c = true) (cs : List Char) : segments (pre ++ (cs ++ post)) = segments cs := by
  induction cs using dot_induction generalizing pre post with
  | plain cs hdot =>
    have dotless {blanks : List Char} (h : ∀ c ∈ blanks, isBlank c = true) : '.' ∉ blanks :=
      Chars.not_mem_of_blank h (by decide)
    have hall : '.' ∉ pre ++ (cs ++ post) := by simp [dotless hpre, dotless hpost, hdot]
    rw [segments_of_plain hall, segments_of_plain hdot, List.filter_append, List.filter_append,
      filter_unquoted_blank hpre, filter_unquoted_blank hpost, Chars.trim_surrounded hpre hpost]
  | dot xs ys hxs hys =>
    -- What stands before the dot has blanks in front alone, and what stands behind it has them behind alone.
    have hleft : segments (pre ++ (xs ++ [])) = segments xs := hxs hpre (by simp)
    have hright : segments ([] ++ (ys ++ post)) = segments ys := hys (by simp) hpost
    have hshape : pre ++ (xs ++ '.' :: ys ++ post) = (pre ++ (xs ++ [])) ++ '.' :: ([] ++ (ys ++ post)) := by simp
    rw [hshape, segments_append_dot, segments_append_dot, hleft, hright]

theorem parse_trim (name : String) : parse (Text.trim name) = parse name := by
  obtain ⟨pre, post, hsplit, hpre, hpost⟩ := Chars.exists_trim name.toList
  have hsegments : segments name.toList = segments (Chars.trim name.toList) :=
    (congrArg segments hsplit).trans (segments_surrounded hpre hpost _)
  rw [parse, parse, Text.trim, String.toList_ofList, hsegments]

/-! ## Changing the last segment -/

theorem mapLastPart_eq_self {f : String → String} {parts : List String} (h : ∀ part ∈ parts, f part = part) :
    mapLastPart f parts = parts := by
  induction parts with
  | nil => rfl
  | cons part rest ih =>
    obtain ⟨hpart, hrest⟩ := List.forall_mem_cons.mp h
    cases rest with
    | nil => simp [mapLastPart, hpart]
    | cons next rest => rw [mapLastPart, ih hrest]; simp

theorem mapLastPart_eq_nil {f : String → String} {parts : List String} : mapLastPart f parts = [] ↔ parts = [] := by
  cases parts with
  | nil => simp [mapLastPart]
  | cons part rest => cases rest <;> simp [mapLastPart]

theorem segment_of_mapLastPart {f : String → String} (hf : ∀ part, Segment part → Segment (f part))
    {parts : List String} (h : ∀ part ∈ parts, Segment part) : ∀ part ∈ mapLastPart f parts, Segment part := by
  induction parts with
  | nil => exact h
  | cons part rest ih =>
    obtain ⟨hpart, hrest⟩ := List.forall_mem_cons.mp h
    cases rest with
    | nil => simpa [mapLastPart] using hf part hpart
    | cons next rest =>
      rw [mapLastPart]
      · exact List.forall_mem_cons.mpr ⟨hpart, ih hrest⟩
      · simp

end Ident

end SqlComposer
