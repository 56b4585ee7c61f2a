/-
  SqlComposer.Proofs.Composing.OrderLists — the terms of ORDER BY lists and their directions.

  A term is written as its column, and behind it, if it has one, its direction, with white
  space between the two and around them. A column may be one word. It may also be several
  of which a function call is part, when the last one is not itself a direction.

  Proved (`Select.orderedBy_join`): of a list of such terms every column is appended as it
  was given, with its own direction or else the default, and nothing else of the SELECT
  changes. A term of several words that calls no function and does not end in a direction
  leaves a fault, whatever the list is.
-/

import Mathlib.Data.List.Basic
import SqlComposer.Proofs.Naming.Columns
import SqlComposer.Proofs.Text.CommaLists
import SqlComposer.Proofs.Text.Words

namespace SqlComposer

/-! ## Directions -/

namespace Order

/-- The word is the direction's keyword, in whichever letter case of ASCII. -/
def Spelled (order : Order) (word : String) : Prop := Text.upper word = order.keyword

theorem Spelled.word {order : Order} {word : String} (h : order.Spelled word) :
    ∀ c ∈ word.toList, isBlank c = false := by
  have hkeyword : ∀ c ∈ order.keyword.toList, isBlank c = false := by
    cases order <;> exact List.forall_iff_forall_mem.mp (by decide)
  intro c hc
  rw [← Chars.isBlank_toUpper]
  apply hkeyword
  rw [← h, Text.upper, String.toList_ofList]
  exact List.mem_map_of_mem hc

theorem Spelled.nonempty {order : Order} {word : String} (h : order.Spelled word) : word ≠ "" := by
  have hkeyword : order.keyword ≠ Text.upper "" := by cases order <;> decide
  rintro rfl
  exact hkeyword h.symm

theorem Spelled.closed {order : Order} {word : String} (h : order.Spelled word) : CommaList.Closed word.toList := by
  have hplain : ∀ c ∈ ",()'\"\x60".toList, c.toUpper ∉ order.keyword.toList := by
    cases order <;> exact List.forall_iff_forall_mem.mp (by decide)
  refine CommaList.closed_of_plain fun c hc hmem => hplain c hmem ?_
  rw [← h, Text.upper, String.toList_ofList]
  exact List.mem_map_of_mem hc

theorem ofText_word {word : String} (hword : ∀ c ∈ word.toList, isBlank c = false) {order : Order} :
    ofText word = .ok order ↔ order.Spelled word := by
  have htrim : Text.trim word = word := by
    rw [← String.ofList_toList (s := word), Text.trim_word hword]
  rw [ofText, htrim, Spelled]
  by_cases hasc : Text.upper word = "ASC"
  · rw [hasc]
    cases order <;> simp [keyword]
  · by_cases hdesc : Text.upper word = "DESC"
    · rw [hdesc]
      cases order <;> simp [keyword]
    · have hnot : Text.upper word ≠ order.keyword := by cases order <;> assumption
      simp [hasc, hdesc, hnot]

end Order

/-- The last word of the text is no direction. -/
def Text.Undirected (s : String) : Prop :=
  ∀ word, (Text.words s).getLast? = some word → ∀ order : Order, ¬ order.Spelled word

namespace Select

/-! ## Columns and terms -/

/-- A text that is kept as the column of a term. -/
structure OrderColumn (column : String) : Prop where
  nonempty : column ≠ ""
  trimmed : Text.trim column = column
  closed : CommaList.Closed column.toList
  whole : (∀ c ∈ column.toList, isBlank c = false) ∨ (Chars.Calls column.toList ∧ Text.Undirected column)

/-- How a column and its direction are written. -/
inductive OrderSpelled : String × Option Order → String → Prop
  | bare {column entry : String} (h : Text.Around column entry) : OrderSpelled (column, none) entry
  | directed {column entry : String} {direction : Order} (gap word : String) (hgap : Text.isBlank gap = true)
      (hne : gap ≠ "") (hword : direction.Spelled word) (h : Text.Around (column ++ gap ++ word) entry) :
      OrderSpelled (column, some direction) entry

/-- Several words that call no function and do not end in a direction. -/
structure Misdirected (term : String) : Prop where
  several : ∃ c ∈ term.toList, isBlank c = true
  plain : ¬ Chars.Calls term.toList
  undirected : Text.Undirected term

/-! ## One term -/

/-- A term of several words keeps all of them when it calls a function, and is wrong when it calls none. -/
theorem orderTerm_undirected {order : Order} {term : String} (htrimmed : Text.trim term = term)
    (hblank : ∃ c ∈ term.toList, isBlank c = true) (h : Text.Undirected term) :
    (Text.hasCall term = true ∧ orderTerm order term = .ok (term, order)) ∨
      (Text.hasCall term = false ∧ ∃ f, orderTerm order term = .error f) := by
  have hfinish : ∀ c ∈ term.toList.getLast?, isBlank c = false := by
    rw [← htrimmed, Text.trim, String.toList_ofList]
    exact (Chars.trimmed_trim _).finish
  obtain ⟨before, w, hsplit, hw, hlast⟩ := Chars.exists_lastWord hfinish hblank
  have hundirected : ∀ o : Order, ¬ o.Spelled (String.ofList w) := by
    refine h (String.ofList w) ?_
    rw [Text.words, List.getLast?_map, hlast]
    rfl
  rw [orderTerm, hsplit]
  dsimp only
  -- The last word is taken for a direction first, and whether the term calls a function is asked only when it is none.
  cases hread : Order.ofText (String.ofList w) with
  | ok o =>
    have hspelled : o.Spelled (String.ofList w) := (Order.ofText_word (by simpa using hw)).mp hread
    exact absurd hspelled (hundirected o)
  | error f =>
    cases hcall : Text.hasCall term with
    | true => exact .inl ⟨rfl, rfl⟩
    | false => exact .inr ⟨rfl, _, rfl⟩

theorem orderTerm_directed {order direction : Order} {column gap word : String} (hcolumn : Text.trim column = column)
    (hgap : Text.isBlank gap = true) (hne : gap ≠ "") (hword : direction.Spelled word) :
    orderTerm order (column ++ gap ++ word) = .ok (column, direction) := by
  have hgap := Text.isBlank_iff.mp hgap
  obtain ⟨front, b, hsplit⟩ : ∃ front b, gap.toList = front ++ [b] :=
    (List.eq_nil_or_concat' gap.toList).resolve_left (by simpa using hne)
  rw [hsplit, List.forall_mem_append] at hgap
  have hb : isBlank b = true := hgap.2 b (List.mem_singleton_self b)
  have hterm : (column ++ gap ++ word).toList = (column.toList ++ front) ++ b :: word.toList := by simp [hsplit]
  have htrim : Chars.trim (column.toList ++ front) = column.toList := by
    have hsurrounded : Chars.trim ([] ++ (column.toList ++ front)) = Chars.trim column.toList :=
      Chars.trim_surrounded (by simp) hgap.1 column.toList
    rw [List.nil_append] at hsurrounded
    rw [hsurrounded, ← String.toList_ofList (l := Chars.trim column.toList)]
    exact congrArg String.toList hcolumn
  rw [orderTerm, hterm, Chars.splitLast_append_cons hb hword.word]
  dsimp only
  rw [String.ofList_toList, (Order.ofText_word hword.word).mpr hword, htrim, String.ofList_toList]

theorem OrderColumn.orderTerm {column : String} (h : OrderColumn column) (order : Order) :
    orderTerm order column = .ok (column, order) := by
  by_cases hblank : ∃ c ∈ column.toList, isBlank c = true
  · rcases h.whole with hword | ⟨hcalls, hundirected⟩
    · obtain ⟨c, hc, hblank⟩ := hblank
      rw [hword c hc] at hblank
      cases hblank
    · rcases orderTerm_undirected h.trimmed hblank hundirected with ⟨-, hok⟩ | ⟨hcall, -⟩
      · exact hok
      · rw [Text.hasCall_iff.mpr hcalls] at hcall
        cases hcall
  · refine orderTerm_word fun c hc => eq_false_of_ne_true fun hc' => hblank ⟨c, hc, hc'⟩

theorem trim_directed {column gap word entry : String} {direction : Order} (hcolumn : OrderColumn column)
    (hword : direction.Spelled word) (h : Text.Around (column ++ gap ++ word) entry) :
    Text.trim entry = column ++ gap ++ word := by
  have hstart : ∀ c ∈ column.toList.head?, isBlank c = false := by
    rw [← hcolumn.trimmed, Text.trim, String.toList_ofList]
    exact (Chars.trimmed_trim _).start
  have hfinish : ∀ c ∈ word.toList.getLast?, isBlank c = false :=
    fun c hc => hword.word c (List.mem_of_mem_getLast? hc)
  rw [h.trim_eq, Text.trim_append hcolumn.nonempty hword.nonempty hstart hfinish]

/-- A term that is written as a column and a direction, or without one, is read as these. -/
theorem orderTerm_spelled {t : String × Option Order} {entry : String} (ht : OrderColumn t.1) (h : OrderSpelled t entry)
    (order : Order) :
    CommaList.Closed entry.toList ∧ Text.trim entry ≠ "" ∧
      orderTerm order (Text.trim entry) = .ok (t.1, t.2.getD order) := by
  cases h with
  | bare h =>
    rw [h.trim_eq, ht.trimmed]
    exact ⟨h.closed ht.closed, ht.nonempty, ht.orderTerm order⟩
  | directed gap word hgap hne hword h =>
    rw [trim_directed ht hword h]
    refine ⟨h.closed ?_, by simp [hword.nonempty], orderTerm_directed ht.trimmed hgap hne hword⟩
    rw [String.toList_append, String.toList_append]
    exact (ht.closed.append (CommaList.closed_of_blank (Text.isBlank_iff.mp hgap))).append hword.closed

/-! ## Lists -/

/-- Entries that are all written as terms are closed, say something, and are read as these terms. -/
theorem orderTerms_spelled {terms : List (String × Option Order)} {entries : List String}
    (hterms : ∀ t ∈ terms, OrderColumn t.1) (h : List.Forall₂ OrderSpelled terms entries) (order : Order) :
    (∀ e ∈ entries, CommaList.Closed e.toList ∧ Text.trim e ≠ "") ∧
      List.Forall₂ (fun term t => Select.orderTerm order term = .ok t) (entries.map Text.trim)
        (terms.map fun t => (t.1, t.2.getD order)) := by
  induction h with
  | nil => simp
  | cons hentry _ ih =>
    obtain ⟨hcolumn, hterms⟩ := List.forall_mem_cons.mp hterms
    obtain ⟨hfilled, hreads⟩ := ih hterms
    obtain ⟨hclosed, hne, hread⟩ := orderTerm_spelled hcolumn hentry order
    exact ⟨List.forall_mem_cons.mpr ⟨⟨hclosed, hne⟩, hfilled⟩, .cons hread hreads⟩

/-- Terms that are all right are all read, and leave no fault. -/
theorem readTerms_ok {order : Order} {terms : List String} {results : List (String × Order)}
    (h : List.Forall₂ (fun term t => orderTerm order term = .ok t) terms results) :
    readTerms order terms = results ∧ (terms.findSome? fun term => faultOf (orderTerm order term)) = none := by
  induction h with
  | nil => exact ⟨rfl, rfl⟩
  | cons hterm _ ih =>
    obtain ⟨hread, hnone⟩ := ih
    rw [readTerms, hterm, List.findSome?_cons, hterm, hread]
    exact ⟨rfl, hnone⟩

theorem fault_of_misdirected (s : Select) (order : Order) {spec : String} (h : ∃ t ∈ Text.commaList spec, Misdirected t) :
    (s.orderedBy spec order).fault ≠ none := by
  obtain ⟨term, hterm, hwrong⟩ := h
  have hcall : Text.hasCall term = false := eq_false_of_ne_true (mt Text.hasCall_iff.mp hwrong.plain)
  obtain ⟨f, hf⟩ : ∃ f, orderTerm order term = .error f := by
    rcases orderTerm_undirected (Text.trim_of_mem_commaList hterm) hwrong.several hwrong.undirected with
      ⟨hcalls, -⟩ | ⟨-, hf⟩
    · rw [hcall] at hcalls
      cases hcalls
    · exact hf
  have hsome : (Text.commaList spec).findSome? (fun t => faultOf (orderTerm order t)) ≠ none := by
    rw [Ne, List.findSome?_eq_none_iff]
    intro hnone
    have hterm := hnone term hterm
    rw [hf] at hterm
    cases hterm
  rw [orderedBy, appendOrder_eq]
  cases s.fault with
  | none => exact hsome
  | some f => exact Option.some_ne_none f

/-- Terms that are written with their directions or without are appended in their order, each with its own direction or
else the default, and nothing else changes. A list with a term of several words that calls no function and does not end
in a direction leaves a fault. -/
theorem orderedBy_join (s : Select) (order : Order) :
    (∀ terms entries, (∀ t ∈ terms, OrderColumn t.1) → List.Forall₂ OrderSpelled terms entries →
      s.orderedBy (Text.join "," entries) order =
        { s with orderBy := s.orderBy ++ terms.map fun t => (t.1, t.2.getD order) }) ∧
      (∀ spec, (∃ term ∈ Text.commaList spec, Misdirected term) → (s.orderedBy spec order).fault ≠ none) ∧
      ∀ entries, (∀ e ∈ entries, CommaList.Closed e.toList) → (∃ e ∈ entries, Misdirected (Text.trim e)) →
        (s.orderedBy (Text.join "," entries) order).fault ≠ none := by
  refine ⟨fun terms entries hterms hentries => ?_, fun spec => s.fault_of_misdirected order, fun entries hclosed h => ?_⟩
  · obtain ⟨hfilled, hreads⟩ := orderTerms_spelled hterms hentries order
    obtain ⟨hterms, hnone⟩ := readTerms_ok hreads
    rw [orderedBy, Text.commaList_join_filled hfilled, appendOrder_eq, hterms, hnone]
    cases s
    simp
  · obtain ⟨e, he, hwrong⟩ := h
    refine s.fault_of_misdirected order ⟨Text.trim e, ?_, hwrong⟩
    have hne : Text.trim e ≠ "" := by
      intro hnil
      obtain ⟨c, hc, -⟩ := hwrong.several
      rw [hnil] at hc
      cases hc
    rw [Text.commaList_join hclosed, List.mem_filter]
    exact ⟨List.mem_map_of_mem he, by simpa using hne⟩

/-- Two calls with commas and quotations in them, one of these under a direction of its own, and a word. -/
theorem orderedBy_join_calls :
    let terms := [("ROUND(total, 2)", some Order.desc), ("COALESCE(note, ', )')", none), ("name", some Order.asc)]
    let entries := ["ROUND(total, 2) \t Desc", " COALESCE(note, ', )')", "  name asc "]
    (∀ t ∈ terms, OrderColumn t.1) ∧ List.Forall₂ OrderSpelled terms entries ∧
      empty.orderedBy (Text.join "," entries) .asc =
        { empty with
          orderBy := [("ROUND(total, 2)", .desc), ("COALESCE(note, ', )')", .asc), ("name", .asc)] } ∧
      Misdirected "name sideways" ∧
      (empty.orderedBy "age,name sideways" .asc).fault ≠ none ∧
      (empty.orderedBy (Text.join "," ["age", " name sideways"]) .asc).fault ≠ none := by
  intro terms entries
  have undirected {s : String} (last : String) (hlast : (Text.words s).getLast? = some last)
      (hnot : ∀ order : Order, Text.upper last ≠ order.keyword) : Text.Undirected s := by
    intro word hword
    rw [hlast] at hword
    cases hword
    exact hnot
  have columns : ∀ t ∈ terms, OrderColumn t.1 := by
    refine List.forall_mem_cons.mpr ⟨⟨by decide, by decide, rfl, .inr ⟨Text.hasCall_iff.mp (by decide), ?_⟩⟩,
      List.forall_mem_cons.mpr ⟨⟨by decide, by decide, rfl, .inr ⟨Text.hasCall_iff.mp (by decide), ?_⟩⟩,
        List.forall_mem_cons.mpr ⟨⟨by decide, by decide, rfl, .inl (List.forall_iff_forall_mem.mp (by decide))⟩, by simp⟩⟩⟩
    · exact undirected "2)" rfl fun order => by cases order <;> decide
    · exact undirected ")')" rfl fun order => by cases order <;> decide
  have spelled : List.Forall₂ OrderSpelled terms entries :=
    .cons (.directed " \t " "Desc" (by decide) (by decide) rfl ⟨"", "", rfl, rfl, rfl⟩)
      (.cons (.bare ⟨" ", "", rfl, rfl, rfl⟩)
        (.cons (.directed " " "asc" (by decide) (by decide) rfl ⟨"  ", " ", rfl, rfl, rfl⟩) .nil))
  have wrong : Misdirected "name sideways" :=
    ⟨⟨' ', by decide, by decide⟩, mt Text.hasCall_iff.mpr (by decide),
      undirected "sideways" rfl fun order => by cases order <;> decide⟩
  obtain ⟨appended, faulty, faultyEntries⟩ := orderedBy_join empty .asc
  exact ⟨columns, spelled, appended terms entries columns spelled, wrong,
    faulty "age,name sideways" ⟨_, by decide, wrong⟩,
    faultyEntries ["age", " name sideways"] (by simp [CommaList.Closed]; decide) ⟨" name sideways", by simp, wrong⟩⟩

end Select

end SqlComposer
