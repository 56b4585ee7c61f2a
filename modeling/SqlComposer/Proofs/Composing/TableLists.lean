/-
  SqlComposer.Proofs.Composing.TableLists — the aliases of the tables in a FROM list.

  In a list of several tables a term that writes an alias gives it to its table, and a
  term without one leaves its table the letter of its position. A written alias uses up
  its position, but not the letter that another table gets.

  Proved:
  (1) every table of a list of several has its assigned alias, read from left to right
      (`TableRef.aliases_of_parseList`);
  (2) written aliases that differ stay apart from the letters exactly when none of them
      is the letter of a table without one (`TableRef.nodup_assigned`), so it is then that
      the list has no alias twice (`Select.nodup_aliases_table`). It can have one twice:
      `users, orders a` (`Select.aliases_table_clash`).
-/

import Mathlib.Data.List.Nodup
import SqlComposer.Proofs.Composing.Interleaving
import SqlComposer.Proofs.Succeeding

namespace SqlComposer

namespace TableRef

/-! ## Assigned aliases -/

/-- The alias that a term writes for its table. -/
def written (term : String) : Option String := (parse term).toOption.bind (·.aliasName)

/-- The alias of a table that has none of its own, by position. -/
def letter (position : Nat) : Option String := letters[position]?.map Char.toString

def assigned (position : Nat) (term : String) : Option String := written term <|> letter position

/-- No written alias is the letter of a table without one. -/
def LettersFree (terms : List String) : Prop :=
  ∀ i term, terms[i]? = some term → written term = none → ∀ other ∈ terms, written other ≠ letter i

theorem letter_inj {i j : Nat} {name : String} (hi : letter i = some name) (hj : letter j = some name) : i = j := by
  obtain ⟨a, ha, hname⟩ := Option.map_eq_some_iff.mp hi
  obtain ⟨b, hb, rfl⟩ := Option.map_eq_some_iff.mp hj
  obtain rfl : a = b := by simpa [Char.toString] using hname
  have hbound : i < letters.length := (List.getElem?_eq_some_iff.mp ha).1
  have hdistinct : letters.Nodup := by decide
  exact (List.getElem?_inj hbound hdistinct).mp (ha.trans hb.symm)

theorem assigned_of_written {term name : String} (h : written term = some name) (position : Nat) :
    assigned position term = some name := by
  rw [assigned, h]
  rfl

theorem assigned_of_none {term : String} (h : written term = none) (position : Nat) :
    assigned position term = letter position := by
  rw [assigned, h]
  rfl

/-! ## Reading a list -/

/-- The first table of a list of several has its assigned alias, and the others are read from the next position on. -/
theorem parseList_cons {count position : Nat} {term : String} {rest : List String} {tables : List TableRef}
    (hcount : 1 < count) (h : parseList count position (term :: rest) = .ok tables) :
    ∃ table others, tables = table :: others ∧ table.aliasName = assigned position term ∧
      table.aliasName.isSome = true ∧ parseList count (position + 1) rest = .ok others := by
  rw [parseList] at h
  obtain ⟨table, hread, h⟩ := bind_ok h
  have hwritten : written term = table.aliasName := by
    rw [written, hread]
    rfl
  dsimp only at h
  cases halias : table.aliasName with
  | some name =>
    rw [halias, Option.isNone_some, Bool.and_false, if_neg Bool.false_ne_true] at h
    obtain ⟨_, hself, h⟩ := bind_ok h
    obtain rfl := Except.ok.inj hself
    obtain ⟨others, hothers, h⟩ := bind_ok h
    refine ⟨table, others, (Except.ok.inj h).symm, ?_, ?_, hothers⟩
    · rw [assigned_of_written (hwritten.trans halias), halias]
    · rw [halias]
      rfl
  | none =>
    rw [halias, if_pos (by simp [hcount])] at h
    split at h
    · next c hc =>
      obtain ⟨_, hlettered, h⟩ := bind_ok h
      obtain rfl := Except.ok.inj hlettered
      obtain ⟨others, hothers, h⟩ := bind_ok h
      refine ⟨{ table with aliasName := some c.toString }, others, (Except.ok.inj h).symm, ?_, rfl, hothers⟩
      rw [assigned_of_none (hwritten.trans halias), letter, hc]
      rfl
    · cases h

theorem aliases_of_parseList {count position : Nat} {terms : List String} {tables : List TableRef} (hcount : 1 < count)
    (h : parseList count position terms = .ok tables) :
    (tables.map (·.aliasName) = terms.mapIdx fun i term => assigned (position + i) term) ∧
      ∀ table ∈ tables, table.aliasName.isSome = true := by
  induction terms generalizing position tables with
  | nil =>
    obtain rfl := Except.ok.inj h
    exact ⟨rfl, by simp⟩
  | cons term rest ih =>
    obtain ⟨table, others, rfl, halias, hsome, hothers⟩ := parseList_cons hcount h
    obtain ⟨haliases, hall⟩ := ih hothers
    refine ⟨?_, List.forall_mem_cons.mpr ⟨hsome, hall⟩⟩
    rw [List.map_cons, halias, haliases, List.mapIdx_cons]
    simp only [Nat.add_zero, Nat.add_assoc, Nat.add_comm 1]

/-! ## Aliases that differ -/

section

variable {terms : List String} (hsome : ∀ a ∈ terms.mapIdx assigned, a.isSome = true)

include hsome

theorem exists_assigned {i : Nat} {term : String} (h : terms[i]? = some term) :
    ∃ name, assigned i term = some name := by
  refine Option.isSome_iff_exists.mp (hsome _ (List.mem_of_getElem? (i := i) ?_))
  rw [List.getElem?_mapIdx, h]
  rfl

theorem lettersFree_of_nodup (hnodup : (terms.mapIdx assigned).Nodup) : LettersFree terms := by
  intro i term hi hnone other hother hclash
  obtain ⟨j, hj⟩ := List.mem_iff_getElem?.mp hother
  obtain ⟨name, hname⟩ := exists_assigned hsome hi
  rw [assigned_of_none hnone] at hname
  have hsame : (terms.mapIdx assigned)[i]? = (terms.mapIdx assigned)[j]? := by
    rw [List.getElem?_mapIdx, List.getElem?_mapIdx, hi, hj, Option.map_some, Option.map_some, assigned_of_none hnone,
      assigned_of_written (hclash.trans hname), hname]
  have hbound : i < (terms.mapIdx assigned).length := by
    rw [List.length_mapIdx]
    exact (List.getElem?_eq_some_iff.mp hi).1
  obtain rfl : i = j := (List.getElem?_inj hbound hnodup).mp hsame
  obtain rfl : term = other := Option.some.inj (hi.symm.trans hj)
  rw [hnone, hname] at hclash
  cases hclash

/-- Two aliases are the same when one is written twice, or is written and a letter; letters differ by themselves. -/
theorem nodup_of_lettersFree (hwritten : (terms.filterMap written).Nodup) (hfree : LettersFree terms) :
    (terms.mapIdx assigned).Nodup := by
  rw [List.nodup_iff_getElem?_ne_getElem?, List.length_mapIdx]
  intro i j hij hj hsame
  have hi : terms[i]? = some terms[i] := List.getElem?_eq_getElem _
  have hj : terms[j]? = some terms[j] := List.getElem?_eq_getElem _
  obtain ⟨name, hname⟩ := exists_assigned hsome hi
  rw [List.getElem?_mapIdx, List.getElem?_mapIdx, hi, hj, Option.map_some, Option.map_some, hname, Option.some_inj,
    eq_comm] at hsame
  cases hwi : written terms[i] with
  | some x =>
    rw [assigned_of_written hwi] at hname
    cases hwj : written terms[j] with
    | some y =>
      rw [assigned_of_written hwj] at hsame
      have hxy : x = y := Option.some.inj (hname.trans hsame.symm)
      exact List.pairwise_iff_getElem.mp (List.pairwise_filterMap.mp hwritten) i j _ _ hij x hwi y hwj hxy
    | none =>
      rw [assigned_of_none hwj] at hsame
      exact hfree j _ hj hwj _ (List.mem_of_getElem? hi) (hwi.trans (hname.trans hsame.symm))
  | none =>
    rw [assigned_of_none hwi] at hname
    cases hwj : written terms[j] with
    | some y =>
      rw [assigned_of_written hwj] at hsame
      exact hfree i _ hi hwi _ (List.mem_of_getElem? hj) (hwj.trans (hsame.trans hname.symm))
    | none =>
      rw [assigned_of_none hwj] at hsame
      exact absurd (letter_inj hname hsame) (Nat.ne_of_lt hij)

theorem nodup_assigned (hwritten : (terms.filterMap written).Nodup) :
    (terms.mapIdx assigned).Nodup ↔ LettersFree terms :=
  ⟨lettersFree_of_nodup hsome, nodup_of_lettersFree hsome hwritten⟩

end

end TableRef

/-! ## FROM -/

namespace Select

/-- A list that a fresh SELECT takes without a fault gives any SELECT its tables. -/
theorem parseList_of_table {spec : String} (h : (empty.table spec).fault = none) (s : Select) :
    TableRef.parseList (Text.commaList spec).length 0 (Text.commaList spec) = .ok (s.table spec).tables := by
  have hread : faultOf (readTables spec) = none := by
    rw [table_eq] at h
    exact h
  rw [table_eq]
  dsimp only
  unfold readTables at hread ⊢
  split at hread
  · cases hread
  · next hterms =>
    rw [if_neg hterms]
    cases hlist : TableRef.parseList (Text.commaList spec).length 0 (Text.commaList spec) with
    | error f =>
      rw [hlist] at hread
      cases hread
    | ok tables => rfl

/-- In a FROM list of several tables that is taken without a fault every table has its assigned alias. Where the written
aliases differ, all of them do exactly when no written one is the letter of a table without one. -/
theorem nodup_aliases_table (s : Select) {spec : String} (hspec : (empty.table spec).fault = none)
    (hseveral : 1 < (Text.commaList spec).length)
    (hwritten : ((Text.commaList spec).filterMap TableRef.written).Nodup) :
    let terms := Text.commaList spec
    let aliases := (s.table spec).tables.map (·.aliasName)
    aliases = terms.mapIdx TableRef.assigned ∧ (∀ a ∈ aliases, a.isSome = true) ∧
      (aliases.Nodup ↔ TableRef.LettersFree terms) := by
  intro terms aliases
  obtain ⟨haliases, hall⟩ := TableRef.aliases_of_parseList hseveral (parseList_of_table hspec s)
  simp only [Nat.zero_add] at haliases
  have hsome : ∀ a ∈ aliases, a.isSome = true := List.forall_mem_map.mpr hall
  refine ⟨haliases, hsome, ?_⟩
  have hiff := TableRef.nodup_assigned (haliases ▸ hsome) hwritten
  rwa [← haliases] at hiff

/-- The second table gets the letter b, which nobody wrote. -/
theorem nodup_aliases_table_of_three :
    let spec := "users u, orders, items AS x"
    let terms := Text.commaList spec
    let aliases := (empty.table spec).tables.map (·.aliasName)
    (empty.table spec).fault = none ∧ 1 < terms.length ∧ (terms.filterMap TableRef.written).Nodup ∧
      aliases = terms.mapIdx TableRef.assigned ∧ terms.mapIdx TableRef.assigned = [some "u", some "b", some "x"] ∧
      (∀ a ∈ aliases, a.isSome = true) ∧ (aliases.Nodup ↔ TableRef.LettersFree terms) := by
  intro spec terms aliases
  have faultless : (empty.table spec).fault = none := by decide
  have several : 1 < terms.length := by decide
  have differ : (terms.filterMap TableRef.written).Nodup := by decide
  obtain ⟨assigned, named, iff⟩ := nodup_aliases_table empty faultless several differ
  exact ⟨faultless, several, differ, assigned, by decide, named, iff⟩

/-- The second table wrote the letter that the first one gets. -/
theorem aliases_table_clash :
    let spec := "users, orders a"
    let aliases := (empty.table spec).tables.map (·.aliasName)
    (empty.table spec).fault = none ∧ 1 < (Text.commaList spec).length ∧
      ((Text.commaList spec).filterMap TableRef.written).Nodup ∧ aliases = [some "a", some "a"] ∧ ¬ aliases.Nodup := by
  intro spec aliases
  have clash : aliases = [some "a", some "a"] := by decide
  refine ⟨by decide, by decide, by decide, clash, ?_⟩
  rw [clash]
  decide

end Select

end SqlComposer
