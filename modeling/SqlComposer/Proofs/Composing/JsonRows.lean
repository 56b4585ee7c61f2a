/-
  SqlComposer.Proofs.Composing.JsonRows — the rows of an INSERT from an array of JSON
  objects.

  The members of an object are in ascending order of their keys, whatever order they were
  given in (`Json.sorted_ofMembers`). So objects with the same keys name them in one order,
  and each value stands under its own key: the arrays that do are `Json.Tabular`. A flaw is
  an item that is no object, a value that is no scalar, a missing row or column, or two
  objects whose columns differ.

  Proved:
  (1) a new INSERT takes the rows of an array exactly when nothing is wrong with it
      (`Insert.fault_valuesJson_array`), which is so of a tabular one
      (`Json.Tabular.not_flawed`);
  (2) from a tabular array one group is rendered for each object, in which each value is
      that of the key its column is named after; a flawed one leaves a fault, and nothing
      is rendered (`Insert.valuesJson_array`).
-/

import Mathlib.Data.List.Sort
import Mathlib.Data.String.Basic
import SqlComposer.Proofs.Composing.Rows

namespace SqlComposer

namespace Json

/-! ## Members -/

def keys (members : List (String × Json)) : List String := members.map (·.1)

/-- The columns that the keys name. -/
def columns (members : List (String × Json)) : List String := (keys members).map Text.trim

/-- The keys are in strictly ascending order. -/
def Sorted (members : List (String × Json)) : Prop := (keys members).Pairwise (· < ·)

theorem mem_keys_insertMember {key : String} {value : Json} {members : List (String × Json)} {k : String} :
    k ∈ keys (insertMember key value members) ↔ k = key ∨ k ∈ keys members := by
  induction members with
  | nil => simp [insertMember, keys]
  | cons m members ih =>
    obtain ⟨first, v⟩ := m
    rw [insertMember]
    split
    · next hsame =>
      obtain rfl : key = first := by simpa using hsame
      simp [keys]
    · split
      · simp [keys]
      · simp only [keys, List.map_cons, List.mem_cons] at ih ⊢
        rw [ih]
        exact or_left_comm

theorem sorted_insertMember {key : String} {value : Json} {members : List (String × Json)} (h : Sorted members) :
    Sorted (insertMember key value members) := by
  induction members with
  | nil => simp [insertMember, Sorted, keys]
  | cons m members ih =>
    obtain ⟨first, v⟩ := m
    obtain ⟨hfirst, hrest⟩ := List.pairwise_cons.mp h
    rw [insertMember]
    split
    · next hsame =>
      obtain rfl : key = first := by simpa using hsame
      exact h
    · next hother =>
      split
      · next hless =>
        refine List.pairwise_cons.mpr ⟨fun k hk => ?_, h⟩
        rcases List.mem_cons.mp hk with rfl | hk
        · exact hless
        · exact hless.trans (hfirst k hk)
      · next hnot =>
        refine List.pairwise_cons.mpr ⟨fun k hk => ?_, ih hrest⟩
        rcases mem_keys_insertMember.mp hk with rfl | hk
        · exact lt_of_le_of_ne (not_lt.mp hnot) fun hsame => hother (beq_iff_eq.mpr hsame.symm)
        · exact hfirst k hk

/-- An object has its members in order, in whichever order they are given. -/
theorem sorted_ofMembers (given : List (String × Json)) :
    ∃ members, ofMembers given = .object members ∧ Sorted members := by
  refine ⟨_, rfl, ?_⟩
  exact List.foldlRecOn given _ List.Pairwise.nil fun sorted h m _ => sorted_insertMember h

theorem isSome_member?_iff {members : List (String × Json)} {key : String} :
    ((Json.object members).member? key).isSome = true ↔ key ∈ keys members := by
  simp [member?, keys]

/-- Each member is found by its key. -/
theorem member?_of_mem {members : List (String × Json)} (h : Sorted members) {m : String × Json} (hm : m ∈ members) :
    (Json.object members).member? m.1 = some m.2 := by
  induction members with
  | nil => cases hm
  | cons first members ih =>
    obtain ⟨hfirst, hrest⟩ := List.pairwise_cons.mp h
    rcases List.mem_cons.mp hm with rfl | hm
    · simp [member?]
    · have hne : first.1 ≠ m.1 := (hfirst m.1 (List.mem_map_of_mem hm)).ne
      rw [← ih hrest hm, member?, member?, List.find?_cons_of_neg (by simpa using hne)]

/-! ## Scalars -/

def IsScalar : Json → Prop
  | .array _ | .object _ => False
  | _ => True

theorem isScalar_iff {j : Json} : j.IsScalar ↔ ∃ v, Value.ofJson j = .ok v := by
  cases j <;> simp [IsScalar, Value.ofJson]

/-- What a scalar is read as has a text in every dialect. -/
theorem render_ofJson {j : Json} {v : Value} (h : Value.ofJson j = .ok v) (d : Dialect) :
    ∃ sql, v.render d = .ok sql := by
  cases j with
  | bool b =>
    obtain rfl := Except.ok.inj h
    cases b <;> exact ⟨_, rfl⟩
  | integer n =>
    obtain rfl := Except.ok.inj h
    rw [Value.ofInteger]
    split <;> exact ⟨_, rfl⟩
  | array items => cases h
  | object members => cases h
  | _ =>
    obtain rfl := Except.ok.inj h
    exact ⟨_, rfl⟩

/-! ## Rows -/

theorem IsRow.columns_eq {members : List (String × Json)} {row : Record} (h : IsRow members row) :
    row.columns = columns members := by
  induction h with
  | nil => rfl
  | cons hcell _ ih =>
    obtain ⟨hname, -⟩ := hcell
    rw [Record.columns, List.map_cons, hname]
    exact congrArg _ ih

theorem exists_row {members : List (String × Json)} : (∃ row, IsRow members row) ↔ ∀ m ∈ members, m.2.IsScalar := by
  have hcell (m : String × Json) :
      (∃ cell : String × Value, cell.1 = m.1 ∧ Value.ofJson m.2 = .ok cell.2) ↔ m.2.IsScalar := by
    rw [isScalar_iff]
    constructor
    · rintro ⟨cell, -, hv⟩
      exact ⟨cell.2, hv⟩
    · rintro ⟨v, hv⟩
      exact ⟨(m.1, v), rfl, hv⟩
  simp only [IsRow, exists_forall₂_iff, hcell]

theorem exists_rows {objects : List (List (String × Json))} :
    (∃ rows, List.Forall₂ IsRow objects rows) ↔ ∀ members ∈ objects, ∀ m ∈ members, m.2.IsScalar := by
  simp only [exists_forall₂_iff, exists_row]

theorem columns_rows {objects : List (List (String × Json))} {rows : List Record} (h : List.Forall₂ IsRow objects rows) :
    rows.map Record.columns = objects.map columns := by
  induction h with
  | nil => rfl
  | cons hrow _ ih => rw [List.map_cons, List.map_cons, hrow.columns_eq, ih]

theorem aligned_rows {objects : List (List (String × Json))} {rows : List Record} (h : List.Forall₂ IsRow objects rows) :
    Aligned rows ↔ (∀ members ∈ objects, members ≠ []) ∧ ∀ a ∈ objects, ∀ b ∈ objects, columns a = columns b := by
  have hfilled : (∀ row ∈ rows.map Record.columns, row ≠ []) ↔ ∀ members ∈ objects, members ≠ [] := by
    rw [columns_rows h, List.forall_mem_map]
    simp [columns, keys]
  have halike : (∀ a ∈ rows.map Record.columns, ∀ b ∈ rows.map Record.columns, a = b) ↔
      ∀ a ∈ objects, ∀ b ∈ objects, columns a = columns b := by
    rw [columns_rows h]
    simp
  rw [← hfilled, ← halike, aligned_iff_columns]

/-- The first object names the columns. -/
theorem exists_first {objects : List (List (String × Json))} {rows : List Record} (h : List.Forall₂ IsRow objects rows)
    (hne : rows ≠ []) : ∃ first ∈ objects, columnsOf rows = columns first := by
  cases h with
  | nil => exact absurd rfl hne
  | cons hrow _ => exact ⟨_, List.mem_cons_self, hrow.columns_eq⟩

theorem holdsRows_array_iff {items : List Json} {rows : List Record} :
    (Json.array items).HoldsRows rows ↔ ∃ objects, items = objects.map .object ∧ List.Forall₂ IsRow objects rows := by
  constructor
  · intro h
    cases h with
    | array hrows => exact ⟨_, rfl, hrows⟩
  · rintro ⟨objects, rfl, hrows⟩
    exact .array hrows

/-! ## Arrays -/

/-- There are items, and these are objects that hold scalars under the same keys, at least one. -/
structure Tabular (items : List Json) : Prop where
  nonempty : items ≠ []
  objects : ∀ item ∈ items, ∃ members, item = .object members
  filled : .object [] ∉ items
  scalars : ∀ members, .object members ∈ items → ∀ m ∈ members, m.2.IsScalar
  alike : ∀ a ∈ items, ∀ b ∈ items, ∀ key, (a.member? key).isSome = (b.member? key).isSome

/-- What keeps an array from being rows. -/
inductive Flawed (items : List Json) : Prop
  | noRows (h : items = [])
  | noObject {item : Json} (hitem : item ∈ items) (h : ∀ members, item ≠ .object members)
  | nested {members : List (String × Json)} {m : String × Json} (hitem : .object members ∈ items) (hm : m ∈ members)
      (h : ¬ m.2.IsScalar)
  | noColumns (h : .object [] ∈ items)
  | unlike {a b : List (String × Json)} (ha : .object a ∈ items) (hb : .object b ∈ items) (h : columns a ≠ columns b)

theorem exists_objects {items : List Json} :
    (∃ objects : List (List (String × Json)), items = objects.map .object) ↔
      ∀ item ∈ items, ∃ members, item = .object members := by
  simp only [← exists_forall₂_iff, ← List.forall₂_eq_eq_eq, List.forall₂_map_right_iff]

/-- An array without a flaw holds aligned rows. -/
theorem not_flawed_iff {items : List Json} :
    ¬ Flawed items ↔ ∃ rows, (Json.array items).HoldsRows rows ∧ rows ≠ [] ∧ Aligned rows := by
  constructor
  · intro h
    have hobjects : ∀ item ∈ items, ∃ members, item = .object members := by
      intro item hitem
      by_contra hno
      exact h (.noObject hitem fun members heq => hno ⟨members, heq⟩)
    obtain ⟨objects, rfl⟩ := exists_objects.mpr hobjects
    have hmem {members : List (String × Json)} (hm : members ∈ objects) : Json.object members ∈ objects.map .object :=
      List.mem_map_of_mem hm
    have hscalars : ∀ members ∈ objects, ∀ m ∈ members, m.2.IsScalar := by
      intro members hmembers m hm
      by_contra hno
      exact h (.nested (hmem hmembers) hm hno)
    obtain ⟨rows, hrows⟩ := exists_rows.mpr hscalars
    refine ⟨rows, .array hrows, ?_, (aligned_rows hrows).mpr ⟨?_, ?_⟩⟩
    · rintro rfl
      obtain rfl := List.forall₂_nil_right_iff.mp hrows
      exact h (.noRows rfl)
    · rintro members hmembers rfl
      exact h (.noColumns (hmem hmembers))
    · intro a ha b hb
      by_contra hno
      exact h (.unlike (hmem ha) (hmem hb) hno)
  · rintro ⟨rows, hholds, hne, ha⟩ hflawed
    obtain ⟨objects, rfl, hrows⟩ := holdsRows_array_iff.mp hholds
    obtain ⟨hfilled, halike⟩ := (aligned_rows hrows).mp ha
    have hmem {members : List (String × Json)} (hm : Json.object members ∈ objects.map .object) : members ∈ objects := by
      simpa using hm
    cases hflawed with
    | noRows h =>
      obtain rfl := List.map_eq_nil_iff.mp h
      exact hne (List.forall₂_nil_left_iff.mp hrows)
    | noObject hitem h =>
      obtain ⟨members, -, rfl⟩ := List.mem_map.mp hitem
      exact h members rfl
    | nested hitem hm h => exact h (exists_rows.mp ⟨rows, hrows⟩ _ (hmem hitem) _ hm)
    | noColumns h => exact hfilled [] (hmem h) rfl
    | unlike ha hb h => exact h (halike _ (hmem ha) _ (hmem hb))

/-- Objects with the same keys name them in one order. -/
theorem Tabular.keys_eq {items : List Json} (h : Tabular items)
    (hsorted : ∀ members, .object members ∈ items → Sorted members) {a b : List (String × Json)}
    (ha : .object a ∈ items) (hb : .object b ∈ items) : keys a = keys b := by
  refine (hsorted a ha).eq_of_mem_iff (hsorted b hb) fun key => ?_
  rw [← isSome_member?_iff, ← isSome_member?_iff, h.alike _ ha _ hb]

theorem Tabular.not_flawed {items : List Json} (h : Tabular items)
    (hsorted : ∀ members, .object members ∈ items → Sorted members) : ¬ Flawed items := by
  intro hflawed
  cases hflawed with
  | noRows hno => exact h.nonempty hno
  | noObject hitem hno =>
    obtain ⟨members, rfl⟩ := h.objects _ hitem
    exact hno members rfl
  | nested hitem hm hno => exact hno (h.scalars _ hitem _ hm)
  | noColumns hno => exact h.filled hno
  | unlike ha hb hno => exact hno (congrArg (List.map Text.trim) (h.keys_eq hsorted ha hb))

end Json

namespace Insert

/-! ## Groups -/

/-- The text is that of the value that the item holds under the key. -/
def Keyed (d : Dialect) (item : Json) (key sql : String) : Prop :=
  ∃ j v, item.member? key = some j ∧ Value.ofJson j = .ok v ∧ v.render d = .ok sql

theorem exists_group {item : Json} {members : List (String × Json)} {row : Record} (h : Json.IsRow members row)
    (hfound : ∀ m ∈ members, item.member? m.1 = some m.2) (d : Dialect) :
    ∃ group, List.Forall₂ (fun v sql => v.render d = .ok sql) row.values group ∧
      List.Forall₂ (Keyed d item) (Json.keys members) group := by
  induction h with
  | nil => exact ⟨[], .nil, .nil⟩
  | cons hcell _ ih =>
    obtain ⟨hfirst, hrest⟩ := List.forall_mem_cons.mp hfound
    obtain ⟨-, hv⟩ := hcell
    obtain ⟨sql, hsql⟩ := Json.render_ofJson hv d
    obtain ⟨group, hvalues, hkeyed⟩ := ih hrest
    exact ⟨sql :: group, .cons hsql hvalues, .cons ⟨_, _, hfirst, hv, hsql⟩ hkeyed⟩

/-- Every row has a group, in which each value is that of its own key. -/
theorem exists_groups {objects : List (List (String × Json))} {rows : List Record} {keys : List String}
    (h : List.Forall₂ Json.IsRow objects rows) (hsorted : ∀ members ∈ objects, Json.Sorted members)
    (hkeys : ∀ members ∈ objects, Json.keys members = keys) (d : Dialect) :
    ∃ groups, List.Forall₂ (List.Forall₂ fun v sql => v.render d = .ok sql) (rows.map Record.values) groups ∧
      List.Forall₂ (fun item group => List.Forall₂ (Keyed d item) keys group) (objects.map .object) groups := by
  induction h with
  | nil => exact ⟨[], .nil, .nil⟩
  | cons hrow _ ih =>
    obtain ⟨hsorted, hsortedRest⟩ := List.forall_mem_cons.mp hsorted
    obtain ⟨hkeys, hkeysRest⟩ := List.forall_mem_cons.mp hkeys
    obtain ⟨group, hvalues, hkeyed⟩ := exists_group hrow (fun m hm => Json.member?_of_mem hsorted hm) d
    obtain ⟨groups, hvaluesRest, hkeyedRest⟩ := ih hsortedRest hkeysRest
    rw [hkeys] at hkeyed
    exact ⟨group :: groups, .cons hvalues hvaluesRest, .cons hkeyed hkeyedRest⟩

/-! ## An INSERT -/

/-- Rows that JSON holds are taken when there is one at least and they are aligned. -/
theorem valuesJson_spec {table : String} (htable : Text.trim table ≠ "") (j : Json) :
    let s := (into table).valuesJson j
    (∃ rows, j.HoldsRows rows ∧ rows ≠ [] ∧ Aligned rows ∧ s.Holds rows ∧ s.fault = none ∧
        s.table = Text.trim table ∧ s.onDuplicate = none) ∨
      (¬ (∃ rows, j.HoldsRows rows ∧ rows ≠ [] ∧ Aligned rows) ∧ s.fault ≠ none) := by
  have hcurrent {rows : List Record} (hrows : j.HoldsRows rows) :
      (Batches.after ⟨[], []⟩ (.valuesJson j)).current = rows := by
    rw [Batches.after, recordsOf_ok_iff.mpr hrows]
  rcases apply_spec (b := ⟨[], []⟩) (holds_into table) (.valuesJson j) with ⟨hsound, ha, hholds, hfault⟩ | ⟨hno, hfault⟩
  · left
    obtain ⟨htable', hclause⟩ := (into table).apply_frame hsound
    obtain ⟨rows, hrows, hne⟩ := hsound
    rw [hcurrent hrows] at ha hholds
    exact ⟨rows, hrows, hne, ha, hholds, hfault.trans (by simp [into, htable]), htable', hclause⟩
  · right
    refine ⟨?_, hfault⟩
    rintro ⟨rows, hrows, hne, ha⟩
    exact hno ⟨⟨rows, hrows, hne⟩, (hcurrent hrows).symm ▸ ha⟩

theorem fault_valuesJson_array {table : String} (htable : Text.trim table ≠ "") {items : List Json} :
    ((into table).valuesJson (.array items)).fault = none ↔ ¬ Json.Flawed items := by
  rw [Json.not_flawed_iff]
  rcases valuesJson_spec htable (.array items) with ⟨rows, hrows, hne, ha, -, hfault, -⟩ | ⟨hno, hfault⟩
  · exact iff_of_true hfault ⟨rows, hrows, hne, ha⟩
  · exact iff_of_false hfault hno

/-- Objects that hold scalars under the same keys make up one group each, in their order, and each value stands in it
under the column of its own key. An array with a flaw leaves a fault, and nothing is rendered. -/
theorem valuesJson_array {table : String} (htable : Text.trim table ≠ "") (items : List Json) :
    let s := (into table).valuesJson (.array items)
    ((∀ members, .object members ∈ items → Json.Sorted members) → Json.Tabular items →
        s.fault = none ∧ ∃ keys : List String, keys.Pairwise (· < ·) ∧
          (∀ item ∈ items, ∀ key, key ∈ keys ↔ (item.member? key).isSome = true) ∧
          ∀ d, ∃ groups, s.render d = .ok (text d (Text.trim table) (keys.map Text.trim) groups none) ∧
            List.Forall₂ (fun item group => List.Forall₂ (Keyed d item) keys group) items groups) ∧
      (Json.Flawed items → s.fault ≠ none ∧ ∀ d, ∃ f, s.render d = .error (.builder f)) := by
  intro s
  constructor
  · intro hsorted htabular
    have hnone : s.fault = none := (fault_valuesJson_array htable).mpr (htabular.not_flawed hsorted)
    rcases valuesJson_spec htable (.array items) with ⟨rows, hjson, hne, -, hholds, -, hname, hclause⟩ | ⟨-, hfault⟩
    · obtain ⟨objects, rfl, hrows⟩ := Json.holdsRows_array_iff.mp hjson
      obtain ⟨first, hfirst, hcolumns⟩ := Json.exists_first hrows hne
      have hmem {members : List (String × Json)} (hm : members ∈ objects) : Json.object members ∈ objects.map .object :=
        List.mem_map_of_mem hm
      have hkeys : ∀ members ∈ objects, Json.keys members = Json.keys first := fun members hm =>
        htabular.keys_eq hsorted (hmem hm) (hmem hfirst)
      -- The keys of the first object are those of all of them, so its order is theirs.
      refine ⟨hnone, Json.keys first, hsorted first (hmem hfirst), ?_, fun d => ?_⟩
      · intro item hitem key
        rw [htabular.alike item hitem _ (hmem hfirst), Json.isSome_member?_iff]
      · obtain ⟨groups, hvalues, hkeyed⟩ := exists_groups hrows (fun members hm => hsorted members (hmem hm)) hkeys d
        have hfilled : s.rows ≠ [] := hholds.rows ▸ mt List.map_eq_nil_iff.mp hne
        refine ⟨groups, render_ok_iff.mpr ⟨hnone, hfilled, groups, hholds.rows ▸ hvalues, ?_⟩, hkeyed⟩
        rw [hname, hclause, hholds.columns, hcolumns]
        rfl
    · exact absurd hnone hfault
  · intro hflawed
    have hfault : s.fault ≠ none := fun hnone => (fault_valuesJson_array htable).mp hnone hflawed
    refine ⟨hfault, fun d => ?_⟩
    obtain ⟨f, hf⟩ := Option.ne_none_iff_exists'.mp hfault
    exact ⟨f, Statement.render_of_fault (s := .insert s) hf d⟩

/-- The second object gives its members in the other order, and the third has a list for an age. -/
theorem valuesJson_array_people :
    let ana := Json.ofMembers [("age", .integer 41), ("name", .string "Ana")]
    let ben := Json.ofMembers [("name", .string "Ben"), ("age", .null)]
    let cid := Json.ofMembers [("name", .string "Cid"), ("age", .array [.integer 3])]
    let d := Dialect.offline .mysql
    let s := (into " users ").valuesJson (.array [ana, ben])
    Text.trim " users " ≠ "" ∧ Json.Tabular [ana, ben] ∧ s.fault = none ∧
      s.render d = .ok "INSERT INTO \x60users\x60 (\x60age\x60, \x60name\x60) VALUES (41, 'Ana'), (NULL, 'Ben')" ∧
      (∃ keys groups, s.render d = .ok (text d "users" (keys.map Text.trim) groups none) ∧
        List.Forall₂ (fun item group => List.Forall₂ (Keyed d item) keys group) [ana, ben] groups) ∧
      Json.Flawed [ana, cid] ∧ ((into " users ").valuesJson (.array [ana, cid])).fault ≠ none := by
  intro ana ben cid d s
  have written : s.render d =
      .ok "INSERT INTO \x60users\x60 (\x60age\x60, \x60name\x60) VALUES (41, 'Ana'), (NULL, 'Ben')" :=
    ok_of_toOption (by decide +kernel +revert)
  have named : Text.trim " users " = "users" := by decide
  have named' : Text.trim " users " ≠ "" := by decide
  have anaEq : ana = .object [("age", .integer 41), ("name", .string "Ana")] := by rfl
  have benEq : ben = .object [("age", .null), ("name", .string "Ben")] := by rfl
  have cidEq : cid = .object [("age", .array [.integer 3]), ("name", .string "Cid")] := by rfl
  have sorted : ∀ members, .object members ∈ [ana, ben] → Json.Sorted members := by
    intro members h
    rcases List.mem_pair.mp h with h | h
    · obtain ⟨sorted, heq, hsorted⟩ := Json.sorted_ofMembers [("age", .integer 41), ("name", .string "Ana")]
      obtain rfl := Json.object.inj (h.trans heq)
      exact hsorted
    · obtain ⟨sorted, heq, hsorted⟩ := Json.sorted_ofMembers [("name", .string "Ben"), ("age", .null)]
      obtain rfl := Json.object.inj (h.trans heq)
      exact hsorted
  have held : ∀ item ∈ [ana, ben], ∀ key, (item.member? key).isSome = true ↔ key ∈ ["age", "name"] := by
    rw [anaEq, benEq]
    exact List.forall_mem_cons.mpr ⟨fun _ => Json.isSome_member?_iff,
      List.forall_mem_singleton.mpr fun _ => Json.isSome_member?_iff⟩
  have tabular : Json.Tabular [ana, ben] := by
    refine ⟨by simp, ?_, ?_, ?_, fun a ha b hb key => Bool.eq_iff_iff.mpr ((held a ha key).trans (held b hb key).symm)⟩
    all_goals rw [anaEq, benEq]
    · simp
    · simp
    · rintro members h m hm
      rcases List.mem_pair.mp h with h | h <;> obtain rfl := Json.object.inj h <;>
        rcases List.mem_pair.mp hm with rfl | rfl <;> exact trivial
  have flawed : Json.Flawed [ana, cid] := by
    rw [cidEq]
    exact .nested (List.mem_cons_of_mem _ List.mem_cons_self) List.mem_cons_self id
  obtain ⟨hnone, keys, -, -, hwritten⟩ := (valuesJson_array named' [ana, ben]).1 sorted tabular
  obtain ⟨groups, rendered, keyed⟩ := hwritten d
  rw [named] at rendered
  exact ⟨named', tabular, hnone, written, ⟨keys, groups, rendered, keyed⟩, flawed,
    ((valuesJson_array named' [ana, cid]).2 flawed).1⟩

end Insert

end SqlComposer
