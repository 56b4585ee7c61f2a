/-
  SqlComposer.Proofs.Composing.Faults — the fault a statement shows, under further calls.

  A statement keeps its faults in slots: its own, behind it that of its predicates, and
  behind that one that of its joins, as far as its kind has them. A slot is filled once:
  a wrong call leaves a fault that is there as it is. The fault a statement shows, and
  fails with, is the one in the first slot that is filled.

  Proved:
  (1) no call empties a slot or changes what is in it (`Statement.kept_applyAll`), so a
      faulty statement stays faulty and is never rendered;
  (2) the fault shown stays the same unless a slot in front of its own is filled later,
      which never happens to an INSERT, a DELETE or a TRUNCATE
      (`Statement.firstFault_applyAll`);
  (3) it does happen to a SELECT and to an UPDATE: a wrong predicate takes the place of a
      wrong join made before it (`Statement.firstFault_overtaken`).
-/

import SqlComposer.Proofs.Composing.Interleaving
import SqlComposer.Proofs.Composing.Made

namespace SqlComposer

/-! ## Slots -/

/-- What was in a slot is in it still. -/
def Kept (before after : Option BuildFault) : Prop := ∀ f, before = some f → after = some f

namespace Kept

theorem refl (slot : Option BuildFault) : Kept slot slot := fun _ h => h

theorem trans {x y z : Option BuildFault} (hxy : Kept x y) (hyz : Kept y z) : Kept x z := fun f h => hyz f (hxy f h)

/-- Recording fills an empty slot and no other. -/
theorem record (slot new : Option BuildFault) : Kept slot (slot <|> new) := by
  rintro f rfl
  rfl

end Kept

/-! ## Predicates and joins -/

namespace WhereClause

theorem kept_append (w : WhereClause) (c : Condition) : Kept w.fault (w.append c).fault := by
  unfold append
  split <;> exact Kept.refl _

theorem kept_push (w : WhereClause) (conjunction : Conjunction) (template : String) (values : List Value) :
    Kept w.fault (w.push conjunction template values).fault := by
  unfold push
  split
  · exact w.kept_append _
  · exact Kept.record _ _

theorem kept_endGroup (w : WhereClause) (conjunction : Conjunction) : Kept w.fault (w.endGroup conjunction).fault := by
  unfold endGroup
  split
  · exact Kept.record _ _
  · exact Kept.refl _
  · next outer _ _ => exact kept_append { w with opened := outer } _

mutual

theorem kept_apply (w : WhereClause) : ∀ c : WhereCall, Kept w.fault (w.apply c).fault
  | .push conjunction template values => w.kept_push conjunction template values
  | .beginGroup => Kept.refl _
  | .endGroup conjunction => w.kept_endGroup conjunction
  | .group conjunction calls => (kept_applyAll w.beginGroup calls).trans (kept_endGroup _ conjunction)

theorem kept_applyAll (w : WhereClause) : ∀ calls : List WhereCall, Kept w.fault (w.applyAll calls).fault
  | [] => Kept.refl _
  | c :: rest => (kept_apply w c).trans (kept_applyAll (w.apply c) rest)

end

end WhereClause

namespace JoinList

theorem kept_push (l : JoinList) (table : TableRef) (condition : String) (type : JoinType) :
    Kept l.fault (l.push table condition type).fault := by
  unfold push
  split
  · exact Kept.record _ _
  · dsimp only
    split
    · exact Kept.record _ _
    · exact Kept.refl _

theorem kept_apply (l : JoinList) (c : JoinCall) : Kept l.fault (l.apply c).fault := by
  cases c with
  | spec table condition type =>
    show Kept l.fault (l.pushSpec table condition type).fault
    unfold pushSpec
    split
    · exact l.kept_push _ condition type
    · exact Kept.record _ _
  | ref table condition type => exact l.kept_push table condition type

end JoinList

/-! ## SELECT and INSERT -/

namespace Select

theorem kept_fault (s : Select) (c : SelectCall) : Kept s.fault (s.apply c).fault := by
  rw [fault_apply]
  exact Kept.record _ _

theorem kept_predicates (s : Select) (c : SelectCall) : Kept s.conditions.fault (s.apply c).conditions.fault := by
  by_cases hc : c.clause = .conditions
  · cases c <;> cases hc
    exact s.conditions.kept_apply _
  · have hsame : (s.apply c).conditions = s.conditions := same_apply_of_ne hc s
    rw [hsame]
    exact Kept.refl _

theorem kept_joins (s : Select) (c : SelectCall) : Kept s.joins.fault (s.apply c).joins.fault := by
  by_cases hc : c.clause = .joins
  · cases c <;> cases hc
    exact s.joins.kept_apply _
  · have hsame : (s.apply c).joins = s.joins := same_apply_of_ne hc s
    rw [hsame]
    exact Kept.refl _

end Select

namespace Insert

theorem kept_addRow (s : Insert) (row : Record) : Kept s.fault (s.addRow row).fault := by
  unfold addRow
  dsimp only
  split
  · exact Kept.record _ _
  split
  · exact Kept.refl _
  split
  · exact Kept.record _ _
  · exact Kept.refl _

theorem kept_addRows (s : Insert) (rows : List Record) :
    Kept s.fault (rows.foldl (fun s row => s.addRow row) s).fault := by
  induction rows generalizing s with
  | nil => exact Kept.refl _
  | cons row rest ih => exact (s.kept_addRow row).trans (ih (s.addRow row))

theorem kept_setRows (s : Insert) (rows : List Record) : Kept s.fault (s.setRows rows).fault := by
  have hrows : Kept s.fault (rows.foldl (fun s row => s.addRow row) s.clear).fault := s.clear.kept_addRows rows
  unfold setRows
  dsimp only
  split
  · exact hrows.trans (Kept.record _ _)
  · exact hrows

theorem kept_apply (s : Insert) (c : InsertCall) : Kept s.fault (s.apply c).fault := by
  cases c with
  | values row => exact s.clear.kept_addRow row
  | rows rows => exact s.kept_setRows rows
  | addRow row => exact s.kept_addRow row
  | valuesJson j =>
    show Kept s.fault (s.valuesJson j).fault
    unfold valuesJson
    split
    · exact s.kept_setRows _
    · exact Kept.record _ _
  | onDuplicateKey sql =>
    show Kept s.fault (s.onDuplicateKey sql).fault
    unfold onDuplicateKey
    dsimp only
    split
    · exact Kept.record _ _
    · exact Kept.refl _

end Insert

/-! ## UPDATE and DELETE -/

namespace Update

theorem kept_fault (s : Update) (c : UpdateCall) : Kept s.fault (s.apply c).fault := by
  rw [(s.apply_table_fault c).2]
  exact Kept.refl _

theorem conditions_joins_values (row : Record) (s : Update) :
    (s.values row).conditions = s.conditions ∧ (s.values row).joins = s.joins := by
  unfold values
  induction row generalizing s with
  | nil => exact ⟨rfl, rfl⟩
  | cons cv rest ih => exact ih (s.set cv.1 cv.2)

theorem kept_predicates (s : Update) (c : UpdateCall) : Kept s.conditions.fault (s.apply c).conditions.fault := by
  cases c with
  | restrict c => exact s.conditions.kept_apply c
  | values row =>
    show Kept s.conditions.fault (s.values row).conditions.fault
    rw [(s.conditions_joins_values row).1]
    exact Kept.refl _
  | _ => exact Kept.refl _

theorem kept_joins (s : Update) (c : UpdateCall) : Kept s.joins.fault (s.apply c).joins.fault := by
  cases c with
  | join c => exact s.joins.kept_apply c
  | values row =>
    show Kept s.joins.fault (s.values row).joins.fault
    rw [(s.conditions_joins_values row).2]
    exact Kept.refl _
  | _ => exact Kept.refl _

end Update

namespace Delete

theorem kept_fault (s : Delete) (c : WhereCall) : Kept s.fault (s.restrict c).fault := by
  unfold restrict
  split
  · exact Kept.record _ _
  · exact Kept.refl _

theorem kept_predicates (s : Delete) (c : WhereCall) : Kept s.conditions.fault (s.restrict c).conditions.fault := by
  unfold restrict
  split
  · exact Kept.refl _
  · exact s.conditions.kept_apply c

end Delete

/-! ## Statements -/

/-- Where a fault is kept. -/
inductive FaultSlot where
  | own
  | predicates
  | joins
  deriving DecidableEq, Repr

/-- The slots that are looked at before this one. -/
def FaultSlot.before : FaultSlot → List FaultSlot
  | .own => []
  | .predicates => [.own]
  | .joins => [.own, .predicates]

namespace Statement

/-- The fault in a slot; a slot the kind does not have is empty. -/
def slot : Statement → FaultSlot → Option BuildFault
  | .select s, .own => s.fault
  | .select s, .predicates => s.conditions.fault
  | .select s, .joins => s.joins.fault
  | .insert s, .own => s.fault
  | .update s, .own => s.fault
  | .update s, .predicates => s.conditions.fault
  | .update s, .joins => s.joins.fault
  | .delete s, .own => s.fault
  | .delete s, .predicates => s.conditions.fault
  | .insert _, .predicates | .insert _, .joins | .delete _, .joins => none

theorem firstFault_eq_slots (s : Statement) :
    s.firstFault = (s.slot .own <|> s.slot .predicates <|> s.slot .joins) := by
  cases s with
  | select s => rfl
  | update s => rfl
  | insert s => cases h : s.fault <;> simp [firstFault, slot, h]
  | delete s => cases h : s.conditions.fault <;> simp [firstFault, Delete.firstFault, slot, h]

/-- All calls in turn. -/
def applyAll (s : Statement) (calls : List StatementCall) : Statement := calls.foldl apply s

/-! ## Every slot -/

theorem kept_apply (s : Statement) (c : StatementCall) (k : FaultSlot) : Kept (s.slot k) ((s.apply c).slot k) := by
  cases s <;> cases c <;> try exact Kept.refl _
  case select.select s c =>
    cases k with
    | own => exact s.kept_fault c
    | predicates => exact s.kept_predicates c
    | joins => exact s.kept_joins c
  case insert.insert s c =>
    cases k with
    | own => exact s.kept_apply c
    | predicates => exact Kept.refl _
    | joins => exact Kept.refl _
  case update.update s c =>
    cases k with
    | own => exact s.kept_fault c
    | predicates => exact s.kept_predicates c
    | joins => exact s.kept_joins c
  case delete.delete s c =>
    cases k with
    | own => exact s.kept_fault c
    | predicates => exact s.kept_predicates c
    | joins => exact Kept.refl _

theorem kept_applyAll (s : Statement) (calls : List StatementCall) (k : FaultSlot) :
    Kept (s.slot k) ((s.applyAll calls).slot k) := by
  induction calls generalizing s with
  | nil => exact Kept.refl _
  | cons c rest ih => exact (s.kept_apply c k).trans (ih (s.apply c))

/-! ## The first slot that is filled -/

/-- The fault shown is in the first slot that is filled. -/
theorem slot_of_firstFault {s : Statement} {f : BuildFault} (h : s.firstFault = some f) :
    ∃ k, s.slot k = some f ∧ ∀ j ∈ k.before, s.slot j = none := by
  rw [firstFault_eq_slots] at h
  cases hown : s.slot .own with
  | some g =>
    rw [hown] at h
    exact ⟨.own, hown.trans h, by simp [FaultSlot.before]⟩
  | none =>
    rw [hown] at h
    cases hpredicates : s.slot .predicates with
    | some g =>
      rw [hpredicates] at h
      exact ⟨.predicates, hpredicates.trans h, by simp [FaultSlot.before, hown]⟩
    | none =>
      rw [hpredicates] at h
      exact ⟨.joins, by simpa using h, by simp [FaultSlot.before, hown, hpredicates]⟩

/-- Where a slot is filled, only those in front of it come before it. -/
theorem firstFault_of_slot {s : Statement} {k : FaultSlot} {f : BuildFault} (h : s.slot k = some f) :
    s.firstFault = (k.before.findSome? s.slot <|> some f) := by
  rw [firstFault_eq_slots]
  cases k with
  | own => rw [h]; rfl
  | predicates => cases hown : s.slot .own <;> simp [FaultSlot.before, h, hown]
  | joins =>
    cases hown : s.slot .own <;> cases hpredicates : s.slot .predicates <;>
      simp [FaultSlot.before, h, hown, hpredicates]

theorem render_of_fault {s : Statement} {f : BuildFault} (h : s.firstFault = some f) (d : Dialect) :
    s.render d = .error (.builder f) := by
  have hrefuse : refuse (some f) = .error (.builder f) := rfl
  cases s with
  | select s => exact Select.render_of_firstFault h d
  | insert s =>
    have h : s.fault = some f := h
    rw [render, Insert.render, h, hrefuse]
    rfl
  | update s =>
    have h : s.firstFault = some f := h
    rw [render, Update.render, h, hrefuse]
    rfl
  | delete s =>
    have h : s.firstFault = some f := h
    rw [render, Delete.render, h, hrefuse]
    rfl

/-! ## Slots that stay empty -/

/-- A DELETE that is no TRUNCATE accepts every predicate call, so its own slot stays as it is. -/
theorem delete_applyAll {s : Delete} (hs : s.truncates = false) (calls : List StatementCall) :
    ∃ t : Delete, (delete s).applyAll calls = delete t ∧ t.fault = s.fault := by
  induction calls generalizing s with
  | nil => exact ⟨s, rfl, rfl⟩
  | cons c rest ih =>
    cases c with
    | delete c =>
      have hrestrict : s.restrict c = { s with conditions := s.conditions.apply c } := by simp [Delete.restrict, hs]
      obtain ⟨t, ht, hfault⟩ := ih (s := s.restrict c) (by rw [hrestrict]; exact hs)
      exact ⟨t, ht, hfault.trans (by rw [hrestrict])⟩
    | _ => exact ih hs

/-- In front of the fault of an INSERT, a DELETE or a TRUNCATE no slot is ever filled. -/
theorem before_stays_empty {s : Statement} (hs : s.Made) (hselect : s.kind ≠ .select) (hupdate : s.kind ≠ .update)
    {k : FaultSlot} {f : BuildFault} (hk : s.slot k = some f) (hfront : ∀ j ∈ k.before, s.slot j = none)
    (calls : List StatementCall) : ∀ j ∈ k.before, (s.applyAll calls).slot j = none := by
  cases s with
  | select s => exact absurd rfl hselect
  | update s => exact absurd rfl hupdate
  | insert s =>
    cases k with
    | own => simp [FaultSlot.before]
    | predicates => cases hk
    | joins => cases hk
  | delete s =>
    cases k with
    | own => simp [FaultSlot.before]
    | joins => cases hk
    | predicates =>
      have hown : s.fault = none := hfront .own (by simp [FaultSlot.before])
      have htruncates : s.truncates = false := by
        rw [← Bool.not_eq_true]
        intro htruncates
        have hempty : s.conditions = .empty := hs.regular htruncates
        have hk : s.conditions.fault = some f := hk
        rw [hempty] at hk
        cases hk
      obtain ⟨t, ht, hfault⟩ := delete_applyAll htruncates calls
      rw [ht]
      simpa [FaultSlot.before, slot, hfault] using hown

/-! ## The fault shown -/

/-- A faulty statement stays faulty under any further calls, and is never rendered. The fault it shows is kept where it
is; it is shown as long as no slot in front of it is filled, which in an INSERT, a DELETE or a TRUNCATE never happens. -/
theorem firstFault_applyAll {s : Statement} (hs : s.Made) {f : BuildFault} (hf : s.firstFault = some f)
    (calls : List StatementCall) :
    let t := s.applyAll calls
    (∃ k, s.slot k = some f ∧ (∀ j ∈ k.before, s.slot j = none) ∧ t.slot k = some f ∧
      t.firstFault = (k.before.findSome? t.slot <|> some f)) ∧
    (s.kind ≠ .select → s.kind ≠ .update → t.firstFault = some f) ∧
    ∃ g, t.firstFault = some g ∧ ∀ d, t.render d = .error (.builder g) := by
  intro t
  obtain ⟨k, hk, hfront⟩ := slot_of_firstFault hf
  have hkept : t.slot k = some f := s.kept_applyAll calls k f hk
  have hfirst := firstFault_of_slot hkept
  refine ⟨⟨k, hk, hfront, hkept, hfirst⟩, fun hselect hupdate => ?_, ?_⟩
  · have hnone : k.before.findSome? t.slot = none :=
      List.findSome?_eq_none_iff.mpr (before_stays_empty hs hselect hupdate hk hfront calls)
    rw [hfirst, hnone]
    rfl
  · cases ht : t.firstFault with
    | some g => exact ⟨g, rfl, render_of_fault ht⟩
    | none =>
      rw [hfirst] at ht
      cases hb : k.before.findSome? t.slot <;> simp [hb] at ht

/-- The wrong predicate behind it does not count. -/
theorem firstFault_applyAll_of_delete :
    let s := (start .delete "sessions").apply (.delete (.endGroup .and))
    s.Made ∧ s.firstFault = some .groupNotOpen ∧
      (s.applyAll [.delete (.push .and "id = ?" [.null, .null])]).firstFault = some .groupNotOpen := by
  intro s
  have made : s.Made := .called _ (.begun .delete "sessions")
  have faulty : s.firstFault = some .groupNotOpen := rfl
  obtain ⟨-, first, -⟩ := firstFault_applyAll made faulty [.delete (.push .and "id = ?" [.null, .null])]
  exact ⟨made, faulty, first (by decide) (by decide)⟩

/-- In a SELECT and in an UPDATE a wrong predicate takes the place of a wrong join made before it. -/
theorem firstFault_overtaken :
    let selected := (start .select "users").apply (.select (.join (.spec "orders" "" .left)))
    let updated := (start .update "users").apply (.update (.join (.spec "orders" "" .left)))
    let predicate := WhereCall.push .and "id = ?" [.null, .null]
    selected.firstFault = some (.joinNeedsCondition .left) ∧
      (selected.applyAll [.select (.restrict predicate)]).firstFault = some (.placeholders "id = ?" 1 2) ∧
      updated.firstFault = some (.joinNeedsCondition .left) ∧
      (updated.applyAll [.update (.restrict predicate)]).firstFault = some (.placeholders "id = ?" 1 2) :=
  ⟨rfl, rfl, rfl, rfl⟩

end Statement

end SqlComposer
