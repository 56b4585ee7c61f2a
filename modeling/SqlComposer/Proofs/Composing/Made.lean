/-
  SqlComposer.Proofs.Composing.Made — statements as calls make them.

  A statement is begun for a table, or a SELECT without one, and then changed by calls
  in any order, right or wrong. Not every value of `Statement` comes to be that way.

  Proved: a made UPDATE has a table unless it has recorded a fault, and a made TRUNCATE
  has no conditions (`Statement.Made.regular`).
-/

import SqlComposer.Compose.Statement

namespace SqlComposer

/-! ## What calls leave alone -/

namespace Update

theorem values_table_fault (row : Record) (s : Update) :
    (s.values row).table = s.table ∧ (s.values row).fault = s.fault := by
  unfold values
  induction row generalizing s with
  | nil => exact ⟨rfl, rfl⟩
  | cons cv rest ih => exact ih (s.set cv.1 cv.2)

/-- No call changes the table of an UPDATE or the fault of its reading. -/
theorem apply_table_fault (s : Update) (c : UpdateCall) :
    (s.apply c).table = s.table ∧ (s.apply c).fault = s.fault := by
  cases c with
  | values row => exact s.values_table_fault row
  | set column v => exact ⟨rfl, rfl⟩
  | setRaw column sql => exact ⟨rfl, rfl⟩
  | join c => exact ⟨rfl, rfl⟩
  | restrict c => exact ⟨rfl, rfl⟩

end Update

/-! ## Made statements -/

namespace Statement

inductive Made : Statement → Prop where
  | begun (kind : StatementKind) (spec : String) : Made (start kind spec)
  | bare : Made (.select .empty)
  | called {s : Statement} (c : StatementCall) : Made s → Made (s.apply c)

/-- An UPDATE without a table has recorded why; a TRUNCATE holds no conditions. -/
def Regular : Statement → Prop
  | .update s => s.table = none → s.fault ≠ none
  | .delete s => s.truncates = true → s.conditions = .empty
  | _ => True

theorem regular_start (kind : StatementKind) (spec : String) : (start kind spec).Regular := by
  cases kind with
  | select => trivial
  | insert => trivial
  | update =>
    show (Update.of spec).table = none → (Update.of spec).fault ≠ none
    unfold Update.of
    split <;> simp
  | delete => intro h; cases h
  | truncate => exact fun _ => rfl

theorem Regular.apply {s : Statement} (hs : s.Regular) (c : StatementCall) : (s.apply c).Regular := by
  cases s <;> cases c <;> try exact hs
  case update.update s c =>
    obtain ⟨ht, hf⟩ := s.apply_table_fault c
    show (s.apply c).table = none → (s.apply c).fault ≠ none
    rw [ht, hf]
    exact hs
  case delete.delete s c =>
    show (s.restrict c).truncates = true → (s.restrict c).conditions = .empty
    unfold Delete.restrict
    split
    · exact hs
    · intro h
      contradiction

theorem Made.regular {s : Statement} (h : s.Made) : s.Regular := by
  induction h with
  | begun kind spec => exact regular_start kind spec
  | bare => trivial
  | called c _ ih => exact ih.apply c

end Statement

end SqlComposer
