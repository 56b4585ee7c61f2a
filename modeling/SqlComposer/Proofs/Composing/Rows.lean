/-
  SqlComposer.Proofs.Composing.Rows — the rows of an INSERT, under any calls.

  A call that sets rows begins a batch, and rows added later belong to the batch in hand.
  The first row of a batch names its columns. A batch is aligned when each of its rows
  names at least one column, and all of them the same ones in the same order.

  Proved:
  (1) the calls leave no fault exactly when the table has a name, every call holds what it
      must, and every batch is aligned (`Insert.fault_eq_none_iff`); the INSERT then holds
      the batch in hand (`Insert.holds_of_fault`);
  (2) so it is rendered exactly when, besides, that batch has a row and all its values have
      a text (`Insert.render_applyAll_ok_iff`);
  (3) what is rendered is the columns of the first row of that batch, and for each of its
      rows one group of as many values, each under the column it was given for
      (`Insert.rectangular`). A row that is empty or names other columns, in whichever
      batch, keeps the INSERT from being rendered, and so does a JSON value that holds no
      rows.
-/

import SqlComposer.Proofs.Composing.Faults
import SqlComposer.Proofs.Succeeding

namespace SqlComposer

/-! ## Batches -/

namespace Record

/-- The columns a row names. -/
def columns (row : Record) : List String := row.map fun cell => Text.trim cell.1

def values (row : Record) : List Value := row.map (·.2)

theorem columns_eq_nil {row : Record} : row.columns = [] ↔ row = [] := by simp [columns]

end Record

/-- The columns of a batch, which its first row names. -/
def columnsOf : List Record → List String
  | [] => []
  | first :: _ => first.columns

structure Aligned (batch : List Record) : Prop where
  filled : ∀ row ∈ batch, row ≠ []
  alike : ∀ row ∈ batch, row.columns = columnsOf batch

theorem aligned_nil : Aligned [] := ⟨by simp, by simp⟩

theorem Aligned.of_append {batch more : List Record} (h : Aligned (batch ++ more)) : Aligned batch := by
  cases batch with
  | nil => exact aligned_nil
  | cons first rest =>
    refine ⟨?_, ?_⟩
    · intro row hrow
      exact h.filled row (List.mem_append_left more hrow)
    · intro row hrow
      exact h.alike row (List.mem_append_left more hrow)

theorem aligned_singleton {row : Record} : Aligned [row] ↔ row ≠ [] :=
  ⟨fun h => h.filled row List.mem_cons_self, fun h => ⟨by simpa using h, by simp [columnsOf]⟩⟩

/-- Each row names columns, and any two name the same ones. -/
theorem aligned_iff_columns {batch : List Record} :
    Aligned batch ↔ (∀ columns ∈ batch.map Record.columns, columns ≠ []) ∧
      ∀ a ∈ batch.map Record.columns, ∀ b ∈ batch.map Record.columns, a = b := by
  simp only [List.forall_mem_map, Ne, Record.columns_eq_nil]
  constructor
  · intro h
    exact ⟨h.filled, fun a ha b hb => (h.alike a ha).trans (h.alike b hb).symm⟩
  · rintro ⟨hfilled, halike⟩
    refine ⟨hfilled, fun row hrow => ?_⟩
    cases batch with
    | nil => cases hrow
    | cons first rest => exact halike row hrow first List.mem_cons_self

/-- A row behind others has their columns. -/
theorem aligned_concat {first row : Record} {rest : List Record} (h : Aligned (first :: rest)) :
    Aligned (first :: rest ++ [row]) ↔ row ≠ [] ∧ row.columns = first.columns := by
  constructor
  · intro hall
    have hmem : row ∈ first :: rest ++ [row] := by simp
    exact ⟨hall.filled row hmem, hall.alike row hmem⟩
  · rintro ⟨hne, hcolumns⟩
    refine ⟨?_, ?_⟩
    · intro r hr
      rcases List.mem_append.mp hr with hr | hr
      · exact h.filled r hr
      · exact List.mem_singleton.mp hr ▸ hne
    · intro r hr
      rcases List.mem_append.mp hr with hr | hr
      · exact h.alike r hr
      · exact List.mem_singleton.mp hr ▸ hcolumns

namespace Insert

/-! ## Rows one by one -/

/-- The INSERT holds an aligned batch. -/
structure Holds (s : Insert) (batch : List Record) : Prop where
  columns : s.columns = columnsOf batch
  rows : s.rows = batch.map Record.values
  aligned : Aligned batch

theorem withFault_ne_none (s : Insert) (f : BuildFault) : (s.withFault f).fault ≠ none := by
  cases h : s.fault <;> simp [withFault, h]

theorem holds_clear (s : Insert) : s.clear.Holds [] := ⟨rfl, rfl, aligned_nil⟩

theorem addRow_eq (s : Insert) (row : Record) :
    s.addRow row =
      if row.columns.isEmpty then s.withFault (.rowWithoutColumns (s.rows.length + 1))
      else if s.rows.isEmpty then { s with columns := row.columns, rows := [row.values] }
      else if row.columns != s.columns then
        s.withFault (.rowColumnsDiffer (s.rows.length + 1) row.columns s.columns)
      else { s with rows := s.rows ++ [row.values] } := rfl

/-- A row is taken when the batch with it is aligned, and else leaves a fault. -/
theorem addRow_spec {s : Insert} {batch : List Record} (h : s.Holds batch) (row : Record) :
    (Aligned (batch ++ [row]) ∧ (s.addRow row).Holds (batch ++ [row]) ∧ (s.addRow row).fault = s.fault) ∨
      (¬ Aligned (batch ++ [row]) ∧ (s.addRow row).fault ≠ none) := by
  rw [addRow_eq]
  by_cases hrow : row = []
  · right
    subst hrow
    refine ⟨fun ha => ha.filled [] (by simp) rfl, ?_⟩
    exact s.withFault_ne_none _
  · have hne : row.columns.isEmpty = false := by simpa [Record.columns_eq_nil] using hrow
    rw [hne, if_neg Bool.false_ne_true, h.rows]
    cases batch with
    | nil =>
      left
      have ha : Aligned [row] := aligned_singleton.mpr hrow
      exact ⟨ha, ⟨rfl, rfl, ha⟩, rfl⟩
    | cons first rest =>
      rw [List.map_cons, List.isEmpty_cons, if_neg Bool.false_ne_true, h.columns]
      by_cases hsame : row.columns = first.columns
      · left
        have ha : Aligned (first :: rest ++ [row]) := (aligned_concat h.aligned).mpr ⟨hrow, hsame⟩
        rw [if_neg (by simp [columnsOf, hsame])]
        exact ⟨ha, ⟨rfl, by simp, ha⟩, rfl⟩
      · right
        rw [if_pos (by simp [columnsOf, hsame])]
        refine ⟨fun ha => hsame ((aligned_concat h.aligned).mp ha).2, ?_⟩
        exact s.withFault_ne_none _

theorem addRows_spec {s : Insert} {batch : List Record} (h : s.Holds batch) (rows : List Record) :
    let t := rows.foldl (fun s row => s.addRow row) s
    (Aligned (batch ++ rows) ∧ t.Holds (batch ++ rows) ∧ t.fault = s.fault) ∨
      (¬ Aligned (batch ++ rows) ∧ t.fault ≠ none) := by
  induction rows generalizing s batch with
  | nil =>
    left
    rw [List.append_nil]
    exact ⟨h.aligned, h, rfl⟩
  | cons row rest ih =>
    rw [List.foldl_cons, List.append_cons]
    rcases addRow_spec h row with ⟨-, hholds, hfault⟩ | ⟨hno, hfault⟩
    · have hrest := ih hholds
      rwa [hfault] at hrest
    · right
      refine ⟨fun ha => hno ha.of_append, ?_⟩
      obtain ⟨f, hf⟩ := Option.ne_none_iff_exists'.mp hfault
      simp [kept_addRows (s.addRow row) rest f hf]

/-- Rows are set when there is one at least and they are aligned. -/
theorem setRows_spec (s : Insert) (rows : List Record) :
    (rows ≠ [] ∧ Aligned rows ∧ (s.setRows rows).Holds rows ∧ (s.setRows rows).fault = s.fault) ∨
      (¬ (rows ≠ [] ∧ Aligned rows) ∧ (s.setRows rows).fault ≠ none) := by
  unfold setRows
  dsimp only
  rcases addRows_spec s.holds_clear rows with ⟨ha, hholds, hfault⟩ | ⟨hno, hfault⟩
  · rw [List.nil_append] at ha hholds
    rw [hholds.rows]
    cases rows with
    | nil =>
      right
      refine ⟨fun hne => hne.1 rfl, ?_⟩
      exact withFault_ne_none _ _
    | cons first rest =>
      left
      exact ⟨by simp, ha, hholds, hfault⟩
  · right
    refine ⟨fun hrows => hno hrows.2, ?_⟩
    split
    · exact withFault_ne_none _ _
    · exact hfault

end Insert

/-! ## Rows from JSON -/

namespace Json

/-- The members of an object as a row. -/
def IsRow (members : List (String × Json)) (row : Record) : Prop :=
  List.Forall₂ (fun member cell => cell.1 = member.1 ∧ Value.ofJson member.2 = .ok cell.2) members row

/-- The rows of an object, which is one, and of an array of objects. -/
inductive HoldsRows : Json → List Record → Prop
  | object {members : List (String × Json)} {row : Record} : IsRow members row → HoldsRows (.object members) [row]
  | array {objects : List (List (String × Json))} {rows : List Record} :
      List.Forall₂ IsRow objects rows → HoldsRows (.array (objects.map .object)) rows

end Json

namespace Insert

theorem recordOf_ok_iff {members : List (String × Json)} {row : Record} :
    recordOf members = .ok row ↔ Json.IsRow members row := by
  induction members generalizing row with
  | nil =>
    rw [Json.IsRow, List.forall₂_nil_left_iff, recordOf, Except.ok.injEq, eq_comm]
  | cons member rest ih =>
    obtain ⟨column, j⟩ := member
    rw [Json.IsRow, List.forall₂_cons_left_iff, recordOf]
    cases hj : Value.ofJson j with
    | error f => simp
    | ok v =>
      constructor
      · intro h
        obtain ⟨cells, hcells, rfl⟩ := map_ok h
        exact ⟨(column, v), cells, ⟨rfl, rfl⟩, ih.mp hcells, rfl⟩
      · rintro ⟨⟨name, w⟩, cells, ⟨rfl, hw⟩, hcells, rfl⟩
        obtain rfl : v = w := Except.ok.inj hw
        show (recordOf rest).map _ = _
        rw [ih.mpr hcells]
        rfl

theorem objects_ok_iff {position : Nat} {items : List Json} {rows : List (List (String × Json))} :
    objects position items = .ok rows ↔ items = rows.map .object := by
  induction items generalizing position rows with
  | nil => cases rows <;> simp [objects]
  | cons item rest ih =>
    cases item with
    | object members =>
      rw [objects]
      constructor
      · intro h
        obtain ⟨others, hothers, rfl⟩ := map_ok h
        rw [List.map_cons, ih.mp hothers]
      · intro h
        cases rows with
        | nil => cases h
        | cons row others =>
          obtain ⟨hrow, hothers⟩ := List.cons.inj h
          obtain rfl : members = row := Json.object.inj hrow
          rw [ih.mpr hothers]
          rfl
    | _ =>
      refine iff_of_false (by simp [objects]) ?_
      cases rows <;> simp

theorem recordsOf_ok_iff {j : Json} {rows : List Record} : recordsOf j = .ok rows ↔ j.HoldsRows rows := by
  have hall {objs : List (List (String × Json))} {rows : List Record} :
      objs.mapM recordOf = .ok rows ↔ List.Forall₂ Json.IsRow objs rows := by
    simp only [mapM_ok_iff, recordOf_ok_iff]
  constructor
  · intro h
    cases j with
    | object members =>
      have hrows : List.Forall₂ Json.IsRow [members] rows := hall.mp h
      obtain ⟨row, others, hrow, hothers, rfl⟩ := List.forall₂_cons_left_iff.mp hrows
      obtain rfl : others = [] := List.forall₂_nil_left_iff.mp hothers
      exact .object hrow
    | array items =>
      obtain ⟨objs, hobjs, hrows⟩ := bind_ok h
      obtain rfl := objects_ok_iff.mp hobjs
      exact .array (hall.mp hrows)
    | _ => cases h
  · intro h
    cases h with
    | object hrow => exact hall.mpr (.cons hrow .nil)
    | @array objs rows hrows =>
      have hobjs : objects 1 (objs.map .object) = .ok objs := objects_ok_iff.mpr rfl
      rw [recordsOf]
      dsimp only
      rw [hobjs]
      exact hall.mpr hrows

end Insert

/-! ## Calls -/

/-- The rows given, batch by batch: the batch in hand, and those before it, the latest first. -/
structure Batches where
  current : List Record
  earlier : List (List Record)

namespace Batches

def all (b : Batches) : List (List Record) := b.current :: b.earlier

/-- A call that sets rows begins a batch; a row that is added belongs to the one in hand. -/
def after (b : Batches) : InsertCall → Batches
  | .values row => ⟨[row], b.all⟩
  | .rows rows => ⟨rows, b.all⟩
  | .addRow row => { b with current := b.current ++ [row] }
  | .valuesJson j =>
    match Insert.recordsOf j with
    | .ok rows => ⟨rows, b.all⟩
    | .error _ => b
  | .onDuplicateKey _ => b

/-- A batch stays, or gets longer. -/
theorem kept_after (b : Batches) (c : InsertCall) : ∀ batch ∈ b.all, ∃ more, batch ++ more ∈ (b.after c).all := by
  have hsame : ∀ batch ∈ b.all, ∃ more, batch ++ more ∈ b.all := fun batch h => ⟨[], by simpa using h⟩
  have hbegun (rows : List Record) : ∀ batch ∈ b.all, ∃ more, batch ++ more ∈ Batches.all ⟨rows, b.all⟩ :=
    fun batch h => ⟨[], by simpa [all] using Or.inr h⟩
  cases c with
  | values row => exact hbegun [row]
  | rows rows => exact hbegun rows
  | onDuplicateKey sql => exact hsame
  | valuesJson j =>
    rw [after]
    cases Insert.recordsOf j with
    | ok rows => exact hbegun rows
    | error f => exact hsame
  | addRow row =>
    intro batch h
    rcases List.mem_cons.mp h with rfl | h
    · exact ⟨[row], List.mem_cons_self⟩
    · refine ⟨[], ?_⟩
      rw [List.append_nil]
      exact List.mem_cons_of_mem _ h

theorem aligned_of_foldl {b : Batches} {calls : List InsertCall}
    (h : ∀ batch ∈ (calls.foldl after b).all, Aligned batch) : ∀ batch ∈ b.all, Aligned batch := by
  induction calls generalizing b with
  | nil => exact h
  | cons c rest ih =>
    intro batch hbatch
    obtain ⟨more, hmore⟩ := b.kept_after c batch hbatch
    exact (ih h _ hmore).of_append

theorem earlier_after (b : Batches) (c : InsertCall) : ∀ batch ∈ (b.after c).earlier, batch ∈ b.all := by
  have hsame : ∀ batch ∈ b.earlier, batch ∈ b.all := fun batch h => List.mem_cons_of_mem _ h
  cases c with
  | values row => exact fun batch h => h
  | rows rows => exact fun batch h => h
  | addRow row => exact hsame
  | onDuplicateKey sql => exact hsame
  | valuesJson j =>
    rw [after]
    cases Insert.recordsOf j with
    | ok rows => exact fun batch h => h
    | error f => exact hsame

end Batches

/-- The batches of a row of calls; rows that are added before any are set make up the first one. -/
def batchesOf (calls : List InsertCall) : Batches := calls.foldl Batches.after ⟨[], []⟩

/-- The call holds what it must, whatever columns its rows name. -/
def InsertCall.Sound : InsertCall → Prop
  | .rows batch => batch ≠ []
  | .valuesJson j => ∃ batch, j.HoldsRows batch ∧ batch ≠ []
  | .onDuplicateKey sql => Text.trim sql ≠ ""
  | .values _ | .addRow _ => True

namespace Insert

/-- All calls in turn. -/
def applyAll (s : Insert) (calls : List InsertCall) : Insert := calls.foldl apply s

theorem apply_spec {s : Insert} {b : Batches} (h : s.Holds b.current) (c : InsertCall) :
    (c.Sound ∧ Aligned (b.after c).current ∧ (s.apply c).Holds (b.after c).current ∧ (s.apply c).fault = s.fault) ∨
      (¬ (c.Sound ∧ Aligned (b.after c).current) ∧ (s.apply c).fault ≠ none) := by
  cases c with
  | values row =>
    rcases addRow_spec s.holds_clear row with ⟨ha, hholds, hfault⟩ | ⟨hno, hfault⟩
    · exact .inl ⟨trivial, ha, hholds, hfault⟩
    · exact .inr ⟨fun hc => hno hc.2, hfault⟩
  | rows rows =>
    rcases s.setRows_spec rows with ⟨hne, ha, hholds, hfault⟩ | ⟨hno, hfault⟩
    · exact .inl ⟨hne, ha, hholds, hfault⟩
    · exact .inr ⟨hno, hfault⟩
  | addRow row =>
    rcases addRow_spec h row with ⟨ha, hholds, hfault⟩ | ⟨hno, hfault⟩
    · exact .inl ⟨trivial, ha, hholds, hfault⟩
    · exact .inr ⟨fun hc => hno hc.2, hfault⟩
  | valuesJson j =>
    show (_ ∧ _ ∧ (s.valuesJson j).Holds _ ∧ (s.valuesJson j).fault = s.fault) ∨ (_ ∧ (s.valuesJson j).fault ≠ none)
    rw [Batches.after, valuesJson, InsertCall.Sound]
    simp only [← recordsOf_ok_iff]
    cases hj : recordsOf j with
    | ok rows =>
      rcases s.setRows_spec rows with ⟨hne, ha, hholds, hfault⟩ | ⟨hno, hfault⟩
      · exact .inl ⟨⟨rows, rfl, hne⟩, ha, hholds, hfault⟩
      · refine .inr ⟨?_, hfault⟩
        rintro ⟨⟨rows', hrows', hne⟩, ha⟩
        obtain rfl := Except.ok.inj hrows'
        exact hno ⟨hne, ha⟩
    | error f =>
      refine .inr ⟨?_, s.withFault_ne_none f⟩
      rintro ⟨⟨rows, hrows, -⟩, -⟩
      cases hrows
  | onDuplicateKey sql =>
    show (_ ∧ _ ∧ (s.onDuplicateKey sql).Holds _ ∧ (s.onDuplicateKey sql).fault = s.fault) ∨
      (_ ∧ (s.onDuplicateKey sql).fault ≠ none)
    unfold onDuplicateKey
    dsimp only
    by_cases hsql : Text.trim sql = ""
    · right
      rw [if_pos (by simp [hsql])]
      exact ⟨fun hc => hc.1 hsql, s.withFault_ne_none _⟩
    · left
      rw [if_neg (by simpa using hsql)]
      exact ⟨hsql, h.aligned, ⟨h.columns, h.rows, h.aligned⟩, rfl⟩

theorem kept_applyAll (s : Insert) (calls : List InsertCall) : Kept s.fault (s.applyAll calls).fault := by
  induction calls generalizing s with
  | nil => exact Kept.refl _
  | cons c rest ih => exact (s.kept_apply c).trans (ih (s.apply c))

/-- A run of calls is sound and aligned throughout, and then holds the batch in hand; or it leaves a fault. -/
theorem applyAll_spec {s : Insert} {b : Batches} (h : s.Holds b.current) (hb : ∀ batch ∈ b.earlier, Aligned batch)
    (calls : List InsertCall) :
    let b' := calls.foldl Batches.after b
    ((∀ c ∈ calls, c.Sound) ∧ (∀ batch ∈ b'.all, Aligned batch) ∧ (s.applyAll calls).Holds b'.current ∧
        (s.applyAll calls).fault = s.fault) ∨
      (¬ ((∀ c ∈ calls, c.Sound) ∧ ∀ batch ∈ b'.all, Aligned batch) ∧ (s.applyAll calls).fault ≠ none) := by
  induction calls generalizing s b with
  | nil =>
    left
    exact ⟨by simp, List.forall_mem_cons.mpr ⟨h.aligned, hb⟩, h, rfl⟩
  | cons c rest ih =>
    have hstep : s.applyAll (c :: rest) = (s.apply c).applyAll rest := rfl
    rw [List.foldl_cons, hstep, List.forall_mem_cons]
    rcases apply_spec h c with ⟨hsound, ha, hholds, hfault⟩ | ⟨hno, hfault⟩
    · have hearlier : ∀ batch ∈ (b.after c).earlier, Aligned batch := by
        intro batch hbatch
        rcases List.mem_cons.mp (b.earlier_after c batch hbatch) with rfl | hbatch
        · exact h.aligned
        · exact hb batch hbatch
      rcases ih hholds hearlier with ⟨hsounds, hall, hend, hsame⟩ | ⟨hno, hend⟩
      · exact .inl ⟨⟨hsound, hsounds⟩, hall, hend, hsame.trans hfault⟩
      · exact .inr ⟨fun hc => hno ⟨hc.1.2, hc.2⟩, hend⟩
    · right
      refine ⟨fun hc => hno ⟨hc.1.1, Batches.aligned_of_foldl hc.2 _ List.mem_cons_self⟩, ?_⟩
      obtain ⟨f, hf⟩ := Option.ne_none_iff_exists'.mp hfault
      simp [kept_applyAll (s.apply c) rest f hf]

theorem blank_or_faultless (table : String) :
    (Text.trim table ≠ "" ∧ (into table).fault = none) ∨ (Text.trim table = "" ∧ (into table).fault ≠ none) := by
  by_cases h : Text.trim table = ""
  · exact .inr ⟨h, by simp [into, h]⟩
  · exact .inl ⟨h, by simp [into, h]⟩

theorem holds_into (table : String) : (into table).Holds [] := ⟨rfl, rfl, aligned_nil⟩

theorem fault_eq_none_iff {table : String} {calls : List InsertCall} :
    ((into table).applyAll calls).fault = none ↔
      Text.trim table ≠ "" ∧ (∀ c ∈ calls, c.Sound) ∧ ∀ batch ∈ (batchesOf calls).all, Aligned batch := by
  rcases applyAll_spec (b := ⟨[], []⟩) (holds_into table) (by simp) calls with ⟨hsound, hall, -, hsame⟩ | ⟨hno, hfault⟩
  · rw [hsame]
    rcases blank_or_faultless table with ⟨hname, hnone⟩ | ⟨hname, hsome⟩
    · exact iff_of_true hnone ⟨hname, hsound, hall⟩
    · exact iff_of_false hsome fun h => h.1 hname
  · exact iff_of_false hfault fun h => hno h.2

theorem holds_of_fault {table : String} {calls : List InsertCall} (h : ((into table).applyAll calls).fault = none) :
    ((into table).applyAll calls).Holds (batchesOf calls).current := by
  rcases applyAll_spec (b := ⟨[], []⟩) (holds_into table) (by simp) calls with ⟨-, -, hholds, -⟩ | ⟨-, hfault⟩
  · exact hholds
  · exact absurd h hfault

/-! ## What the rows leave alone -/

theorem addRow_frame (s : Insert) (row : Record) :
    (s.addRow row).table = s.table ∧ (s.addRow row).onDuplicate = s.onDuplicate := by
  rw [addRow_eq]
  repeat' split
  all_goals exact ⟨rfl, rfl⟩

theorem setRows_frame (s : Insert) (rows : List Record) :
    (s.setRows rows).table = s.table ∧ (s.setRows rows).onDuplicate = s.onDuplicate := by
  have hrows (t : Insert) : (rows.foldl (fun s row => s.addRow row) t).table = t.table ∧
      (rows.foldl (fun s row => s.addRow row) t).onDuplicate = t.onDuplicate := by
    induction rows generalizing t with
    | nil => exact ⟨rfl, rfl⟩
    | cons row rest ih =>
      obtain ⟨htable, hclause⟩ := t.addRow_frame row
      exact ⟨(ih _).1.trans htable, (ih _).2.trans hclause⟩
  unfold setRows
  dsimp only
  split <;> exact hrows s.clear

end Insert

/-- The clause the call sets. -/
def InsertCall.clause? : InsertCall → Option String
  | .onDuplicateKey sql => some (Text.trim sql)
  | _ => none

/-- The clause that was set last. -/
def clauseOf (calls : List InsertCall) : Option String := calls.reverse.findSome? InsertCall.clause?

namespace Insert

theorem apply_frame (s : Insert) {c : InsertCall} (h : c.Sound) :
    (s.apply c).table = s.table ∧ (s.apply c).onDuplicate = c.clause?.or s.onDuplicate := by
  cases c with
  | values row => exact s.clear.addRow_frame row
  | rows rows => exact s.setRows_frame rows
  | addRow row => exact s.addRow_frame row
  | valuesJson j =>
    show (s.valuesJson j).table = _ ∧ (s.valuesJson j).onDuplicate = _
    unfold valuesJson
    split
    · exact s.setRows_frame _
    · exact ⟨rfl, rfl⟩
  | onDuplicateKey sql =>
    have hsql : Text.trim sql ≠ "" := h
    show (s.onDuplicateKey sql).table = _ ∧ (s.onDuplicateKey sql).onDuplicate = _
    unfold onDuplicateKey
    dsimp only
    rw [if_neg (by simpa using hsql)]
    exact ⟨rfl, rfl⟩

theorem applyAll_frame (s : Insert) {calls : List InsertCall} (h : ∀ c ∈ calls, c.Sound) :
    (s.applyAll calls).table = s.table ∧ (s.applyAll calls).onDuplicate = (clauseOf calls).or s.onDuplicate := by
  induction calls generalizing s with
  | nil => exact ⟨rfl, rfl⟩
  | cons c rest ih =>
    rw [List.forall_mem_cons] at h
    obtain ⟨htable, hclause⟩ := s.apply_frame h.1
    obtain ⟨hrest, hlast⟩ := ih (s.apply c) h.2
    refine ⟨hrest.trans htable, ?_⟩
    have hcons : clauseOf (c :: rest) = (clauseOf rest).or c.clause? := by
      rw [clauseOf, List.reverse_cons, List.findSome?_append]
      cases hc : c.clause? <;> simp [clauseOf, hc]
    rw [hcons, Option.or_assoc, ← hclause]
    exact hlast

end Insert

/-! ## Rendering -/

theorem Value.renderAll_ok_iff {d : Dialect} {vs : List Value} {sqls : List String} :
    Value.renderAll d vs = .ok sqls ↔ List.Forall₂ (fun v sql => v.render d = .ok sql) vs sqls := by
  have hmapM : Value.renderAll d vs = vs.mapM fun v => v.render d := by
    induction vs with
    | nil => rfl
    | cons v rest ih => rw [Value.renderAll, List.mapM_cons, ih]
  rw [hmapM, mapM_ok_iff]

namespace Insert

/-- The text of one row. -/
def group (sqls : List String) : String := "(" ++ Text.join ", " sqls ++ ")"

theorem renderRows_ok_iff {d : Dialect} {rows : List (List Value)} {sqls : List String} :
    Value.renderRows d rows = .ok sqls ↔
      ∃ groups, List.Forall₂ (List.Forall₂ fun v sql => v.render d = .ok sql) rows groups ∧
        sqls = groups.map group := by
  induction rows generalizing sqls with
  | nil => simp [Value.renderRows, eq_comm]
  | cons row rest ih =>
    rw [Value.renderRows]
    constructor
    · intro h
      obtain ⟨entries, hentries, h⟩ := bind_ok h
      obtain ⟨others, hothers, h⟩ := bind_ok h
      obtain ⟨groups, hgroups, rfl⟩ := ih.mp hothers
      exact ⟨entries :: groups, .cons (Value.renderAll_ok_iff.mp hentries) hgroups, (Except.ok.inj h).symm⟩
    · rintro ⟨_, hgroups, rfl⟩
      cases hgroups with
      | @cons _ entries _ groups hentries hgroups =>
        rw [Value.renderAll_ok_iff.mpr hentries, ih.mpr ⟨groups, hgroups, rfl⟩]
        rfl

/-- The text of an INSERT. -/
def text (d : Dialect) (table : String) (columns : List String) (groups : List (List String))
    (clause : Option String) : String :=
  "INSERT INTO " ++ d.quoteTable table ++ " (" ++ Text.join ", " (columns.map d.quoteIdentifier) ++ ") VALUES " ++
    Text.join ", " (groups.map group) ++
    match clause with
    | some sql => " ON DUPLICATE KEY UPDATE " ++ sql
    | none => ""

theorem render_ok_iff {d : Dialect} {s : Insert} {sql : String} :
    s.render d = .ok sql ↔ s.fault = none ∧ s.rows ≠ [] ∧
      ∃ groups, List.Forall₂ (List.Forall₂ fun v sql => v.render d = .ok sql) s.rows groups ∧
        sql = text d s.table s.columns groups s.onDuplicate := by
  rw [render]
  cases hfault : s.fault with
  | some f => exact iff_of_false (fun h => by cases h) (by simp)
  | none =>
    cases hrows : s.rows with
    | nil => exact iff_of_false (fun h => by cases h) (by simp)
    | cons row rest =>
      rw [← hrows]
      have hmore : s.rows ≠ [] := by simp [hrows]
      constructor
      · intro h
        rw [if_neg (by simp [hrows])] at h
        obtain ⟨-, -, h⟩ := bind_ok h
        obtain ⟨sqls, hsqls, h⟩ := bind_ok h
        obtain ⟨groups, hgroups, rfl⟩ := renderRows_ok_iff.mp hsqls
        exact ⟨rfl, hmore, groups, hgroups, (Except.ok.inj h).symm⟩
      · rintro ⟨-, -, groups, hgroups, rfl⟩
        rw [if_neg (by simp [hrows]), renderRows_ok_iff.mpr ⟨groups, hgroups, rfl⟩]
        rfl

/-- A row as it is written: under the columns, as many entries, each the value given for its column. -/
structure Written (d : Dialect) (columns : List String) (row : Record) (group : List String) : Prop where
  named : row.columns = columns
  width : group.length = columns.length
  entries : List.Forall₂ (fun cell sql => cell.2.render d = .ok sql) row group

/-- The rows of an aligned batch are written under its columns when their values are. -/
theorem written_iff {d : Dialect} {columns : List String} {batch : List Record} {groups : List (List String)}
    (h : ∀ row ∈ batch, row.columns = columns) :
    List.Forall₂ (Written d columns) batch groups ↔
      List.Forall₂ (List.Forall₂ fun v sql => v.render d = .ok sql) (batch.map Record.values) groups := by
  rw [List.forall₂_map_left_iff]
  constructor
  · refine List.Forall₂.imp fun row group hrow => ?_
    rw [Record.values, List.forall₂_map_left_iff]
    exact hrow.entries
  · intro hall
    induction hall with
    | nil => exact .nil
    | @cons row group batch groups hrow _ ih =>
      rw [List.forall_mem_cons] at h
      rw [Record.values, List.forall₂_map_left_iff] at hrow
      refine .cons ⟨h.1, ?_, hrow⟩ (ih h.2)
      rw [← hrow.length_eq, ← h.1, Record.columns, List.length_map]

/-- An INSERT is rendered exactly when the table has a name, every call holds what it must, and every batch is aligned;
and then as the rows of the batch in hand, under their columns. -/
theorem render_applyAll_ok_iff {table : String} {calls : List InsertCall} {d : Dialect} {sql : String} :
    let b := batchesOf calls
    ((into table).applyAll calls).render d = .ok sql ↔
      (Text.trim table ≠ "" ∧ (∀ c ∈ calls, c.Sound) ∧ ∀ batch ∈ b.all, Aligned batch) ∧ b.current ≠ [] ∧
        ∃ groups, List.Forall₂ (Written d (columnsOf b.current)) b.current groups ∧
          sql = text d (Text.trim table) (columnsOf b.current) groups (clauseOf calls) := by
  intro b
  rw [render_ok_iff, fault_eq_none_iff]
  refine and_congr_right fun hgood => ?_
  have hholds : ((into table).applyAll calls).Holds b.current := holds_of_fault (fault_eq_none_iff.mpr hgood)
  obtain ⟨htable, hclause⟩ := (into table).applyAll_frame hgood.2.1
  have hclause : ((into table).applyAll calls).onDuplicate = clauseOf calls := hclause.trans Option.or_none
  rw [hholds.rows, hholds.columns, htable, hclause]
  refine and_congr (not_congr List.map_eq_nil_iff) (exists_congr fun groups => and_congr ?_ Iff.rfl)
  exact (written_iff hholds.aligned.alike).symm

/-- What a run of calls renders is the columns of the first row of the batch in hand, and for each of its rows one
group, in which each value stands under the column it was given for. An empty row, one with other columns than the
first of its batch, and JSON that holds no rows keep the INSERT from being rendered. -/
theorem rectangular (table : String) (calls : List InsertCall) (d : Dialect) :
    let s := (into table).applyAll calls
    let b := batchesOf calls
    (∀ sql, s.render d = .ok sql → b.current ≠ [] ∧
        ∃ groups, List.Forall₂ (Written d (columnsOf b.current)) b.current groups ∧
          sql = text d (Text.trim table) (columnsOf b.current) groups (clauseOf calls)) ∧
      ((∃ batch ∈ b.all, ∃ row ∈ batch, row = [] ∨ row.columns ≠ columnsOf batch) →
        ∃ f, s.render d = .error (.builder f)) ∧
      ((∃ j, .valuesJson j ∈ calls ∧ ∀ rows, ¬ j.HoldsRows rows) → ∃ f, s.render d = .error (.builder f)) ∧
      ∀ j rows, recordsOf j = .ok rows ↔ j.HoldsRows rows := by
  intro s b
  have hrefused (h : s.fault ≠ none) : ∃ f, s.render d = .error (.builder f) := by
    obtain ⟨f, hf⟩ := Option.ne_none_iff_exists'.mp h
    exact ⟨f, Statement.render_of_fault (s := .insert s) hf d⟩
  refine ⟨fun sql h => (render_applyAll_ok_iff.mp h).2, ?_, ?_, fun j rows => recordsOf_ok_iff⟩
  · rintro ⟨batch, hbatch, row, hrow, hbad⟩
    refine hrefused fun hnone => ?_
    have ha : Aligned batch := (fault_eq_none_iff.mp hnone).2.2 batch hbatch
    rcases hbad with hempty | hother
    · exact ha.filled row hrow hempty
    · exact hother (ha.alike row hrow)
  · rintro ⟨j, hj, hnot⟩
    refine hrefused fun hnone => ?_
    obtain ⟨rows, hrows, -⟩ := (fault_eq_none_iff.mp hnone).2.1 (.valuesJson j) hj
    exact hnot rows hrows

/-- A row that was replaced is not written, and one whose columns are in another order is not taken. -/
theorem rectangular_of_replaced :
    let ana := [(" name ", .text "Ana"), ("age", .int 41)]
    let ben := [("name", .text "Ben"), ("age ", .null)]
    let cid := [("age", .int 3), ("name", .text "Cid")]
    let calls := [.values [("id", .int 7)], .rows [ana], .addRow ben, .onDuplicateKey " age = VALUES(age) "]
    let sql := "INSERT INTO \x60users\x60 (\x60name\x60, \x60age\x60) VALUES ('Ana', 41), ('Ben', NULL)" ++
      " ON DUPLICATE KEY UPDATE age = VALUES(age)"
    ((into " users ").applyAll calls).render (.offline .mysql) = .ok sql ∧
      (∃ groups, List.Forall₂ (Written (.offline .mysql) ["name", "age"]) [ana, ben] groups ∧
        sql = text (.offline .mysql) "users" ["name", "age"] groups (some "age = VALUES(age)")) ∧
      ∃ f, ((into " users ").applyAll (calls ++ [.addRow cid])).render (.offline .mysql) = .error (.builder f) := by
  intro ana ben cid calls sql
  have rendered : ((into " users ").applyAll calls).render (.offline .mysql) = .ok sql :=
    ok_of_toOption (by decide +kernel +revert)
  have current : (batchesOf calls).current = [ana, ben] := rfl
  have trimmed : Text.trim " users " = "users" := by decide
  have named : columnsOf [ana, ben] = ["name", "age"] := by decide
  have chosen : clauseOf calls = some "age = VALUES(age)" := by decide
  obtain ⟨written, -⟩ := rectangular " users " calls (.offline .mysql)
  obtain ⟨-, hrows⟩ := written sql rendered
  rw [current, trimmed, named, chosen] at hrows
  obtain ⟨-, refused, -⟩ := rectangular " users " (calls ++ [.addRow cid]) (.offline .mysql)
  have behind : cid ∈ (batchesOf (calls ++ [.addRow cid])).current :=
    List.mem_append_right [ana, ben] (List.mem_singleton_self cid)
  exact ⟨rendered, hrows, refused ⟨_, List.mem_cons_self, cid, behind, .inr (by decide)⟩⟩

end Insert

end SqlComposer
