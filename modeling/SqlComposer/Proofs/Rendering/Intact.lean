/-
  SqlComposer.Proofs.Rendering.Intact — which statements have a rendering.

  A statement is intact when it recorded no fault, left no group open, and has what its
  kind cannot do without: tables to select from, rows to insert, fields to set.
  `subselects` lists the SELECTs inside a statement, at any depth and in any place that
  can hold one, those inside of others included.

  Proved: a statement is rendered exactly when it and all SELECTs inside it are intact,
  whatever the dialect, and fails with a builder's fault otherwise
  (`Statement.rendered_iff_intact`). Each part of the statement family settles the same
  way (`settles`, by recursion on the family).
-/

import SqlComposer.Proofs.Composing.Made
import SqlComposer.Render

namespace SqlComposer

/-! ## The SELECTs inside -/

mutual

def Value.subselects : Value → List Select
  | .expr e => e.subselects
  | .select s => s :: s.subselects
  | _ => []

def Value.subselectsAll : List Value → List Select
  | [] => []
  | v :: rest => v.subselects ++ Value.subselectsAll rest

def Operand.subselects : Operand → List Select
  | .value v => v.subselects
  | _ => []

def Operand.subselectsAll : List Operand → List Select
  | [] => []
  | o :: rest => o.subselects ++ Operand.subselectsAll rest

def ExpressionBody.subselects : ExpressionBody → List Select
  | .literal _ => []
  | .call _ operands => Operand.subselectsAll operands

def Expression.subselects : Expression → List Select
  | ⟨body, _, _⟩ => body.subselects

def Predicate.subselects : Predicate → List Select
  | ⟨_, values⟩ => Value.subselectsAll values

def Condition.subselects : Condition → List Select
  | .leaf _ p => p.subselects
  | .group _ members => Condition.subselectsAll members

def Condition.subselectsAll : List Condition → List Select
  | [] => []
  | c :: rest => c.subselects ++ Condition.subselectsAll rest

def Condition.subselectsGroups : List (List Condition) → List Select
  | [] => []
  | group :: outer => Condition.subselectsAll group ++ Condition.subselectsGroups outer

/-- Groups that are still open count as well. -/
def WhereClause.subselects : WhereClause → List Select
  | ⟨conditions, opened, _⟩ => Condition.subselectsAll conditions ++ Condition.subselectsGroups opened

def TableSource.subselects : TableSource → List Select
  | .name _ => []
  | .select s => s :: s.subselects
  | .expr e => e.subselects

def TableRef.subselects : TableRef → List Select
  | ⟨source, _⟩ => source.subselects

def TableRef.subselectsAll : List TableRef → List Select
  | [] => []
  | t :: rest => t.subselects ++ TableRef.subselectsAll rest

def Join.subselects : Join → List Select
  | ⟨_, table, _⟩ => table.subselects

def Join.subselectsAll : List Join → List Select
  | [] => []
  | j :: rest => j.subselects ++ Join.subselectsAll rest

def JoinList.subselects : JoinList → List Select
  | ⟨_, joins, _⟩ => Join.subselectsAll joins

def FieldTerm.subselects : FieldTerm → List Select
  | .expr e => e.subselects
  | _ => []

def Field.subselects : Field → List Select
  | ⟨_, term⟩ => term.subselects

def Field.subselectsAll : List Field → List Select
  | [] => []
  | f :: rest => f.subselects ++ Field.subselectsAll rest

def Predicate.subselectsOption : Option Predicate → List Select
  | none => []
  | some p => p.subselects

def Select.subselects : Select → List Select
  | ⟨tables, fields, joins, conditions, _, having, _, _, _⟩ =>
    Field.subselectsAll fields ++ TableRef.subselectsAll tables ++ joins.subselects ++ conditions.subselects ++
      Predicate.subselectsOption having

end

def Insert.subselects (s : Insert) : List Select := s.rows.flatMap Value.subselectsAll

def Assignment.subselects : Assignment → List Select
  | .value v => v.subselects
  | .raw _ => []

def Update.subselects (s : Update) : List Select :=
  s.fields.flatMap (·.2.subselects) ++ s.table.toList.flatMap (·.subselects) ++ s.joins.subselects ++
    s.conditions.subselects

def Statement.subselects : Statement → List Select
  | .select s => s.subselects
  | .insert s => s.subselects
  | .update s => s.subselects
  | .delete s => s.conditions.subselects

/-! ## Intact statements -/

def Select.Intact (s : Select) : Prop := s.firstFault = none ∧ s.conditions.opened = [] ∧ s.tables ≠ []

def Statement.Intact : Statement → Prop
  | .select s => s.Intact
  | .insert s => s.fault = none ∧ s.rows ≠ []
  | .update s => s.firstFault = none ∧ s.conditions.opened = [] ∧ s.fields ≠ []
  | .delete s => s.firstFault = none ∧ s.conditions.opened = []

def AllIntact (ss : List Select) : Prop := ∀ s ∈ ss, s.Intact

@[simp] theorem allIntact_nil : AllIntact [] := fun _ h => nomatch h

@[simp] theorem allIntact_cons {s : Select} {ss : List Select} :
    AllIntact (s :: ss) ↔ s.Intact ∧ AllIntact ss := List.forall_mem_cons

@[simp] theorem allIntact_append {ss ts : List Select} : AllIntact (ss ++ ts) ↔ AllIntact ss ∧ AllIntact ts :=
  List.forall_mem_append

/-! ## Results that hang on a condition -/

/-- There is a result where `P` holds, and a builder's fault where it does not. -/
structure Settles {α : Type} (x : Except Error α) (P : Prop) : Prop where
  result : P → ∃ a, x = .ok a
  fault : ¬ P → ∃ f, x = .error (.builder f)

namespace Settles

variable {α β : Type} {P Q : Prop}

theorem result_iff {x : Except Error α} (h : Settles x P) : (∃ a, x = .ok a) ↔ P := by
  refine ⟨fun ⟨a, ha⟩ => Classical.byContradiction fun hP => ?_, h.result⟩
  obtain ⟨f, hf⟩ := h.fault hP
  rw [ha] at hf
  cases hf

theorem builder_of_error {x : Except Error α} {e : Error} (h : Settles x P) (he : x = .error e) :
    ∃ f, e = .builder f := by
  by_cases hP : P
  · obtain ⟨a, ha⟩ := h.result hP
    rw [he] at ha
    cases ha
  · obtain ⟨f, hf⟩ := h.fault hP
    rw [he] at hf
    exact ⟨f, Except.error.inj hf⟩

theorem ok (a : α) : Settles (.ok a) True := ⟨fun _ => ⟨a, rfl⟩, fun h => absurd trivial h⟩

theorem congr {x : Except Error α} (h : Settles x P) (hPQ : P ↔ Q) : Settles x Q :=
  ⟨fun hQ => h.result (hPQ.mpr hQ), fun hQ => h.fault fun hP => hQ (hPQ.mp hP)⟩

/-- The first condition that fails decides the fault. -/
theorem bind {x : Except Error α} {f : α → Except Error β} (hx : Settles x P) (hf : ∀ a, Settles (f a) Q) :
    Settles (x >>= f) (P ∧ Q) := by
  refine ⟨fun ⟨hP, hQ⟩ => ?_, fun h => ?_⟩
  · obtain ⟨a, rfl⟩ := hx.result hP
    exact (hf a).result hQ
  · by_cases hP : P
    · obtain ⟨a, rfl⟩ := hx.result hP
      exact (hf a).fault fun hQ => h ⟨hP, hQ⟩
    · obtain ⟨e, rfl⟩ := hx.fault hP
      exact ⟨e, rfl⟩

theorem map {x : Except Error α} (hx : Settles x P) (f : α → β) : Settles (do let a ← x; return f a) P :=
  (hx.bind fun a => ok (f a)).congr (and_iff_left trivial)

theorem guarded {c : Prop} [Decidable c] (f : BuildFault) {next : Unit → Except Error β} (hn : Settles (next ()) Q) :
    Settles (if c then Except.error (.builder f) >>= next else next ()) (¬ c ∧ Q) := by
  by_cases hc : c
  · rw [if_pos hc]
    exact ⟨fun h => absurd hc h.1, fun _ => ⟨f, rfl⟩⟩
  · rw [if_neg hc]
    exact hn.congr (and_iff_right hc).symm

theorem refuse (o : Option BuildFault) : Settles (refuse o) (o = none) := by
  cases o with
  | none => exact (ok ()).congr (iff_of_true trivial rfl)
  | some f => exact ⟨fun h => (Option.some_ne_none f h).elim, fun _ => ⟨f, rfl⟩⟩

theorem refuseOpen (opened : List (List Condition)) : Settles (refuseOpen opened) (opened = []) := by
  cases opened with
  | nil => exact (ok ()).congr (iff_of_true trivial rfl)
  | cons group outer => exact ⟨fun h => (List.cons_ne_nil group outer h).elim, fun _ => ⟨_, rfl⟩⟩

end Settles

/-! ## The statement family settles -/

theorem WhereClause.allIntact_iff {conditions : List Condition} {fault : Option BuildFault} :
    AllIntact (WhereClause.subselects ⟨conditions, [], fault⟩) ↔ AllIntact (Condition.subselectsAll conditions) := by
  simp [WhereClause.subselects, Condition.subselectsGroups]

theorem Select.firstFault_eq_none {s : Select} :
    s.firstFault = none ↔ s.fault = none ∧ s.conditions.fault = none ∧ s.joins.fault = none := by
  simp [Select.firstFault]

mutual

theorem Value.settles (d : Dialect) : ∀ v : Value, Settles (v.render d) (AllIntact v.subselects)
  | .null | .bool true | .bool false | .int _ | .uint _ | .float _ | .text _ =>
    (Settles.ok _).congr (iff_of_true trivial allIntact_nil)
  | .expr e => Expression.settles d none e
  | .select s => ((Select.settles d s).map _).congr allIntact_cons.symm

theorem Value.settles_all (d : Dialect) :
    ∀ vs : List Value, Settles (Value.renderAll d vs) (AllIntact (Value.subselectsAll vs))
  | [] => (Settles.ok _).congr (iff_of_true trivial allIntact_nil)
  | v :: rest =>
    ((Value.settles d v).bind fun _ => (Value.settles_all d rest).map _).congr allIntact_append.symm

theorem Operand.settles (d : Dialect) (qualifier : Option String) :
    ∀ o : Operand, Settles (o.render d qualifier) (AllIntact o.subselects)
  | .column _ | .raw _ => (Settles.ok _).congr (iff_of_true trivial allIntact_nil)
  | .value v => Value.settles d v

theorem Operand.settles_all (d : Dialect) (qualifier : Option String) :
    ∀ os : List Operand, Settles (Operand.renderAll d qualifier os) (AllIntact (Operand.subselectsAll os))
  | [] => (Settles.ok _).congr (iff_of_true trivial allIntact_nil)
  | o :: rest =>
    ((Operand.settles d qualifier o).bind fun _ => (Operand.settles_all d qualifier rest).map _).congr
      allIntact_append.symm

theorem ExpressionBody.settles (d : Dialect) (qualifier : Option String) :
    ∀ b : ExpressionBody, Settles (b.render d qualifier) (AllIntact b.subselects)
  | .literal _ => (Settles.ok _).congr (iff_of_true trivial allIntact_nil)
  | .call _ operands => (Operand.settles_all d qualifier operands).map _

theorem Expression.settles (d : Dialect) (byDefault : Option String) :
    ∀ e : Expression, Settles (e.render d byDefault) (AllIntact e.subselects)
  | ⟨body, _, qualifier⟩ => (ExpressionBody.settles d (qualifier <|> byDefault) body).map _

theorem Predicate.settles (d : Dialect) : ∀ p : Predicate, Settles (p.render d) (AllIntact p.subselects)
  | ⟨_, values⟩ => (Value.settles_all d values).map _

theorem Condition.settles (d : Dialect) (isFirst : Bool) :
    ∀ c : Condition, Settles (c.render d isFirst) (AllIntact c.subselects)
  | .leaf _ p => (Predicate.settles d p).map _
  | .group _ members => (Condition.settles_all d true members).map _

theorem Condition.settles_all (d : Dialect) (isFirst : Bool) :
    ∀ cs : List Condition, Settles (Condition.renderAll d isFirst cs) (AllIntact (Condition.subselectsAll cs))
  | [] => (Settles.ok _).congr (iff_of_true trivial allIntact_nil)
  | c :: rest =>
    ((Condition.settles d isFirst c).bind fun _ => (Condition.settles_all d false rest).map _).congr
      allIntact_append.symm

/-- A clause in which a group is still open is refused, whatever the group holds. -/
theorem WhereClause.settles (d : Dialect) :
    ∀ w : WhereClause, Settles (w.render d) (w.fault = none ∧ w.opened = [] ∧ AllIntact w.subselects)
  | ⟨conditions, opened, fault⟩ => by
    have rendered := (Settles.refuse fault).bind fun _ => (Settles.refuseOpen opened).bind fun _ =>
      (Condition.settles_all d true conditions).map
        fun sql => if conditions.isEmpty then none else some sql
    refine rendered.congr (and_congr_right fun _ => and_congr_right fun h => ?_)
    subst h
    exact WhereClause.allIntact_iff.symm

theorem TableSource.settles (d : Dialect) : ∀ t : TableSource, Settles (t.render d) (AllIntact t.subselects)
  | .name _ => (Settles.ok _).congr (iff_of_true trivial allIntact_nil)
  | .select s => ((Select.settles d s).map _).congr allIntact_cons.symm
  | .expr e => (Expression.settles d none e).map _

theorem TableRef.settles (d : Dialect) : ∀ t : TableRef, Settles (t.render d) (AllIntact t.subselects)
  | ⟨source, _⟩ => (TableSource.settles d source).map _

theorem TableRef.settles_all (d : Dialect) :
    ∀ ts : List TableRef, Settles (TableRef.renderAll d ts) (AllIntact (TableRef.subselectsAll ts))
  | [] => (Settles.ok _).congr (iff_of_true trivial allIntact_nil)
  | t :: rest =>
    ((TableRef.settles d t).bind fun _ => (TableRef.settles_all d rest).map _).congr allIntact_append.symm

theorem Join.settles (d : Dialect) : ∀ j : Join, Settles (j.render d) (AllIntact j.subselects)
  | ⟨_, table, _⟩ => (TableRef.settles d table).map _

theorem Join.settles_all (d : Dialect) :
    ∀ js : List Join, Settles (Join.renderAll d js) (AllIntact (Join.subselectsAll js))
  | [] => (Settles.ok _).congr (iff_of_true trivial allIntact_nil)
  | j :: rest => ((Join.settles d j).bind fun _ => (Join.settles_all d rest).map _).congr allIntact_append.symm

theorem JoinList.settles (d : Dialect) :
    ∀ l : JoinList, Settles (l.render d) (l.fault = none ∧ AllIntact l.subselects)
  | ⟨_, joins, fault⟩ => (Settles.refuse fault).bind fun _ => (Join.settles_all d joins).map _

theorem FieldTerm.settles (d : Dialect) (sc : Scope) (qualifier : Option String) :
    ∀ t : FieldTerm, Settles (t.render d sc qualifier) (AllIntact t.subselects)
  | .raw _ | .column _ _ => (Settles.ok _).congr (iff_of_true trivial allIntact_nil)
  | .expr e => Expression.settles d qualifier e

theorem Field.settles (d : Dialect) (sc : Scope) : ∀ f : Field, Settles (f.render d sc) (AllIntact f.subselects)
  | ⟨qualifier, term⟩ => FieldTerm.settles d sc (sc.qualifierOf ⟨qualifier, term⟩) term

theorem Field.settles_all (d : Dialect) (sc : Scope) :
    ∀ fs : List Field, Settles (Field.renderAll d sc fs) (AllIntact (Field.subselectsAll fs))
  | [] => (Settles.ok _).congr (iff_of_true trivial allIntact_nil)
  | f :: rest =>
    ((Field.settles d sc f).bind fun _ => (Field.settles_all d sc rest).map _).congr allIntact_append.symm

theorem Predicate.settles_option (d : Dialect) :
    ∀ p : Option Predicate, Settles (Predicate.renderOption d p) (AllIntact (Predicate.subselectsOption p))
  | none => (Settles.ok _).congr (iff_of_true trivial allIntact_nil)
  | some p => (Predicate.settles d p).map _

theorem Select.settles (d : Dialect) : ∀ s : Select, Settles (s.render d) (s.Intact ∧ AllIntact s.subselects)
  | ⟨tables, fields, joins, conditions, groupBy, having, orderBy, limit, fault⟩ => by
    have settled : Settles (Select.render d ⟨tables, fields, joins, conditions, groupBy, having, orderBy, limit, fault⟩)
        ((fault <|> conditions.fault <|> joins.fault) = none ∧ ¬ tables.isEmpty ∧
          AllIntact (Field.subselectsAll fields) ∧ AllIntact (TableRef.subselectsAll tables) ∧
          (joins.fault = none ∧ AllIntact joins.subselects) ∧
          (conditions.fault = none ∧ conditions.opened = [] ∧ AllIntact conditions.subselects) ∧
          AllIntact (Predicate.subselectsOption having)) := by
      rw [Select.render]
      refine (Settles.refuse _).bind fun _ => Settles.guarded _ ?_
      refine (Field.settles_all d _ fields).bind fun _ => ?_
      refine (TableRef.settles_all d tables).bind fun _ => ?_
      refine (JoinList.settles d joins).bind fun _ => ?_
      refine (WhereClause.settles d conditions).bind fun _ => ?_
      exact (Predicate.settles_option d having).map _
    -- The clause and the joins are asked for their faults twice, the clause for open groups only when it is rendered.
    refine settled.congr ?_
    simp only [Select.Intact, Select.subselects, allIntact_append, List.isEmpty_iff]
    constructor
    · rintro ⟨hf, ht, hfields, htables, ⟨-, hjoins⟩, ⟨-, ho, hconditions⟩, hhaving⟩
      exact ⟨⟨hf, ho, ht⟩, ⟨⟨⟨hfields, htables⟩, hjoins⟩, hconditions⟩, hhaving⟩
    · rintro ⟨⟨hf, ho, ht⟩, ⟨⟨⟨hfields, htables⟩, hjoins⟩, hconditions⟩, hhaving⟩
      obtain ⟨-, hc, hj⟩ := Select.firstFault_eq_none.mp hf
      exact ⟨hf, ht, hfields, htables, ⟨hj, hjoins⟩, ⟨hc, ho, hconditions⟩, hhaving⟩

end

/-! ## Statements settle -/

variable (d : Dialect)

theorem Value.settles_rows :
    ∀ rows : List (List Value), Settles (Value.renderRows d rows) (AllIntact (rows.flatMap Value.subselectsAll))
  | [] => (Settles.ok _).congr (iff_of_true trivial allIntact_nil)
  | row :: rest => by
    rw [List.flatMap_cons]
    refine Settles.congr ?_ allIntact_append.symm
    exact (Value.settles_all d row).bind fun _ => (Value.settles_rows rest).map _

theorem Insert.settles (s : Insert) :
    Settles (s.render d) ((s.fault = none ∧ s.rows ≠ []) ∧ AllIntact s.subselects) := by
  have settled : Settles (s.render d) (s.fault = none ∧ ¬ s.rows.isEmpty ∧ AllIntact s.subselects) := by
    unfold Insert.render
    refine (Settles.refuse _).bind fun _ => Settles.guarded _ ?_
    exact (Value.settles_rows d s.rows).map _
  refine settled.congr ?_
  rw [List.isEmpty_iff, and_assoc]

theorem Assignment.settles (a : Assignment) : Settles (a.render d) (AllIntact a.subselects) := by
  cases a with
  | value v => exact v.settles d
  | raw sql => exact (Settles.ok _).congr (iff_of_true trivial allIntact_nil)

theorem Assignment.settles_all :
    ∀ fields : List (String × Assignment),
      Settles (Assignment.renderAll d fields) (AllIntact (fields.flatMap (·.2.subselects)))
  | [] => (Settles.ok _).congr (iff_of_true trivial allIntact_nil)
  | (_, a) :: rest => by
    rw [List.flatMap_cons]
    refine Settles.congr ?_ allIntact_append.symm
    exact (a.settles d).bind fun _ => (Assignment.settles_all rest).map _

theorem Update.firstFault_eq_none {s : Update} :
    s.firstFault = none ↔ s.fault = none ∧ s.conditions.fault = none ∧ s.joins.fault = none := by
  simp [Update.firstFault]

theorem Update.settles (s : Update) (hs : s.table = none → s.fault ≠ none) :
    Settles (s.render d)
      ((s.firstFault = none ∧ s.conditions.opened = [] ∧ s.fields ≠ []) ∧ AllIntact s.subselects) := by
  have hfault := s.firstFault_eq_none
  cases ht : s.table with
  | none =>
    -- The fault of reading the table is reported before anything asks for the table.
    have refused : s.firstFault ≠ none := fun h => hs ht (hfault.mp h).1
    obtain ⟨f, hf⟩ := (Settles.refuse s.firstFault).fault refused
    have hrender : s.render d = .error (.builder f) := by
      unfold Update.render
      rw [hf]
      rfl
    exact ⟨fun h => absurd h.1.1 refused, fun _ => ⟨f, hrender⟩⟩
  | some table =>
    have settled : Settles (s.render d)
        (s.firstFault = none ∧ ¬ s.fields.isEmpty ∧ AllIntact (s.fields.flatMap (·.2.subselects)) ∧
          AllIntact table.subselects ∧ (s.joins.fault = none ∧ AllIntact s.joins.subselects) ∧
          s.conditions.fault = none ∧ s.conditions.opened = [] ∧ AllIntact s.conditions.subselects) := by
      unfold Update.render
      rw [ht]
      refine (Settles.refuse _).bind fun _ => Settles.guarded _ ?_
      refine (Assignment.settles_all d s.fields).bind fun _ => ?_
      refine (table.settles d).bind fun _ => ?_
      refine (s.joins.settles d).bind fun _ => ?_
      exact (s.conditions.settles d).map _
    refine settled.congr ?_
    simp only [Update.subselects, ht, Option.toList_some, List.flatMap_cons, List.flatMap_nil, List.append_nil,
      allIntact_append, List.isEmpty_iff]
    constructor
    · rintro ⟨hf, hfields, hsets, htable, ⟨-, hjoins⟩, -, ho, hconditions⟩
      exact ⟨⟨hf, ho, hfields⟩, ⟨⟨hsets, htable⟩, hjoins⟩, hconditions⟩
    · rintro ⟨⟨hf, ho, hfields⟩, ⟨⟨hsets, htable⟩, hjoins⟩, hconditions⟩
      obtain ⟨-, hc, hj⟩ := hfault.mp hf
      exact ⟨hf, hfields, hsets, htable, ⟨hj, hjoins⟩, hc, ho, hconditions⟩

theorem Delete.settles (s : Delete) (hs : s.truncates = true → s.conditions = .empty) :
    Settles (s.render d) ((s.firstFault = none ∧ s.conditions.opened = []) ∧ AllIntact s.conditions.subselects) := by
  unfold Delete.render
  cases ht : s.truncates with
  | true =>
    have settled : Settles (do refuse s.firstFault; return "TRUNCATE " ++ d.quoteTable s.table) (s.firstFault = none) :=
      (Settles.refuse _).map _
    refine settled.congr ⟨fun hf => ?_, fun h => h.1.1⟩
    rw [hs ht]
    exact ⟨⟨hf, rfl⟩, allIntact_nil⟩
  | false =>
    have settled : Settles
        (do refuse s.firstFault
            let whereSql ← s.conditions.render d
            return "DELETE FROM " ++ d.quoteTable s.table ++ clause "WHERE" whereSql.toList)
        (s.firstFault = none ∧ s.conditions.fault = none ∧ s.conditions.opened = [] ∧
          AllIntact s.conditions.subselects) :=
      (Settles.refuse _).bind fun _ => (s.conditions.settles d).map _
    refine settled.congr ?_
    constructor
    · rintro ⟨hf, -, ho, hconditions⟩
      exact ⟨⟨hf, ho⟩, hconditions⟩
    · rintro ⟨⟨hf, ho⟩, hconditions⟩
      have hc : s.fault = none ∧ s.conditions.fault = none := by simpa [Delete.firstFault] using hf
      exact ⟨hf, hc.2, ho, hconditions⟩

/-- A made statement is rendered where it is intact and has a fault where it is not. -/
theorem Statement.settles {s : Statement} (h : s.Made) :
    Settles (s.render d) (s.Intact ∧ AllIntact s.subselects) := by
  have hr := h.regular
  cases s with
  | select s => exact s.settles d
  | insert s => exact s.settles d
  | update s => exact s.settles d hr
  | delete s => exact s.settles d hr

/-! ## Rendering -/

/-- A statement has SQL in a dialect exactly when it and all the SELECTs inside it are intact, which no dialect
has a say in; without SQL it has a builder's fault. -/
theorem Statement.rendered_iff_intact (s : Statement) (h : s.Made) :
    (∀ d : Dialect, (∃ sql, s.render d = .ok sql) ↔ s.Intact ∧ ∀ t ∈ s.subselects, t.Intact) ∧
    ∀ (d : Dialect) (e : Error), s.render d = .error e → ∃ f, e = .builder f := by
  refine ⟨fun d => (settles d h).result_iff, fun d e he => ?_⟩
  exact (settles d h).builder_of_error he

/-- An UPDATE without faults of its own is refused for the SELECT, without a table, that it takes a value from. -/
theorem Statement.rendered_iff_intact_of_update :
    let s := (start .update "users u").apply (.update (.set "best" (.select .empty)))
    s.Made ∧
    ((∀ d : Dialect, (∃ sql, s.render d = .ok sql) ↔ s.Intact ∧ ∀ t ∈ s.subselects, t.Intact) ∧
      ∀ (d : Dialect) (e : Error), s.render d = .error e → ∃ f, e = .builder f) := by
  intro s
  have made : s.Made := .called _ (.begun .update "users u")
  exact ⟨made, s.rendered_iff_intact made⟩

end SqlComposer
