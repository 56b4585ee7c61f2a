/-
  SqlComposer.Proofs.Rendering.Writing — rendering is writing pieces.

  Proved: each part of a statement is rendered by writing its pieces one behind the
  other, and fails exactly where it has no pieces, with the same fault (`render_eq`, by
  recursion on the statement family; `Statement.render_eq` for whole statements).
-/

import SqlComposer.Proofs.Rendering.Pieces

namespace SqlComposer

/-! ## One result behind another -/

theorem return_map {ε α β γ δ : Type} {f : α → β} {g : β → γ} {h : α → δ} {k : δ → γ} (hk : ∀ a, g (f a) = k (h a))
    (x : Except ε α) :
    (do let b ← x.map f; return g b) = (do let a ← x; return h a : Except ε δ).map k := by
  cases x with
  | error e => rfl
  | ok a => exact congrArg Except.ok (hk a)

theorem return_map_cons {ε α β : Type} (f : α → β) (x : Except ε α) (xs : Except ε (List α)) :
    (do let b ← x.map f; let bs ← xs.map (List.map f); return b :: bs) =
      (do let a ← x; let as ← xs; return a :: as : Except ε (List α)).map (List.map f) := by
  cases x with
  | error e => rfl
  | ok a => cases xs <;> rfl

/-! ## Joins -/

theorem Join.write_ne_empty (d : Dialect) (j : Join) (ps : Pieces) (h : j.pieces = .ok ps) : ps.write d ≠ "" := by
  obtain ⟨type, table, condition⟩ := j
  rw [Join.pieces] at h
  cases ht : table.pieces with
  | error e => rw [ht] at h; cases h
  | ok qs =>
    rw [ht] at h
    cases h
    intro he
    have hk := congrArg String.toList he
    simp only [Pieces.write_cons, List.cons_append, Piece.write, String.toList_append, String.toList_empty,
      List.append_eq_nil_iff] at hk
    cases type <;> exact absurd hk.1 (by decide)

theorem Join.writeAll_ne_empty (d : Dialect) {js : List Join} {rows : List Pieces} (h : Join.piecesAll js = .ok rows) :
    ∀ ps ∈ rows, ps.write d ≠ "" := by
  induction js generalizing rows with
  | nil => cases h; simp
  | cons j rest ih =>
    rw [Join.piecesAll] at h
    cases hj : j.pieces with
    | error e => rw [hj] at h; cases h
    | ok ps =>
      cases hr : Join.piecesAll rest with
      | error e => rw [hj, hr] at h; cases h
      | ok qs =>
        rw [hj, hr] at h
        cases h
        intro p hp
        rcases List.mem_cons.mp hp with rfl | hp
        · exact j.write_ne_empty d p hj
        · exact ih hr p hp

theorem JoinList.write_ne_empty (d : Dialect) {l : JoinList} {rows : List Pieces} (h : l.pieces = .ok rows) :
    ∀ ps ∈ rows, ps.write d ≠ "" := by
  obtain ⟨kind, joins, fault⟩ := l
  rw [JoinList.pieces] at h
  cases hf : refuse fault with
  | error e => rw [hf] at h; cases h
  | ok _ => rw [hf] at h; exact Join.writeAll_ne_empty d h

theorem Pieces.write_joined_cons (d : Dialect) (ps : Pieces) (rows : List Pieces) :
    write d (joined (ps :: rows)) = " " ++ Text.join " " ((ps :: rows).map (write d)) := by
  induction rows generalizing ps with
  | nil => simp [joined, Text.join, Piece.write]
  | cons qs rest ih =>
    have hsplit : joined (ps :: qs :: rest) = .sql " " :: ps ++ joined (qs :: rest) := by simp [joined]
    rw [hsplit, write_append, ih qs]
    simp [Text.join, Piece.write, String.append_assoc]

/-- No join is written as nothing, so there is nothing to write only where there are no joins. -/
theorem Pieces.write_joined (d : Dialect) (rows : List Pieces) (h : ∀ ps ∈ rows, ps.write d ≠ "") :
    write d (joined rows) =
      if (Text.join " " (rows.map (write d))).isEmpty then "" else " " ++ Text.join " " (rows.map (write d)) := by
  cases rows with
  | nil => simp [joined, Text.join]
  | cons ps rest =>
    have hne : Text.join " " ((ps :: rest).map (write d)) ≠ "" := by
      have hps := h ps (List.mem_cons_self ..)
      cases rest <;> simp [Text.join, hps]
    rw [write_joined_cons, String.isEmpty_eq_false_iff.mpr hne]
    rfl

/-! ## Rendering writes the pieces -/

mutual

theorem Value.render_eq (d : Dialect) : ∀ v : Value, v.render d = v.pieces.map (Pieces.write d)
  | .null => by simp [Value.render, Value.pieces, Except.map, Piece.write]
  | .bool true => by simp [Value.render, Value.pieces, Except.map, Piece.write]
  | .bool false => by simp [Value.render, Value.pieces, Except.map, Piece.write]
  | .int _ => by simp [Value.render, Value.pieces, Except.map, Piece.write]
  | .uint _ => by simp [Value.render, Value.pieces, Except.map, Piece.write]
  | .float _ => by simp [Value.render, Value.pieces, Except.map, Piece.write]
  | .text _ => by simp [Value.render, Value.pieces, Except.map, Piece.write]
  | .expr e => by rw [Value.render, Value.pieces, Expression.render_eq d none e]
  | .select s => by
    rw [Value.render, Value.pieces, Select.render_eq d s]
    exact return_map (fun ps => (Pieces.write_enclosed d ps).symm) _

theorem Value.renderAll_eq (d : Dialect) :
    ∀ vs : List Value, Value.renderAll d vs = (Value.piecesAll vs).map (List.map (Pieces.write d))
  | [] => rfl
  | v :: rest => by
    rw [Value.renderAll, Value.piecesAll, Value.render_eq d v, Value.renderAll_eq d rest]
    exact return_map_cons _ _ _

theorem Operand.render_eq (d : Dialect) (qualifier : Option String) :
    ∀ o : Operand, o.render d qualifier = (o.pieces qualifier).map (Pieces.write d)
  | .column name => congrArg Except.ok (Operand.write_columnPieces d qualifier name).symm
  | .value v => by rw [Operand.render, Operand.pieces, Value.render_eq d v]
  | .raw sql => by simp [Operand.render, Operand.pieces, Except.map, Piece.write]

theorem Operand.renderAll_eq (d : Dialect) (qualifier : Option String) :
    ∀ os : List Operand,
      Operand.renderAll d qualifier os = (Operand.piecesAll qualifier os).map (List.map (Pieces.write d))
  | [] => rfl
  | o :: rest => by
    rw [Operand.renderAll, Operand.piecesAll, Operand.render_eq d qualifier o, Operand.renderAll_eq d qualifier rest]
    exact return_map_cons _ _ _

theorem ExpressionBody.render_eq (d : Dialect) (qualifier : Option String) :
    ∀ b : ExpressionBody, b.render d qualifier = (b.pieces qualifier).map (Pieces.write d)
  | .literal sql => by simp [ExpressionBody.render, ExpressionBody.pieces, Except.map, Piece.write]
  | .call function operands => by
    rw [ExpressionBody.render, ExpressionBody.pieces, Operand.renderAll_eq d qualifier operands]
    exact return_map (fun ps => by simp [Piece.write, String.append_assoc]) _

theorem Expression.render_eq (d : Dialect) (byDefault : Option String) :
    ∀ e : Expression, e.render d byDefault = (e.pieces byDefault).map (Pieces.write d)
  | ⟨body, label, qualifier⟩ => by
    rw [Expression.render, Expression.pieces, ExpressionBody.render_eq d (qualifier <|> byDefault) body]
    exact return_map (fun ps => (Pieces.write_labelled d ps label).symm) _

theorem Predicate.render_eq (d : Dialect) : ∀ p : Predicate, p.render d = p.pieces.map (Pieces.write d)
  | ⟨template, values⟩ => by
    rw [Predicate.render, Predicate.pieces, Value.renderAll_eq d values]
    refine return_map (fun rows => ?_) _
    exact (Pieces.write_fill d template.toList rows).symm

theorem Condition.render_eq (d : Dialect) (isFirst : Bool) :
    ∀ c : Condition, c.render d isFirst = (c.pieces isFirst).map (Pieces.write d)
  | .leaf conjunction p => by
    rw [Condition.render, Condition.pieces, Predicate.render_eq d p]
    exact return_map (fun ps => by simp [Piece.write, String.append_assoc]) _
  | .group conjunction members => by
    rw [Condition.render, Condition.pieces, Condition.renderAll_eq d true members]
    exact return_map (fun ps => by simp [Piece.write, String.append_assoc]) _

theorem Condition.renderAll_eq (d : Dialect) (isFirst : Bool) :
    ∀ cs : List Condition, Condition.renderAll d isFirst cs = (Condition.piecesAll isFirst cs).map (Pieces.write d)
  | [] => by simp [Condition.renderAll, Condition.piecesAll, Except.map]
  | c :: rest => by
    rw [Condition.renderAll, Condition.piecesAll, Condition.render_eq d isFirst c, Condition.renderAll_eq d false rest]
    cases c.pieces isFirst with
    | error e => rfl
    | ok ps =>
      cases Condition.piecesAll false rest with
      | error e => rfl
      | ok qs => exact congrArg Except.ok (Pieces.write_append d ps qs).symm

theorem WhereClause.render_eq (d : Dialect) :
    ∀ w : WhereClause, w.render d = w.pieces.map (Option.map (Pieces.write d))
  | ⟨conditions, opened, fault⟩ => by
    rw [WhereClause.render, WhereClause.pieces, Condition.renderAll_eq d true conditions]
    cases refuse fault with
    | error e => rfl
    | ok _ =>
      cases refuseOpen opened with
      | error e => rfl
      | ok _ =>
        cases Condition.piecesAll true conditions with
        | error e => rfl
        | ok ps => cases conditions <;> rfl

theorem TableSource.render_eq (d : Dialect) : ∀ t : TableSource, t.render d = t.pieces.map (Pieces.write d)
  | .name name => by simp [TableSource.render, TableSource.pieces, Except.map, Piece.write]
  | .select s => by
    rw [TableSource.render, TableSource.pieces, Select.render_eq d s]
    exact return_map (fun ps => (Pieces.write_enclosed d ps).symm) _
  | .expr e => by
    rw [TableSource.render, TableSource.pieces, Expression.render_eq d none e]
    exact return_map (fun ps => (Pieces.write_enclosed d ps).symm) _

theorem TableRef.render_eq (d : Dialect) : ∀ t : TableRef, t.render d = t.pieces.map (Pieces.write d)
  | ⟨source, aliasName⟩ => by
    rw [TableRef.render, TableRef.pieces, TableSource.render_eq d source]
    exact return_map (fun ps => (Pieces.write_labelled d ps aliasName).symm) _

theorem TableRef.renderAll_eq (d : Dialect) :
    ∀ ts : List TableRef, TableRef.renderAll d ts = (TableRef.piecesAll ts).map (List.map (Pieces.write d))
  | [] => rfl
  | t :: rest => by
    rw [TableRef.renderAll, TableRef.piecesAll, TableRef.render_eq d t, TableRef.renderAll_eq d rest]
    exact return_map_cons _ _ _

theorem Join.render_eq (d : Dialect) : ∀ j : Join, j.render d = j.pieces.map (Pieces.write d)
  | ⟨type, table, condition⟩ => by
    rw [Join.render, Join.pieces, TableRef.render_eq d table]
    cases table.pieces with
    | error e => rfl
    | ok ps =>
      refine congrArg Except.ok ?_
      split <;> simp [Piece.write, String.append_assoc]

theorem Join.renderAll_eq (d : Dialect) :
    ∀ js : List Join, Join.renderAll d js = (Join.piecesAll js).map (List.map (Pieces.write d))
  | [] => rfl
  | j :: rest => by
    rw [Join.renderAll, Join.piecesAll, Join.render_eq d j, Join.renderAll_eq d rest]
    exact return_map_cons _ _ _

theorem JoinList.render_eq (d : Dialect) :
    ∀ l : JoinList, l.render d = l.pieces.map fun rows => Text.join " " (rows.map (Pieces.write d))
  | ⟨_, joins, fault⟩ => by
    rw [JoinList.render, JoinList.pieces, Join.renderAll_eq d joins]
    cases refuse fault with
    | error e => rfl
    | ok _ => cases Join.piecesAll joins <;> rfl

theorem FieldTerm.render_eq (d : Dialect) (sc : Scope) (qualifier : Option String) :
    ∀ t : FieldTerm, t.render d sc qualifier = (t.pieces sc qualifier).map (Pieces.write d)
  | .raw sql => by simp [FieldTerm.render, FieldTerm.pieces, Except.map, Piece.write]
  | .expr e => by rw [FieldTerm.render, FieldTerm.pieces, Expression.render_eq d qualifier e]
  | .column name label => by simp [FieldTerm.render, FieldTerm.pieces, Except.map, sc.write_columnPieces]

theorem Field.render_eq (d : Dialect) (sc : Scope) :
    ∀ f : Field, f.render d sc = (f.pieces sc).map (Pieces.write d)
  | ⟨qualifier, term⟩ => FieldTerm.render_eq d sc (sc.qualifierOf ⟨qualifier, term⟩) term

theorem Field.renderAll_eq (d : Dialect) (sc : Scope) :
    ∀ fs : List Field, Field.renderAll d sc fs = (Field.piecesAll sc fs).map (List.map (Pieces.write d))
  | [] => rfl
  | f :: rest => by
    rw [Field.renderAll, Field.piecesAll, Field.render_eq d sc f, Field.renderAll_eq d sc rest]
    exact return_map_cons _ _ _

theorem Predicate.renderOption_eq (d : Dialect) :
    ∀ p : Option Predicate, Predicate.renderOption d p = (Predicate.piecesOption p).map (Option.map (Pieces.write d))
  | none => rfl
  | some p => by
    rw [Predicate.renderOption, Predicate.piecesOption, Predicate.render_eq d p]
    cases p.pieces <;> rfl

theorem Select.render_eq (d : Dialect) : ∀ s : Select, s.render d = s.pieces.map (Pieces.write d)
  | ⟨tables, fields, joins, conditions, groupBy, having, orderBy, limit, fault⟩ => by
    rw [Select.render, Select.pieces, TableRef.renderAll_eq d tables, JoinList.render_eq d joins,
      WhereClause.render_eq d conditions, Predicate.renderOption_eq d having]
    dsimp only
    rw [Field.renderAll_eq d _ fields]
    cases refuse (fault <|> conditions.fault <|> joins.fault) with
    | error e => rfl
    | ok _ =>
    cases tables with
    | nil => rfl
    | cons t ts =>
    cases Field.piecesAll _ fields with
    | error e => rfl
    | ok fieldRows =>
    cases TableRef.piecesAll (t :: ts) with
    | error e => rfl
    | ok tableRows =>
    cases hj : joins.pieces with
    | error e => rfl
    | ok joinRows =>
    cases conditions.pieces with
    | error e => rfl
    | ok wherePieces =>
    cases Predicate.piecesOption having with
    | error e => rfl
    | ok havingPieces =>
    refine congrArg Except.ok ?_
    dsimp only
    generalize Select.scope ⟨t :: ts, fields, joins, conditions, groupBy, having, orderBy, limit, fault⟩ = sc
    cases hl : sc.leading <;> cases fields <;>
      simp only [Pieces.write_append, Pieces.write_cons, Pieces.write_nil, Pieces.write_join, Pieces.write_clause,
        Pieces.write_joined d joinRows (joins.write_ne_empty d hj), Pieces.write_toList, Piece.write, hl,
        Scope.write_groupPieces_map, Scope.write_orderPieces_map, Scope.write_everything, List.isEmpty_nil,
        List.isEmpty_cons, if_true, if_false, Bool.false_eq_true, String.append_assoc, String.append_empty]

end

/-! ## Statements that change tables -/

variable (d : Dialect)

theorem Value.renderRows_eq :
    ∀ rows : List (List Value), Value.renderRows d rows = (Value.pieceRows rows).map (List.map (Pieces.write d))
  | [] => rfl
  | row :: rest => by
    rw [Value.renderRows, Value.pieceRows, Value.renderAll_eq d row, Value.renderRows_eq rest]
    cases Value.piecesAll row with
    | error e => rfl
    | ok ps =>
      refine return_map (fun rows => ?_) _
      simp

theorem Insert.render_eq (s : Insert) : s.render d = s.pieces.map (Pieces.write d) := by
  rw [Insert.render, Insert.pieces, Value.renderRows_eq d s.rows]
  cases refuse s.fault with
  | error e => rfl
  | ok _ =>
    cases hr : s.rows.isEmpty with
    | true => rfl
    | false =>
      refine return_map (fun groups => ?_) _
      have hc : (s.columns.map fun c => Pieces.write d [.ident (Ident.parse c)]) = s.columns.map d.quoteIdentifier := by
        simp [Piece.write, Dialect.quoteIdent, Dialect.quoteIdentifier, Engine.quoteIdentifier]
      cases s.onDuplicate <;> simp [Piece.write, String.append_assoc, List.map_map, Function.comp_def, ← hc]

theorem Assignment.render_eq (a : Assignment) : a.render d = a.pieces.map (Pieces.write d) := by
  cases a with
  | value v => exact v.render_eq d
  | raw sql => simp [Assignment.render, Assignment.pieces, Except.map, Piece.write]

theorem Assignment.renderAll_eq :
    ∀ fields : List (String × Assignment),
      Assignment.renderAll d fields = (Assignment.piecesAll fields).map (List.map (Pieces.write d))
  | [] => rfl
  | (column, a) :: rest => by
    rw [Assignment.renderAll, Assignment.piecesAll, a.render_eq d, Assignment.renderAll_eq rest]
    cases a.pieces with
    | error e => rfl
    | ok ps =>
      refine return_map (fun rows => ?_) _
      simp [Piece.write, Dialect.quoteIdent, Dialect.quoteIdentifier, Engine.quoteIdentifier, String.append_assoc]

theorem Update.render_eq (s : Update) : s.render d = s.pieces.map (Pieces.write d) := by
  rw [Update.render, Update.pieces, Assignment.renderAll_eq d s.fields, s.joins.render_eq d, s.conditions.render_eq d]
  cases refuse s.firstFault with
  | error e => rfl
  | ok _ =>
  cases s.table with
  | none => rfl
  | some table =>
  dsimp only
  rw [table.render_eq d]
  cases s.fields.isEmpty with
  | true => rfl
  | false =>
  cases Assignment.piecesAll s.fields with
  | error e => rfl
  | ok sets =>
  cases table.pieces with
  | error e => rfl
  | ok tablePieces =>
  cases hj : s.joins.pieces with
  | error e => rfl
  | ok joinRows =>
  refine return_map (fun wherePieces => ?_) _
  simp [Pieces.write_joined d joinRows (s.joins.write_ne_empty d hj), Pieces.write_toList, Piece.write,
    String.append_assoc]

theorem Delete.render_eq (s : Delete) : s.render d = s.pieces.map (Pieces.write d) := by
  rw [Delete.render, Delete.pieces, s.conditions.render_eq d]
  cases refuse s.firstFault with
  | error e => rfl
  | ok _ =>
    cases s.truncates with
    | true => exact congrArg Except.ok (by simp [Piece.write])
    | false =>
      refine return_map (fun wherePieces => ?_) _
      simp [Pieces.write_toList, Piece.write, String.append_assoc]

/-- A statement is rendered by writing its pieces; the dialect has no say in what they are. -/
theorem Statement.render_eq (s : Statement) : s.render d = s.pieces.map (Pieces.write d) := by
  cases s with
  | select s => exact s.render_eq d
  | insert s => exact s.render_eq d
  | update s => exact s.render_eq d
  | delete s => exact s.render_eq d

end SqlComposer
