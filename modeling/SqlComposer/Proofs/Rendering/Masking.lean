/-
  SqlComposer.Proofs.Rendering.Masking — what is left of a statement without the contents
  of its text values.

  `mask` empties every text value, at any depth, and leaves all else as it is: two
  statements with the same mask are equal but for the contents of their text values.

  Proved:
  (1) a mask is a rewriting (`Statement.mask_eq_rewrite`), so the pieces of a masked
      statement are the masked pieces (`Statement.pieces_mask`);
  (2) statements with the same mask fail with the same fault, or are rendered around the
      same segments of SQL, each with the literals of its own texts between them
      (`render_around_texts`).
-/

import SqlComposer.Proofs.Rendering.Rewriting
import SqlComposer.Proofs.Rendering.Texts

namespace SqlComposer

/-! ## Statements without their texts -/

mutual

def Value.mask : Value → Value
  | .text _ => .text ""
  | .expr e => .expr e.mask
  | .select s => .select s.mask
  | v => v

def Value.maskAll : List Value → List Value
  | [] => []
  | v :: rest => v.mask :: Value.maskAll rest

def Operand.mask : Operand → Operand
  | .value v => .value v.mask
  | o => o

def Operand.maskAll : List Operand → List Operand
  | [] => []
  | o :: rest => o.mask :: Operand.maskAll rest

def ExpressionBody.mask : ExpressionBody → ExpressionBody
  | .literal sql => .literal sql
  | .call function operands => .call function (Operand.maskAll operands)

def Expression.mask : Expression → Expression
  | ⟨body, label, qualifier⟩ => ⟨body.mask, label, qualifier⟩

def Predicate.mask : Predicate → Predicate
  | ⟨template, values⟩ => ⟨template, Value.maskAll values⟩

def Condition.mask : Condition → Condition
  | .leaf conjunction p => .leaf conjunction p.mask
  | .group conjunction members => .group conjunction (Condition.maskAll members)

def Condition.maskAll : List Condition → List Condition
  | [] => []
  | c :: rest => c.mask :: Condition.maskAll rest

def Condition.maskGroups : List (List Condition) → List (List Condition)
  | [] => []
  | group :: outer => Condition.maskAll group :: Condition.maskGroups outer

def WhereClause.mask : WhereClause → WhereClause
  | ⟨conditions, opened, fault⟩ => ⟨Condition.maskAll conditions, Condition.maskGroups opened, fault⟩

def TableSource.mask : TableSource → TableSource
  | .name name => .name name
  | .select s => .select s.mask
  | .expr e => .expr e.mask

def TableRef.mask : TableRef → TableRef
  | ⟨source, aliasName⟩ => ⟨source.mask, aliasName⟩

def TableRef.maskAll : List TableRef → List TableRef
  | [] => []
  | t :: rest => t.mask :: TableRef.maskAll rest

def Join.mask : Join → Join
  | ⟨type, table, condition⟩ => ⟨type, table.mask, condition⟩

def Join.maskAll : List Join → List Join
  | [] => []
  | j :: rest => j.mask :: Join.maskAll rest

def JoinList.mask : JoinList → JoinList
  | ⟨kind, joins, fault⟩ => ⟨kind, Join.maskAll joins, fault⟩

def FieldTerm.mask : FieldTerm → FieldTerm
  | .expr e => .expr e.mask
  | t => t

def Field.mask : Field → Field
  | ⟨qualifier, term⟩ => ⟨qualifier, term.mask⟩

def Field.maskAll : List Field → List Field
  | [] => []
  | f :: rest => f.mask :: Field.maskAll rest

def Predicate.maskOption : Option Predicate → Option Predicate
  | none => none
  | some p => some p.mask

def Select.mask : Select → Select
  | ⟨tables, fields, joins, conditions, groupBy, having, orderBy, limit, fault⟩ =>
    ⟨TableRef.maskAll tables, Field.maskAll fields, joins.mask, conditions.mask, groupBy,
      Predicate.maskOption having, orderBy, limit, fault⟩

end

def Insert.mask (s : Insert) : Insert := { s with rows := s.rows.map Value.maskAll }

def Assignment.mask : Assignment → Assignment
  | .value v => .value v.mask
  | .raw sql => .raw sql

def Update.mask (s : Update) : Update :=
  { s with
    table := s.table.map (·.mask)
    fields := s.fields.map fun (column, a) => (column, a.mask)
    joins := s.joins.mask
    conditions := s.conditions.mask }

def Delete.mask (s : Delete) : Delete := { s with conditions := s.conditions.mask }

def Statement.mask : Statement → Statement
  | .select s => .select s.mask
  | .insert s => .insert s.mask
  | .update s => .update s.mask
  | .delete s => .delete s.mask

/-! ## A mask is a rewriting -/

/-- Every text value emptied, every table under its own name. -/
def Rewriting.blank : Rewriting where
  text := fun _ => ""

open Rewriting (blank)

mutual

theorem Value.mask_eq_rewrite : ∀ v : Value, v.mask = v.rewrite blank
  | .null | .bool _ | .int _ | .uint _ | .float _ | .text _ => rfl
  | .expr e => congrArg Value.expr (Expression.mask_eq_rewrite e)
  | .select s => congrArg Value.select (Select.mask_eq_rewrite s)

theorem Value.maskAll_eq_rewriteAll : ∀ vs : List Value, Value.maskAll vs = Value.rewriteAll blank vs
  | [] => rfl
  | v :: rest => by rw [Value.maskAll, Value.rewriteAll, Value.mask_eq_rewrite v, Value.maskAll_eq_rewriteAll rest]

theorem Operand.mask_eq_rewrite : ∀ o : Operand, o.mask = o.rewrite blank
  | .column _ | .raw _ => rfl
  | .value v => congrArg Operand.value (Value.mask_eq_rewrite v)

theorem Operand.maskAll_eq_rewriteAll : ∀ os : List Operand, Operand.maskAll os = Operand.rewriteAll blank os
  | [] => rfl
  | o :: rest => by
    rw [Operand.maskAll, Operand.rewriteAll, Operand.mask_eq_rewrite o, Operand.maskAll_eq_rewriteAll rest]

theorem ExpressionBody.mask_eq_rewrite : ∀ b : ExpressionBody, b.mask = b.rewrite blank
  | .literal _ => rfl
  | .call function operands => congrArg (ExpressionBody.call function) (Operand.maskAll_eq_rewriteAll operands)

theorem Expression.mask_eq_rewrite : ∀ e : Expression, e.mask = e.rewrite blank
  | ⟨body, label, qualifier⟩ => congrArg (Expression.mk · label qualifier) (ExpressionBody.mask_eq_rewrite body)

theorem Predicate.mask_eq_rewrite : ∀ p : Predicate, p.mask = p.rewrite blank
  | ⟨template, values⟩ => congrArg (Predicate.mk template) (Value.maskAll_eq_rewriteAll values)

theorem Condition.mask_eq_rewrite : ∀ c : Condition, c.mask = c.rewrite blank
  | .leaf conjunction p => congrArg (Condition.leaf conjunction) (Predicate.mask_eq_rewrite p)
  | .group conjunction members => congrArg (Condition.group conjunction) (Condition.maskAll_eq_rewriteAll members)

theorem Condition.maskAll_eq_rewriteAll : ∀ cs : List Condition, Condition.maskAll cs = Condition.rewriteAll blank cs
  | [] => rfl
  | c :: rest => by
    rw [Condition.maskAll, Condition.rewriteAll, Condition.mask_eq_rewrite c, Condition.maskAll_eq_rewriteAll rest]

theorem Condition.maskGroups_eq_rewriteGroups :
    ∀ opened : List (List Condition), Condition.maskGroups opened = Condition.rewriteGroups blank opened
  | [] => rfl
  | group :: outer => by
    rw [Condition.maskGroups, Condition.rewriteGroups, Condition.maskAll_eq_rewriteAll group,
      Condition.maskGroups_eq_rewriteGroups outer]

theorem WhereClause.mask_eq_rewrite : ∀ w : WhereClause, w.mask = w.rewrite blank
  | ⟨conditions, opened, fault⟩ => by
    rw [WhereClause.mask, WhereClause.rewrite, Condition.maskAll_eq_rewriteAll conditions,
      Condition.maskGroups_eq_rewriteGroups opened]

theorem TableSource.mask_eq_rewrite : ∀ t : TableSource, t.mask = t.rewrite blank
  | .name _ => rfl
  | .select s => congrArg TableSource.select (Select.mask_eq_rewrite s)
  | .expr e => congrArg TableSource.expr (Expression.mask_eq_rewrite e)

theorem TableRef.mask_eq_rewrite : ∀ t : TableRef, t.mask = t.rewrite blank
  | ⟨source, aliasName⟩ => congrArg (TableRef.mk · aliasName) (TableSource.mask_eq_rewrite source)

theorem TableRef.maskAll_eq_rewriteAll : ∀ ts : List TableRef, TableRef.maskAll ts = TableRef.rewriteAll blank ts
  | [] => rfl
  | t :: rest => by
    rw [TableRef.maskAll, TableRef.rewriteAll, TableRef.mask_eq_rewrite t, TableRef.maskAll_eq_rewriteAll rest]

theorem Join.mask_eq_rewrite : ∀ j : Join, j.mask = j.rewrite blank
  | ⟨type, table, condition⟩ => congrArg (Join.mk type · condition) (TableRef.mask_eq_rewrite table)

theorem Join.maskAll_eq_rewriteAll : ∀ js : List Join, Join.maskAll js = Join.rewriteAll blank js
  | [] => rfl
  | j :: rest => by rw [Join.maskAll, Join.rewriteAll, Join.mask_eq_rewrite j, Join.maskAll_eq_rewriteAll rest]

theorem JoinList.mask_eq_rewrite : ∀ l : JoinList, l.mask = l.rewrite blank
  | ⟨kind, joins, fault⟩ => congrArg (JoinList.mk kind · fault) (Join.maskAll_eq_rewriteAll joins)

theorem FieldTerm.mask_eq_rewrite : ∀ t : FieldTerm, t.mask = t.rewrite blank
  | .column _ _ | .raw _ => rfl
  | .expr e => congrArg FieldTerm.expr (Expression.mask_eq_rewrite e)

theorem Field.mask_eq_rewrite : ∀ f : Field, f.mask = f.rewrite blank
  | ⟨qualifier, term⟩ => congrArg (Field.mk qualifier) (FieldTerm.mask_eq_rewrite term)

theorem Field.maskAll_eq_rewriteAll : ∀ fs : List Field, Field.maskAll fs = Field.rewriteAll blank fs
  | [] => rfl
  | f :: rest => by rw [Field.maskAll, Field.rewriteAll, Field.mask_eq_rewrite f, Field.maskAll_eq_rewriteAll rest]

theorem Predicate.maskOption_eq_rewriteOption :
    ∀ p : Option Predicate, Predicate.maskOption p = Predicate.rewriteOption blank p
  | none => rfl
  | some p => congrArg some (Predicate.mask_eq_rewrite p)

theorem Select.mask_eq_rewrite : ∀ s : Select, s.mask = s.rewrite blank
  | ⟨tables, fields, joins, conditions, groupBy, having, orderBy, limit, fault⟩ => by
    rw [Select.mask, Select.rewrite, TableRef.maskAll_eq_rewriteAll tables, Field.maskAll_eq_rewriteAll fields,
      JoinList.mask_eq_rewrite joins, WhereClause.mask_eq_rewrite conditions,
      Predicate.maskOption_eq_rewriteOption having]

end

theorem Insert.mask_eq_rewrite (s : Insert) : s.mask = s.rewrite blank := by
  rw [Insert.mask, Insert.rewrite, funext Value.maskAll_eq_rewriteAll]
  rfl

theorem Assignment.mask_eq_rewrite (a : Assignment) : a.mask = a.rewrite blank := by
  cases a with
  | value v => exact congrArg Assignment.value v.mask_eq_rewrite
  | raw sql => rfl

theorem Update.mask_eq_rewrite (s : Update) : s.mask = s.rewrite blank := by
  simp only [Update.mask, Update.rewrite, TableRef.mask_eq_rewrite, Assignment.mask_eq_rewrite,
    JoinList.mask_eq_rewrite, WhereClause.mask_eq_rewrite]

theorem Delete.mask_eq_rewrite (s : Delete) : s.mask = s.rewrite blank := by
  rw [Delete.mask, Delete.rewrite, WhereClause.mask_eq_rewrite]
  rfl

theorem Statement.mask_eq_rewrite (s : Statement) : s.mask = s.rewrite blank := by
  cases s with
  | select s => exact congrArg Statement.select s.mask_eq_rewrite
  | insert s => exact congrArg Statement.insert s.mask_eq_rewrite
  | update s => exact congrArg Statement.update s.mask_eq_rewrite
  | delete s => exact congrArg Statement.delete s.mask_eq_rewrite

/-! ## Masked pieces -/

def Piece.mask : Piece → Piece
  | .text _ => .text ""
  | p => p

theorem Pieces.rewrite_blank (ps : Pieces) : ps.rewrite blank = ps.map Piece.mask :=
  List.map_congr_left fun p _ => by cases p <;> rfl

theorem Statement.pieces_mask (s : Statement) : s.mask.pieces = s.pieces.map (List.map Piece.mask) := by
  rw [s.mask_eq_rewrite, s.pieces_rewrite]
  exact congrArg (s.pieces.map ·) (funext Pieces.rewrite_blank)

/-! ## Segments -/

/-- The segments with one of the texts between each two: `s0 t1 s1 … tn sn`. -/
def weave : List String → List String → String
  | [], _ => ""
  | s :: _, [] => s
  | s :: segments, t :: texts => s ++ t ++ weave segments texts

theorem weave_append (s t : String) (segments texts : List String) :
    weave ((s ++ t) :: segments) texts = s ++ weave (t :: segments) texts := by
  cases texts <;> simp [weave, String.append_assoc]

namespace Pieces

/-- The SQL before, between and behind the text pieces, as a dialect writes it; `lead` stands in front of all. -/
def segments (d : Dialect) (lead : String) : Pieces → List String
  | [] => [lead]
  | .text _ :: ps => lead :: segments d "" ps
  | p :: ps => segments d (lead ++ p.write d) ps

theorem length_segments (d : Dialect) (lead : String) (ps : Pieces) :
    (segments d lead ps).length = ps.texts.length + 1 := by
  fun_induction segments d lead ps with
  | case1 => rfl
  | case2 lead s ps ih => rw [List.length_cons, ih, texts_text, List.length_cons]
  | case3 lead p ps hp ih =>
    rw [ih]
    cases p with
    | text s => exact absurd rfl (hp s)
    | _ => rfl

theorem segments_mask (d : Dialect) (lead : String) (ps : Pieces) :
    segments d lead (ps.map Piece.mask) = segments d lead ps := by
  induction ps generalizing lead with
  | nil => rfl
  | cons p ps ih => cases p <;> simp only [List.map_cons, Piece.mask, segments, ih]

/-- Writing pieces puts the literals of their texts between their segments. -/
theorem write_eq_weave (d : Dialect) (lead : String) (ps : Pieces) :
    lead ++ ps.write d = weave (segments d lead ps) (ps.texts.map d.quoteLiteral) := by
  induction ps generalizing lead with
  | nil => simp [segments, weave]
  | cons p ps ih =>
    cases p with
    | text s =>
      rw [segments, texts_text, List.map_cons, weave, ← ih, write_cons, Piece.write]
      simp [String.append_assoc]
    | sql s => rw [write_cons, ← String.append_assoc, ih]; rfl
    | ident i => rw [write_cons, ← String.append_assoc, ih]; rfl
    | table name => rw [write_cons, ← String.append_assoc, ih]; rfl

end Pieces

/-! ## What a text value can change -/

/-- Two statements that differ in their text values alone are refused with one error, or are written as the
same segments with the literals of their own texts between them. -/
theorem render_around_texts (a b : Statement) (h : a.mask = b.mask) (d : Dialect) :
    (∃ e, a.render d = .error e ∧ b.render d = .error e) ∨
    ∃ segments : List String,
      segments.length = a.texts.length + 1 ∧ segments.length = b.texts.length + 1 ∧
      a.render d = .ok (weave segments (a.texts.map d.quoteLiteral)) ∧
      b.render d = .ok (weave segments (b.texts.map d.quoteLiteral)) := by
  have same : a.pieces.map (List.map Piece.mask) = b.pieces.map (List.map Piece.mask) := by
    rw [← a.pieces_mask, ← b.pieces_mask, h]
  rw [a.render_eq, b.render_eq]
  cases ha : a.pieces with
  | error e =>
    cases hb : b.pieces with
    | ok qs => rw [ha, hb] at same; cases same
    | error e' =>
      rw [ha, hb] at same
      cases same
      exact .inl ⟨e, rfl, rfl⟩
  | ok ps =>
    cases hb : b.pieces with
    | error e => rw [ha, hb] at same; cases same
    | ok qs =>
      rw [ha, hb] at same
      have masked : ps.map Piece.mask = qs.map Piece.mask := Except.ok.inj same
      have segs : Pieces.segments d "" ps = Pieces.segments d "" qs := by
        rw [← Pieces.segments_mask d "" ps, masked, Pieces.segments_mask]
      have written (ps : Pieces) : ps.write d = weave (Pieces.segments d "" ps) (ps.texts.map d.quoteLiteral) := by
        rw [← Pieces.write_eq_weave, String.empty_append]
      rw [← a.texts_of_pieces ha, ← b.texts_of_pieces hb]
      refine .inr ⟨Pieces.segments d "" ps, Pieces.length_segments .., segs ▸ Pieces.length_segments .., ?_, ?_⟩
      · exact congrArg Except.ok (written ps)
      · exact congrArg Except.ok (segs ▸ written qs)

/-- A name that tries to be more than a name stays inside the one literal of its deletion. -/
theorem render_around_texts_of_deletions :
    let byName (name : String) : Statement := .delete
      { table := "users", truncates := false, fault := none
        conditions := ⟨[.leaf .and ⟨"name = ?", [.text name]⟩], [], none⟩ }
    (byName "ada").mask = (byName "ada' OR '?' = '?").mask ∧
    ((∃ e, (byName "ada").render (.offline .mysql) = .error e ∧
        (byName "ada' OR '?' = '?").render (.offline .mysql) = .error e) ∨
      ∃ segments : List String,
        segments.length = (byName "ada").texts.length + 1 ∧
        segments.length = (byName "ada' OR '?' = '?").texts.length + 1 ∧
        (byName "ada").render (.offline .mysql) =
          .ok (weave segments ((byName "ada").texts.map (Dialect.offline .mysql).quoteLiteral)) ∧
        (byName "ada' OR '?' = '?").render (.offline .mysql) =
          .ok (weave segments ((byName "ada' OR '?' = '?").texts.map (Dialect.offline .mysql).quoteLiteral))) := by
  intro byName
  have h : (byName "ada").mask = (byName "ada' OR '?' = '?").mask := rfl
  exact ⟨h, render_around_texts _ _ h (.offline .mysql)⟩

end SqlComposer
