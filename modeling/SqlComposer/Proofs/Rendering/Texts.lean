/-
  SqlComposer.Proofs.Rendering.Texts — the text values of a statement.

  `texts` lists the contents of the text values that rendering puts down, in its order:
  fields, tables, joins, WHERE and HAVING of a SELECT, at any depth. A value behind the
  last question mark of its template fills nothing and is left out, and so are the
  conditions of a TRUNCATE.

  Proved: the text pieces of a statement are its texts (`texts_of_pieces` of each part
  of the statement family, `Statement.texts_of_pieces`).
-/

import SqlComposer.Proofs.Rendering.Pieces
import SqlComposer.Proofs.Succeeding

namespace SqlComposer

/-! ## Texts -/

mutual

def Value.texts : Value → List String
  | .text s => [s]
  | .expr e => e.texts
  | .select s => s.texts
  | _ => []

def Value.textRows : List Value → List (List String)
  | [] => []
  | v :: rest => v.texts :: Value.textRows rest

def Operand.texts : Operand → List String
  | .value v => v.texts
  | _ => []

def Operand.textsAll : List Operand → List String
  | [] => []
  | o :: rest => o.texts ++ Operand.textsAll rest

def ExpressionBody.texts : ExpressionBody → List String
  | .literal _ => []
  | .call _ operands => Operand.textsAll operands

def Expression.texts : Expression → List String
  | ⟨body, _, _⟩ => body.texts

/-- Only values that take the place of a question mark count. -/
def Predicate.texts : Predicate → List String
  | ⟨template, values⟩ => ((Value.textRows values).take (template.toList.count '?')).flatten

def Condition.texts : Condition → List String
  | .leaf _ p => p.texts
  | .group _ members => Condition.textsAll members

def Condition.textsAll : List Condition → List String
  | [] => []
  | c :: rest => c.texts ++ Condition.textsAll rest

def WhereClause.texts : WhereClause → List String
  | ⟨conditions, _, _⟩ => Condition.textsAll conditions

def TableSource.texts : TableSource → List String
  | .name _ => []
  | .select s => s.texts
  | .expr e => e.texts

def TableRef.texts : TableRef → List String
  | ⟨source, _⟩ => source.texts

def TableRef.textsAll : List TableRef → List String
  | [] => []
  | t :: rest => t.texts ++ TableRef.textsAll rest

def Join.texts : Join → List String
  | ⟨_, table, _⟩ => table.texts

def Join.textsAll : List Join → List String
  | [] => []
  | j :: rest => j.texts ++ Join.textsAll rest

def JoinList.texts : JoinList → List String
  | ⟨_, joins, _⟩ => Join.textsAll joins

def FieldTerm.texts : FieldTerm → List String
  | .expr e => e.texts
  | _ => []

def Field.texts : Field → List String
  | ⟨_, term⟩ => term.texts

def Field.textsAll : List Field → List String
  | [] => []
  | f :: rest => f.texts ++ Field.textsAll rest

def Predicate.textsOption : Option Predicate → List String
  | none => []
  | some p => p.texts

def Select.texts : Select → List String
  | ⟨tables, fields, joins, conditions, _, having, _, _, _⟩ =>
    Field.textsAll fields ++ TableRef.textsAll tables ++ joins.texts ++ conditions.texts ++ Predicate.textsOption having

end

def Insert.texts (s : Insert) : List String := s.rows.flatMap fun row => (Value.textRows row).flatten

def Assignment.texts : Assignment → List String
  | .value v => v.texts
  | .raw _ => []

def Update.texts (s : Update) : List String :=
  (s.table.map (·.texts)).getD [] ++ s.fields.flatMap (·.2.texts) ++ s.joins.texts ++ s.conditions.texts

def Delete.texts (s : Delete) : List String := if s.truncates then [] else s.conditions.texts

def Statement.texts : Statement → List String
  | .select s => s.texts
  | .insert s => s.texts
  | .update s => s.texts
  | .delete s => s.texts

/-! ## Text pieces -/

def Piece.text? : Piece → Option String
  | .text s => some s
  | _ => none

namespace Pieces

def texts (ps : Pieces) : List String := ps.filterMap Piece.text?

@[simp] theorem texts_nil : texts [] = [] := rfl
@[simp] theorem texts_sql (s : String) (ps : Pieces) : texts (.sql s :: ps) = texts ps := rfl
@[simp] theorem texts_text (s : String) (ps : Pieces) : texts (.text s :: ps) = s :: texts ps := rfl
@[simp] theorem texts_ident (i : Ident) (ps : Pieces) : texts (.ident i :: ps) = texts ps := rfl
@[simp] theorem texts_table (name : String) (ps : Pieces) : texts (.table name :: ps) = texts ps := rfl

@[simp] theorem texts_append (ps qs : Pieces) : texts (ps ++ qs) = texts ps ++ texts qs := by
  simp [texts]

@[simp] theorem texts_enclosed (ps : Pieces) : texts ps.enclosed = texts ps := by simp [enclosed]

@[simp] theorem texts_labelled (ps : Pieces) (name : Option String) : texts (ps.labelled name) = texts ps := by
  cases name <;> simp [labelled]

@[simp] theorem texts_qualified (i : Ident) (qualifier : Option String) : texts (qualified i qualifier) = [] := by
  cases qualifier <;> simp [qualified]

@[simp] theorem texts_join (separator : String) (rows : List Pieces) :
    texts (join separator rows) = (rows.map texts).flatten := by
  induction rows with
  | nil => rfl
  | cons ps rows ih =>
    cases rows with
    | nil => simp [join]
    | cons qs rest => rw [join, texts_append, texts_sql, ih]; rfl

@[simp] theorem texts_joined (rows : List Pieces) : texts (joined rows) = (rows.map texts).flatten := by
  induction rows with
  | nil => rfl
  | cons ps rows ih =>
    have hsplit : joined (ps :: rows) = .sql " " :: ps ++ joined rows := by simp [joined]
    rw [hsplit, texts_append, texts_sql, ih]
    rfl

theorem texts_clause (keyword : String) (terms : List Pieces) :
    texts (clause keyword terms) = (terms.map texts).flatten := by
  cases terms <;> simp [clause]

@[simp] theorem texts_clause_toList (keyword : String) (o : Option Pieces) :
    texts (clause keyword o.toList) = (o.toList.map texts).flatten := texts_clause keyword o.toList

theorem texts_clause_map {α : Type} (keyword : String) (terms : List α) {f : α → Pieces} (h : ∀ a, texts (f a) = []) :
    texts (clause keyword (terms.map f)) = [] := by
  rw [texts_clause, List.map_map]
  exact List.flatten_eq_nil_iff.mpr fun l hl => by
    obtain ⟨a, _, rfl⟩ := List.mem_map.mp hl
    exact h a

/-- A template takes the texts of as many rows as it has question marks. -/
theorem texts_fill (cs : List Char) (rows : List Pieces) :
    texts (fill cs rows) = ((rows.map texts).take (cs.count '?')).flatten := by
  fun_induction fill cs rows with
  | case1 => simp
  | case2 cs ps rest ih => simp [ih]
  | case3 c cs rows hc ih =>
    rw [texts_sql, ih]
    cases rows with
    | nil => simp
    | cons ps rest =>
      have hne : c ≠ '?' := fun he => by simp [he] at hc
      rw [List.count_cons_of_ne hne]

end Pieces

@[simp] theorem Scope.texts_columnPieces (sc : Scope) (qualifier : Option String) (name : String) :
    (sc.columnPieces qualifier name).texts = [] := by
  unfold columnPieces
  dsimp only
  repeat' split
  all_goals simp

@[simp] theorem Scope.texts_groupPieces (sc : Scope) (term : String) : (sc.groupPieces term).texts = [] := by
  unfold groupPieces
  split <;> simp

@[simp] theorem Scope.texts_orderPieces (sc : Scope) (term : String × Order) : (sc.orderPieces term).texts = [] := by
  unfold orderPieces
  split <;> simp

@[simp] theorem Scope.texts_everything (sc : Scope) : sc.everything.texts = [] := by
  unfold everything
  split <;> simp

@[simp] theorem Operand.texts_columnPieces (qualifier : Option String) (name : String) :
    (Operand.columnPieces qualifier name).texts = [] := by
  unfold columnPieces
  dsimp only
  repeat' split
  all_goals simp

/-! ## The texts of a statement are those of its pieces -/

mutual

theorem Value.texts_of_pieces : ∀ (v : Value) {ps : Pieces}, v.pieces = .ok ps → ps.texts = v.texts
  | .null, _, h => by cases h; rfl
  | .bool true, _, h => by cases h; rfl
  | .bool false, _, h => by cases h; rfl
  | .int _, _, h => by cases h; rfl
  | .uint _, _, h => by cases h; rfl
  | .float _, _, h => by cases h; rfl
  | .text _, _, h => by cases h; rfl
  | .expr e, _, h => Expression.texts_of_pieces none e h
  | .select s, _, h => by
    obtain ⟨ps, hs, h⟩ := bind_ok h
    cases h
    rw [Pieces.texts_enclosed, Select.texts_of_pieces s hs, Value.texts]

theorem Value.textRows_of_pieces :
    ∀ (vs : List Value) {rows : List Pieces}, Value.piecesAll vs = .ok rows → rows.map Pieces.texts = Value.textRows vs
  | [], _, h => by cases h; rfl
  | v :: rest, _, h => by
    obtain ⟨ps, hv, h⟩ := bind_ok h
    obtain ⟨rows, hr, h⟩ := bind_ok h
    cases h
    rw [List.map_cons, Value.texts_of_pieces v hv, Value.textRows_of_pieces rest hr, Value.textRows]

theorem Operand.texts_of_pieces (qualifier : Option String) :
    ∀ (o : Operand) {ps : Pieces}, o.pieces qualifier = .ok ps → ps.texts = o.texts
  | .column name, _, h => by cases h; exact Operand.texts_columnPieces qualifier name
  | .value v, _, h => Value.texts_of_pieces v h
  | .raw _, _, h => by cases h; rfl

theorem Operand.textsAll_of_pieces (qualifier : Option String) :
    ∀ (os : List Operand) {rows : List Pieces},
      Operand.piecesAll qualifier os = .ok rows → (rows.map Pieces.texts).flatten = Operand.textsAll os
  | [], _, h => by cases h; rfl
  | o :: rest, _, h => by
    obtain ⟨ps, ho, h⟩ := bind_ok h
    obtain ⟨rows, hr, h⟩ := bind_ok h
    cases h
    rw [List.map_cons, List.flatten_cons, Operand.texts_of_pieces qualifier o ho,
      Operand.textsAll_of_pieces qualifier rest hr, Operand.textsAll]

theorem ExpressionBody.texts_of_pieces (qualifier : Option String) :
    ∀ (b : ExpressionBody) {ps : Pieces}, b.pieces qualifier = .ok ps → ps.texts = b.texts
  | .literal _, _, h => by cases h; rfl
  | .call _ operands, _, h => by
    obtain ⟨args, ha, h⟩ := bind_ok h
    cases h
    rw [Pieces.texts_sql, Pieces.texts_enclosed, Pieces.texts_join,
      Operand.textsAll_of_pieces qualifier operands ha, ExpressionBody.texts]

theorem Expression.texts_of_pieces (byDefault : Option String) :
    ∀ (e : Expression) {ps : Pieces}, e.pieces byDefault = .ok ps → ps.texts = e.texts
  | ⟨body, label, qualifier⟩, _, h => by
    obtain ⟨ps, hb, h⟩ := bind_ok h
    cases h
    rw [Pieces.texts_labelled, ExpressionBody.texts_of_pieces _ body hb, Expression.texts]

theorem Predicate.texts_of_pieces : ∀ (p : Predicate) {ps : Pieces}, p.pieces = .ok ps → ps.texts = p.texts
  | ⟨template, values⟩, _, h => by
    obtain ⟨rows, hv, h⟩ := bind_ok h
    cases h
    rw [Pieces.texts_fill, Value.textRows_of_pieces values hv, Predicate.texts]

theorem Condition.texts_of_pieces (isFirst : Bool) :
    ∀ (c : Condition) {ps : Pieces}, c.pieces isFirst = .ok ps → ps.texts = c.texts
  | .leaf _ p, _, h => by
    obtain ⟨ps, hp, h⟩ := bind_ok h
    cases h
    rw [Pieces.texts_sql, Pieces.texts_enclosed, Predicate.texts_of_pieces p hp, Condition.texts]
  | .group _ members, _, h => by
    obtain ⟨ps, hm, h⟩ := bind_ok h
    cases h
    rw [Pieces.texts_sql, Pieces.texts_enclosed, Condition.textsAll_of_pieces true members hm, Condition.texts]

theorem Condition.textsAll_of_pieces (isFirst : Bool) :
    ∀ (cs : List Condition) {ps : Pieces}, Condition.piecesAll isFirst cs = .ok ps → ps.texts = Condition.textsAll cs
  | [], _, h => by cases h; rfl
  | c :: rest, _, h => by
    obtain ⟨ps, hc, h⟩ := bind_ok h
    obtain ⟨qs, hr, h⟩ := bind_ok h
    cases h
    rw [Pieces.texts_append, Condition.texts_of_pieces isFirst c hc, Condition.textsAll_of_pieces false rest hr,
      Condition.textsAll]

theorem WhereClause.texts_of_pieces :
    ∀ (w : WhereClause) {o : Option Pieces}, w.pieces = .ok o → (o.toList.map Pieces.texts).flatten = w.texts
  | ⟨conditions, opened, fault⟩, _, h => by
    obtain ⟨_, _, h⟩ := bind_ok h
    obtain ⟨_, _, h⟩ := bind_ok h
    obtain ⟨ps, hc, h⟩ := bind_ok h
    cases h
    rw [WhereClause.texts, ← Condition.textsAll_of_pieces true conditions hc]
    cases conditions with
    | nil => cases hc; rfl
    | cons c rest => simp

theorem TableSource.texts_of_pieces : ∀ (t : TableSource) {ps : Pieces}, t.pieces = .ok ps → ps.texts = t.texts
  | .name _, _, h => by cases h; rfl
  | .select s, _, h => by
    obtain ⟨ps, hs, h⟩ := bind_ok h
    cases h
    rw [Pieces.texts_enclosed, Select.texts_of_pieces s hs, TableSource.texts]
  | .expr e, _, h => by
    obtain ⟨ps, he, h⟩ := bind_ok h
    cases h
    rw [Pieces.texts_enclosed, Expression.texts_of_pieces none e he, TableSource.texts]

theorem TableRef.texts_of_pieces : ∀ (t : TableRef) {ps : Pieces}, t.pieces = .ok ps → ps.texts = t.texts
  | ⟨source, _⟩, _, h => by
    obtain ⟨ps, hs, h⟩ := bind_ok h
    cases h
    rw [Pieces.texts_labelled, TableSource.texts_of_pieces source hs, TableRef.texts]

theorem TableRef.textsAll_of_pieces :
    ∀ (ts : List TableRef) {rows : List Pieces},
      TableRef.piecesAll ts = .ok rows → (rows.map Pieces.texts).flatten = TableRef.textsAll ts
  | [], _, h => by cases h; rfl
  | t :: rest, _, h => by
    obtain ⟨ps, ht, h⟩ := bind_ok h
    obtain ⟨rows, hr, h⟩ := bind_ok h
    cases h
    rw [List.map_cons, List.flatten_cons, TableRef.texts_of_pieces t ht, TableRef.textsAll_of_pieces rest hr,
      TableRef.textsAll]

theorem Join.texts_of_pieces : ∀ (j : Join) {ps : Pieces}, j.pieces = .ok ps → ps.texts = j.texts
  | ⟨type, table, condition⟩, _, h => by
    obtain ⟨ps, ht, h⟩ := bind_ok h
    cases h
    rw [Join.texts, ← TableRef.texts_of_pieces table ht]
    split <;> simp

theorem Join.textsAll_of_pieces :
    ∀ (js : List Join) {rows : List Pieces},
      Join.piecesAll js = .ok rows → (rows.map Pieces.texts).flatten = Join.textsAll js
  | [], _, h => by cases h; rfl
  | j :: rest, _, h => by
    obtain ⟨ps, hj, h⟩ := bind_ok h
    obtain ⟨rows, hr, h⟩ := bind_ok h
    cases h
    rw [List.map_cons, List.flatten_cons, Join.texts_of_pieces j hj, Join.textsAll_of_pieces rest hr, Join.textsAll]

theorem JoinList.texts_of_pieces :
    ∀ (l : JoinList) {rows : List Pieces}, l.pieces = .ok rows → (rows.map Pieces.texts).flatten = l.texts
  | ⟨_, joins, _⟩, _, h => by
    obtain ⟨_, _, h⟩ := bind_ok h
    exact Join.textsAll_of_pieces joins h

theorem FieldTerm.texts_of_pieces (sc : Scope) (qualifier : Option String) :
    ∀ (t : FieldTerm) {ps : Pieces}, t.pieces sc qualifier = .ok ps → ps.texts = t.texts
  | .raw _, _, h => by cases h; rfl
  | .expr e, _, h => Expression.texts_of_pieces qualifier e h
  | .column name label, _, h => by
    cases h
    rw [Pieces.texts_labelled, Scope.texts_columnPieces, FieldTerm.texts]
    simp

theorem Field.texts_of_pieces (sc : Scope) :
    ∀ (f : Field) {ps : Pieces}, f.pieces sc = .ok ps → ps.texts = f.texts
  | ⟨_, term⟩, _, h => FieldTerm.texts_of_pieces sc _ term h

theorem Field.textsAll_of_pieces (sc : Scope) :
    ∀ (fs : List Field) {rows : List Pieces},
      Field.piecesAll sc fs = .ok rows → (rows.map Pieces.texts).flatten = Field.textsAll fs
  | [], _, h => by cases h; rfl
  | f :: rest, _, h => by
    obtain ⟨ps, hf, h⟩ := bind_ok h
    obtain ⟨rows, hr, h⟩ := bind_ok h
    cases h
    rw [List.map_cons, List.flatten_cons, Field.texts_of_pieces sc f hf, Field.textsAll_of_pieces sc rest hr,
      Field.textsAll]

theorem Predicate.textsOption_of_pieces :
    ∀ (p : Option Predicate) {o : Option Pieces},
      Predicate.piecesOption p = .ok o → (o.toList.map Pieces.texts).flatten = Predicate.textsOption p
  | none, _, h => by cases h; rfl
  | some p, _, h => by
    obtain ⟨ps, hp, h⟩ := bind_ok h
    cases h
    rw [Predicate.textsOption, ← Predicate.texts_of_pieces p hp]
    simp

theorem Select.texts_of_pieces : ∀ (s : Select) {ps : Pieces}, s.pieces = .ok ps → ps.texts = s.texts
  | ⟨tables, fields, joins, conditions, groupBy, having, orderBy, limit, fault⟩, _, h => by
    obtain ⟨_, _, h⟩ := bind_ok h
    cases tables with
    | nil => cases h
    | cons t ts =>
      obtain ⟨fieldRows, hf, h⟩ := bind_ok h
      obtain ⟨tableRows, ht, h⟩ := bind_ok h
      obtain ⟨joinRows, hj, h⟩ := bind_ok h
      obtain ⟨wherePieces, hw, h⟩ := bind_ok h
      obtain ⟨havingPieces, hh, h⟩ := bind_ok h
      cases h
      rw [Select.texts, ← Field.textsAll_of_pieces _ fields hf, ← TableRef.textsAll_of_pieces (t :: ts) ht,
        ← JoinList.texts_of_pieces joins hj, ← WhereClause.texts_of_pieces conditions hw,
        ← Predicate.textsOption_of_pieces having hh]
      cases fields with
      | nil =>
        cases hf
        simp [Pieces.texts_clause_map]
      | cons f fs => simp [Pieces.texts_clause_map]

end

/-! ## Statements that change tables -/

theorem Value.textRows_of_pieceRows :
    ∀ (rows : List (List Value)) {groups : List Pieces},
      Value.pieceRows rows = .ok groups →
        (groups.map Pieces.texts).flatten = rows.flatMap fun row => (Value.textRows row).flatten
  | [], _, h => by cases h; rfl
  | row :: rest, _, h => by
    obtain ⟨ps, hr, h⟩ := bind_ok h
    obtain ⟨groups, hg, h⟩ := bind_ok h
    cases h
    rw [List.map_cons, List.flatten_cons, Pieces.texts_enclosed, Pieces.texts_join, Value.textRows_of_pieces row hr,
      Value.textRows_of_pieceRows rest hg, List.flatMap_cons]

theorem Insert.texts_of_pieces (s : Insert) {ps : Pieces} (h : s.pieces = .ok ps) : ps.texts = s.texts := by
  obtain ⟨groups, hg, rfl⟩ := Insert.pieces_ok h
  rw [Insert.texts, ← Value.textRows_of_pieceRows s.rows hg]
  cases s.onDuplicate <;> simp [Function.comp_def]

theorem Assignment.texts_of_pieces (a : Assignment) {ps : Pieces} (h : a.pieces = .ok ps) : ps.texts = a.texts := by
  cases a with
  | value v => exact v.texts_of_pieces h
  | raw sql => cases h; rfl

theorem Assignment.textsAll_of_pieces :
    ∀ (fields : List (String × Assignment)) {rows : List Pieces},
      Assignment.piecesAll fields = .ok rows → (rows.map Pieces.texts).flatten = fields.flatMap (·.2.texts)
  | [], _, h => by cases h; rfl
  | (column, a) :: rest, _, h => by
    obtain ⟨ps, ha, h⟩ := bind_ok h
    obtain ⟨rows, hr, h⟩ := bind_ok h
    cases h
    rw [List.map_cons, List.flatten_cons, Pieces.texts_ident, Pieces.texts_sql, a.texts_of_pieces ha,
      Assignment.textsAll_of_pieces rest hr, List.flatMap_cons]

theorem Update.texts_of_pieces (s : Update) {ps : Pieces} (h : s.pieces = .ok ps) : ps.texts = s.texts := by
  obtain ⟨table, sets, tablePieces, joinRows, wherePieces, ht, hs, hp, hj, hw, rfl⟩ := Update.pieces_ok h
  rw [Update.texts, ht, ← Assignment.textsAll_of_pieces s.fields hs, ← s.joins.texts_of_pieces hj,
    ← s.conditions.texts_of_pieces hw, Option.map_some, Option.getD_some, ← table.texts_of_pieces hp]
  simp

theorem Delete.texts_of_pieces (s : Delete) {ps : Pieces} (h : s.pieces = .ok ps) : ps.texts = s.texts := by
  unfold Delete.pieces at h
  obtain ⟨_, _, h⟩ := bind_ok h
  unfold Delete.texts
  split at h
  · rename_i ht
    cases h
    simp [ht]
  · rename_i ht
    obtain ⟨wherePieces, hw, h⟩ := bind_ok h
    cases h
    rw [if_neg ht, ← s.conditions.texts_of_pieces hw]
    simp

/-- The text pieces of a statement are its texts, in their order. -/
theorem Statement.texts_of_pieces (s : Statement) {ps : Pieces} (h : s.pieces = .ok ps) : ps.texts = s.texts := by
  cases s with
  | select s => exact s.texts_of_pieces h
  | insert s => exact s.texts_of_pieces h
  | update s => exact s.texts_of_pieces h
  | delete s => exact s.texts_of_pieces h

end SqlComposer
