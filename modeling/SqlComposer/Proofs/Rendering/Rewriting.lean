/-
  SqlComposer.Proofs.Rendering.Rewriting — statements with other words in the same places.

  A rewriting gives every text value another content and every table another name, at
  any depth, and leaves all else as it is: columns, aliases, qualifiers, labels,
  templates, numbers, and the faults that were recorded.

  Proved: the pieces of a rewritten statement are the rewritten pieces, and it is refused
  with the same fault (`Statement.pieces_rewrite`).
-/

import SqlComposer.Proofs.Rendering.Writing

namespace SqlComposer

structure Rewriting where
  text : String → String := id
  table : String → String := id

/-! ## Rewritten statements -/

section Rewrite

variable (f : Rewriting)

mutual

def Value.rewrite : Value → Value
  | .text s => .text (f.text s)
  | .expr e => .expr e.rewrite
  | .select s => .select s.rewrite
  | v => v

def Value.rewriteAll : List Value → List Value
  | [] => []
  | v :: rest => v.rewrite :: Value.rewriteAll rest

def Operand.rewrite : Operand → Operand
  | .value v => .value v.rewrite
  | o => o

def Operand.rewriteAll : List Operand → List Operand
  | [] => []
  | o :: rest => o.rewrite :: Operand.rewriteAll rest

def ExpressionBody.rewrite : ExpressionBody → ExpressionBody
  | .literal sql => .literal sql
  | .call function operands => .call function (Operand.rewriteAll operands)

def Expression.rewrite : Expression → Expression
  | ⟨body, label, qualifier⟩ => ⟨body.rewrite, label, qualifier⟩

def Predicate.rewrite : Predicate → Predicate
  | ⟨template, values⟩ => ⟨template, Value.rewriteAll values⟩

def Condition.rewrite : Condition → Condition
  | .leaf conjunction p => .leaf conjunction p.rewrite
  | .group conjunction members => .group conjunction (Condition.rewriteAll members)

def Condition.rewriteAll : List Condition → List Condition
  | [] => []
  | c :: rest => c.rewrite :: Condition.rewriteAll rest

def Condition.rewriteGroups : List (List Condition) → List (List Condition)
  | [] => []
  | group :: outer => Condition.rewriteAll group :: Condition.rewriteGroups outer

def WhereClause.rewrite : WhereClause → WhereClause
  | ⟨conditions, opened, fault⟩ => ⟨Condition.rewriteAll conditions, Condition.rewriteGroups opened, fault⟩

def TableSource.rewrite : TableSource → TableSource
  | .name name => .name (f.table name)
  | .select s => .select s.rewrite
  | .expr e => .expr e.rewrite

def TableRef.rewrite : TableRef → TableRef
  | ⟨source, aliasName⟩ => ⟨source.rewrite, aliasName⟩

def TableRef.rewriteAll : List TableRef → List TableRef
  | [] => []
  | t :: rest => t.rewrite :: TableRef.rewriteAll rest

def Join.rewrite : Join → Join
  | ⟨type, table, condition⟩ => ⟨type, table.rewrite, condition⟩

def Join.rewriteAll : List Join → List Join
  | [] => []
  | j :: rest => j.rewrite :: Join.rewriteAll rest

def JoinList.rewrite : JoinList → JoinList
  | ⟨kind, joins, fault⟩ => ⟨kind, Join.rewriteAll joins, fault⟩

def FieldTerm.rewrite : FieldTerm → FieldTerm
  | .expr e => .expr e.rewrite
  | t => t

def Field.rewrite : Field → Field
  | ⟨qualifier, term⟩ => ⟨qualifier, term.rewrite⟩

def Field.rewriteAll : List Field → List Field
  | [] => []
  | field :: rest => field.rewrite :: Field.rewriteAll rest

def Predicate.rewriteOption : Option Predicate → Option Predicate
  | none => none
  | some p => some p.rewrite

def Select.rewrite : Select → Select
  | ⟨tables, fields, joins, conditions, groupBy, having, orderBy, limit, fault⟩ =>
    ⟨TableRef.rewriteAll tables, Field.rewriteAll fields, joins.rewrite, conditions.rewrite, groupBy,
      Predicate.rewriteOption having, orderBy, limit, fault⟩

end

def Insert.rewrite (s : Insert) : Insert := { s with table := f.table s.table, rows := s.rows.map (Value.rewriteAll f) }

def Assignment.rewrite : Assignment → Assignment
  | .value v => .value (v.rewrite f)
  | .raw sql => .raw sql

def Update.rewrite (s : Update) : Update :=
  { s with
    table := s.table.map (·.rewrite f)
    fields := s.fields.map fun (column, a) => (column, a.rewrite f)
    joins := s.joins.rewrite f
    conditions := s.conditions.rewrite f }

def Delete.rewrite (s : Delete) : Delete :=
  { s with table := f.table s.table, conditions := s.conditions.rewrite f }

def Statement.rewrite : Statement → Statement
  | .select s => .select (s.rewrite f)
  | .insert s => .insert (s.rewrite f)
  | .update s => .update (s.rewrite f)
  | .delete s => .delete (s.rewrite f)

end Rewrite

variable {f : Rewriting}

/-! ## What a rewriting keeps -/

theorem TableRef.aliasName_rewrite (t : TableRef) : (t.rewrite f).aliasName = t.aliasName := by
  cases t; rfl

theorem TableRef.rewriteAll_eq_map (ts : List TableRef) : TableRef.rewriteAll f ts = ts.map (·.rewrite f) := by
  induction ts with
  | nil => rfl
  | cons t rest ih => rw [TableRef.rewriteAll, ih, List.map_cons]

theorem Join.rewriteAll_eq_map (js : List Join) : Join.rewriteAll f js = js.map (·.rewrite f) := by
  induction js with
  | nil => rfl
  | cons j rest ih => rw [Join.rewriteAll, ih, List.map_cons]

theorem Join.aliasName_rewrite (j : Join) : (j.rewrite f).table.aliasName = j.table.aliasName := by
  cases j; exact TableRef.aliasName_rewrite _

theorem JoinList.joins_rewrite (l : JoinList) : (l.rewrite f).joins = l.joins.map (·.rewrite f) := by
  cases l; exact Join.rewriteAll_eq_map _

theorem Condition.length_rewriteGroups (opened : List (List Condition)) :
    (Condition.rewriteGroups f opened).length = opened.length := by
  induction opened with
  | nil => rfl
  | cons group outer ih => rw [Condition.rewriteGroups, List.length_cons, ih, List.length_cons]

theorem Condition.isEmpty_rewriteGroups (opened : List (List Condition)) :
    (Condition.rewriteGroups f opened).isEmpty = opened.isEmpty := by
  cases opened <;> rfl

@[simp] theorem WhereClause.fault_rewrite (w : WhereClause) : (w.rewrite f).fault = w.fault := by
  cases w; rfl

@[simp] theorem JoinList.fault_rewrite (l : JoinList) : (l.rewrite f).fault = l.fault := by
  cases l; rfl

/-- A rewriting keeps every alias. -/
theorem Select.scope_rewrite (s : Select) : (s.rewrite f).scope = s.scope := by
  obtain ⟨tables, fields, joins, conditions, groupBy, having, orderBy, limit, fault⟩ := s
  simp only [Select.rewrite, Select.scope, TableRef.rewriteAll_eq_map, JoinList.joins_rewrite, List.head?_map,
    List.filterMap_map, Function.comp_def, TableRef.aliasName_rewrite, Join.aliasName_rewrite]
  cases tables <;> simp [TableRef.aliasName_rewrite]

/-! ## Rewritten pieces -/

def Piece.rewrite (f : Rewriting) : Piece → Piece
  | .text s => .text (f.text s)
  | .table name => .table (f.table name)
  | p => p

@[simp] theorem Piece.rewrite_sql (s : String) : Piece.rewrite f (.sql s) = .sql s := rfl
@[simp] theorem Piece.rewrite_ident (i : Ident) : Piece.rewrite f (.ident i) = .ident i := rfl
@[simp] theorem Piece.rewrite_table (name : String) : Piece.rewrite f (.table name) = .table (f.table name) := rfl

def Pieces.rewrite (f : Rewriting) (ps : Pieces) : Pieces := ps.map (Piece.rewrite f)

namespace Pieces

@[simp] theorem rewrite_nil : rewrite f [] = [] := rfl
@[simp] theorem rewrite_cons (p : Piece) (ps : Pieces) : rewrite f (p :: ps) = p.rewrite f :: rewrite f ps := rfl
@[simp] theorem rewrite_append (ps qs : Pieces) : rewrite f (ps ++ qs) = rewrite f ps ++ rewrite f qs := by
  simp [rewrite]

@[simp] theorem rewrite_enclosed (ps : Pieces) : rewrite f ps.enclosed = enclosed (rewrite f ps) := by simp [enclosed]

@[simp] theorem rewrite_labelled (ps : Pieces) (name : Option String) :
    rewrite f (ps.labelled name) = labelled (rewrite f ps) name := by
  cases name <;> simp [labelled]

@[simp] theorem rewrite_qualified (i : Ident) (qualifier : Option String) :
    rewrite f (qualified i qualifier) = qualified i qualifier := by
  cases qualifier <;> rfl

@[simp] theorem rewrite_join (separator : String) (rows : List Pieces) :
    rewrite f (join separator rows) = join separator (rows.map (rewrite f)) := by
  induction rows with
  | nil => rfl
  | cons ps rows ih =>
    cases rows with
    | nil => rfl
    | cons qs rest => simp only [join, rewrite_append, rewrite_cons, Piece.rewrite_sql, List.map_cons, ih]

@[simp] theorem rewrite_joined (rows : List Pieces) : rewrite f (joined rows) = joined (rows.map (rewrite f)) := by
  induction rows with
  | nil => rfl
  | cons ps rows ih =>
    simp only [joined, List.flatMap_cons, rewrite_append, rewrite_cons, Piece.rewrite_sql, List.map_cons] at ih ⊢
    rw [ih]

@[simp] theorem rewrite_clause (keyword : String) (terms : List Pieces) :
    rewrite f (clause keyword terms) = clause keyword (terms.map (rewrite f)) := by
  cases terms with
  | nil => rfl
  | cons ps rest => simp [clause]

theorem rewrite_fill (cs : List Char) (rows : List Pieces) :
    rewrite f (fill cs rows) = fill cs (rows.map (rewrite f)) := by
  fun_induction fill cs rows with
  | case1 => simp [fill]
  | case2 cs ps rest ih => simp [fill, ih]
  | case3 c cs rows hc ih =>
    rw [rewrite_cons, Piece.rewrite_sql, ih]
    cases rows with
    | nil => simp [fill]
    | cons ps rest =>
      have hne : c ≠ '?' := fun he => by simp [he] at hc
      simp [fill, hne]

theorem rewrite_toList (o : Option Pieces) : o.toList.map (rewrite f) = (o.map (rewrite f)).toList := by
  cases o <;> rfl

end Pieces

theorem Scope.rewrite_columnPieces (sc : Scope) (qualifier : Option String) (name : String) :
    (sc.columnPieces qualifier name).rewrite f = sc.columnPieces qualifier name := by
  unfold columnPieces
  dsimp only
  split
  · split
    · rfl
    · exact Pieces.rewrite_qualified _ _
  · exact Pieces.rewrite_qualified _ _

theorem Scope.rewrite_groupPieces (sc : Scope) (terms : List String) :
    (terms.map sc.groupPieces).map (Pieces.rewrite f) = terms.map sc.groupPieces := by
  rw [List.map_map]
  refine List.map_congr_left fun term _ => ?_
  unfold Function.comp groupPieces
  split
  · rfl
  · exact sc.rewrite_columnPieces none term

theorem Scope.rewrite_orderPieces (sc : Scope) (terms : List (String × Order)) :
    (terms.map sc.orderPieces).map (Pieces.rewrite f) = terms.map sc.orderPieces := by
  rw [List.map_map]
  refine List.map_congr_left fun term _ => ?_
  unfold Function.comp orderPieces
  rw [Pieces.rewrite_append]
  split
  · rfl
  · rw [sc.rewrite_columnPieces none term.1]; rfl

theorem Scope.rewrite_everything (sc : Scope) : sc.everything.rewrite f = sc.everything := by
  unfold everything
  cases sc.leading <;> rfl

theorem Operand.rewrite_columnPieces (qualifier : Option String) (name : String) :
    (Operand.columnPieces qualifier name).rewrite f = Operand.columnPieces qualifier name := by
  unfold columnPieces
  dsimp only
  repeat' split
  all_goals rfl

/-! ## The pieces of a rewritten statement are the rewritten pieces -/

mutual

theorem Value.pieces_rewrite : ∀ v : Value, (v.rewrite f).pieces = v.pieces.map (Pieces.rewrite f)
  | .null => rfl
  | .bool true => rfl
  | .bool false => rfl
  | .int _ => rfl
  | .uint _ => rfl
  | .float _ => rfl
  | .text _ => rfl
  | .expr e => Expression.pieces_rewrite none e
  | .select s => by
    rw [Value.rewrite, Value.pieces, Value.pieces, Select.pieces_rewrite s]
    exact return_map (fun ps => (Pieces.rewrite_enclosed ps).symm) _

theorem Value.piecesAll_rewrite :
    ∀ vs : List Value,
      Value.piecesAll (Value.rewriteAll f vs) = (Value.piecesAll vs).map (List.map (Pieces.rewrite f))
  | [] => rfl
  | v :: rest => by
    rw [Value.rewriteAll, Value.piecesAll, Value.piecesAll, Value.pieces_rewrite v, Value.piecesAll_rewrite rest]
    exact return_map_cons _ _ _

theorem Operand.pieces_rewrite (qualifier : Option String) :
    ∀ o : Operand, (o.rewrite f).pieces qualifier = (o.pieces qualifier).map (Pieces.rewrite f)
  | .column name => congrArg Except.ok (Operand.rewrite_columnPieces qualifier name).symm
  | .value v => Value.pieces_rewrite v
  | .raw _ => rfl

theorem Operand.piecesAll_rewrite (qualifier : Option String) :
    ∀ os : List Operand, Operand.piecesAll qualifier (Operand.rewriteAll f os) =
      (Operand.piecesAll qualifier os).map (List.map (Pieces.rewrite f))
  | [] => rfl
  | o :: rest => by
    rw [Operand.rewriteAll, Operand.piecesAll, Operand.piecesAll, Operand.pieces_rewrite qualifier o,
      Operand.piecesAll_rewrite qualifier rest]
    exact return_map_cons _ _ _

theorem ExpressionBody.pieces_rewrite (qualifier : Option String) :
    ∀ b : ExpressionBody, (b.rewrite f).pieces qualifier = (b.pieces qualifier).map (Pieces.rewrite f)
  | .literal _ => rfl
  | .call function operands => by
    rw [ExpressionBody.rewrite, ExpressionBody.pieces, ExpressionBody.pieces,
      Operand.piecesAll_rewrite qualifier operands]
    exact return_map (fun args => by simp) _

theorem Expression.pieces_rewrite (byDefault : Option String) :
    ∀ e : Expression, (e.rewrite f).pieces byDefault = (e.pieces byDefault).map (Pieces.rewrite f)
  | ⟨body, label, qualifier⟩ => by
    rw [Expression.rewrite, Expression.pieces, Expression.pieces, ExpressionBody.pieces_rewrite _ body]
    exact return_map (fun ps => (Pieces.rewrite_labelled ps label).symm) _

theorem Predicate.pieces_rewrite : ∀ p : Predicate, (p.rewrite f).pieces = p.pieces.map (Pieces.rewrite f)
  | ⟨template, values⟩ => by
    rw [Predicate.rewrite, Predicate.pieces, Predicate.pieces, Value.piecesAll_rewrite values]
    exact return_map (fun rows => (Pieces.rewrite_fill template.toList rows).symm) _

theorem Condition.pieces_rewrite (isFirst : Bool) :
    ∀ c : Condition, (c.rewrite f).pieces isFirst = (c.pieces isFirst).map (Pieces.rewrite f)
  | .leaf conjunction p => by
    rw [Condition.rewrite, Condition.pieces, Condition.pieces, Predicate.pieces_rewrite p]
    exact return_map (fun ps => by simp) _
  | .group conjunction members => by
    rw [Condition.rewrite, Condition.pieces, Condition.pieces, Condition.piecesAll_rewrite true members]
    exact return_map (fun ps => by simp) _

theorem Condition.piecesAll_rewrite (isFirst : Bool) :
    ∀ cs : List Condition, Condition.piecesAll isFirst (Condition.rewriteAll f cs) =
      (Condition.piecesAll isFirst cs).map (Pieces.rewrite f)
  | [] => rfl
  | c :: rest => by
    rw [Condition.rewriteAll, Condition.piecesAll, Condition.piecesAll, Condition.pieces_rewrite isFirst c,
      Condition.piecesAll_rewrite false rest]
    cases c.pieces isFirst with
    | error e => rfl
    | ok ps => exact return_map (fun qs => (Pieces.rewrite_append ps qs).symm) _

theorem WhereClause.pieces_rewrite :
    ∀ w : WhereClause, (w.rewrite f).pieces = w.pieces.map (Option.map (Pieces.rewrite f))
  | ⟨conditions, opened, fault⟩ => by
    have ho : refuseOpen (Condition.rewriteGroups f opened) = refuseOpen opened := by
      rw [refuseOpen, refuseOpen, Condition.isEmpty_rewriteGroups, Condition.length_rewriteGroups]
    rw [WhereClause.rewrite, WhereClause.pieces, WhereClause.pieces, Condition.piecesAll_rewrite true conditions, ho]
    cases refuse fault with
    | error e => rfl
    | ok _ =>
      cases refuseOpen opened with
      | error e => rfl
      | ok _ =>
        refine return_map (fun ps => ?_) _
        cases conditions <;> rfl

theorem TableSource.pieces_rewrite : ∀ t : TableSource, (t.rewrite f).pieces = t.pieces.map (Pieces.rewrite f)
  | .name _ => rfl
  | .select s => by
    rw [TableSource.rewrite, TableSource.pieces, TableSource.pieces, Select.pieces_rewrite s]
    exact return_map (fun ps => (Pieces.rewrite_enclosed ps).symm) _
  | .expr e => by
    rw [TableSource.rewrite, TableSource.pieces, TableSource.pieces, Expression.pieces_rewrite none e]
    exact return_map (fun ps => (Pieces.rewrite_enclosed ps).symm) _

theorem TableRef.pieces_rewrite : ∀ t : TableRef, (t.rewrite f).pieces = t.pieces.map (Pieces.rewrite f)
  | ⟨source, aliasName⟩ => by
    rw [TableRef.rewrite, TableRef.pieces, TableRef.pieces, TableSource.pieces_rewrite source]
    exact return_map (fun ps => (Pieces.rewrite_labelled ps aliasName).symm) _

theorem TableRef.piecesAll_rewrite :
    ∀ ts : List TableRef,
      TableRef.piecesAll (TableRef.rewriteAll f ts) = (TableRef.piecesAll ts).map (List.map (Pieces.rewrite f))
  | [] => rfl
  | t :: rest => by
    rw [TableRef.rewriteAll, TableRef.piecesAll, TableRef.piecesAll, TableRef.pieces_rewrite t,
      TableRef.piecesAll_rewrite rest]
    exact return_map_cons _ _ _

theorem Join.pieces_rewrite : ∀ j : Join, (j.rewrite f).pieces = j.pieces.map (Pieces.rewrite f)
  | ⟨type, table, condition⟩ => by
    rw [Join.rewrite, Join.pieces, Join.pieces, TableRef.pieces_rewrite table]
    refine return_map (fun ps => ?_) _
    split <;> simp

theorem Join.piecesAll_rewrite :
    ∀ js : List Join, Join.piecesAll (Join.rewriteAll f js) = (Join.piecesAll js).map (List.map (Pieces.rewrite f))
  | [] => rfl
  | j :: rest => by
    rw [Join.rewriteAll, Join.piecesAll, Join.piecesAll, Join.pieces_rewrite j, Join.piecesAll_rewrite rest]
    exact return_map_cons _ _ _

theorem JoinList.pieces_rewrite : ∀ l : JoinList, (l.rewrite f).pieces = l.pieces.map (List.map (Pieces.rewrite f))
  | ⟨_, joins, fault⟩ => by
    rw [JoinList.rewrite, JoinList.pieces, JoinList.pieces, Join.piecesAll_rewrite joins]
    cases refuse fault <;> rfl

theorem FieldTerm.pieces_rewrite (sc : Scope) (qualifier : Option String) :
    ∀ t : FieldTerm, (t.rewrite f).pieces sc qualifier = (t.pieces sc qualifier).map (Pieces.rewrite f)
  | .raw _ => rfl
  | .expr e => Expression.pieces_rewrite qualifier e
  | .column name label => by
    refine congrArg Except.ok ?_
    rw [Pieces.rewrite_labelled, sc.rewrite_columnPieces]

theorem Field.pieces_rewrite (sc : Scope) :
    ∀ field : Field, (field.rewrite f).pieces sc = (field.pieces sc).map (Pieces.rewrite f)
  | ⟨qualifier, term⟩ => by
    have hq : sc.qualifierOf ⟨qualifier, term.rewrite f⟩ = sc.qualifierOf ⟨qualifier, term⟩ := by cases term <;> rfl
    rw [Field.rewrite, Field.pieces, Field.pieces, hq]
    exact FieldTerm.pieces_rewrite sc _ term

theorem Field.piecesAll_rewrite (sc : Scope) :
    ∀ fields : List Field, Field.piecesAll sc (Field.rewriteAll f fields) =
      (Field.piecesAll sc fields).map (List.map (Pieces.rewrite f))
  | [] => rfl
  | field :: rest => by
    rw [Field.rewriteAll, Field.piecesAll, Field.piecesAll, Field.pieces_rewrite sc field,
      Field.piecesAll_rewrite sc rest]
    exact return_map_cons _ _ _

theorem Predicate.piecesOption_rewrite :
    ∀ p : Option Predicate, Predicate.piecesOption (Predicate.rewriteOption f p) =
      (Predicate.piecesOption p).map (Option.map (Pieces.rewrite f))
  | none => rfl
  | some p => by
    rw [Predicate.rewriteOption, Predicate.piecesOption, Predicate.piecesOption, Predicate.pieces_rewrite p]
    cases p.pieces <;> rfl

theorem Select.pieces_rewrite : ∀ s : Select, (s.rewrite f).pieces = s.pieces.map (Pieces.rewrite f)
  | ⟨tables, fields, joins, conditions, groupBy, having, orderBy, limit, fault⟩ => by
    have hs := Select.scope_rewrite (f := f) ⟨tables, fields, joins, conditions, groupBy, having, orderBy, limit, fault⟩
    rw [Select.rewrite] at hs ⊢
    rw [Select.pieces, Select.pieces]
    dsimp only
    rw [hs, WhereClause.fault_rewrite, JoinList.fault_rewrite, Field.piecesAll_rewrite _ fields,
      TableRef.piecesAll_rewrite tables, JoinList.pieces_rewrite joins, WhereClause.pieces_rewrite conditions,
      Predicate.piecesOption_rewrite having]
    cases refuse (fault <|> conditions.fault <|> joins.fault) with
    | error e => rfl
    | ok _ =>
    cases tables with
    | nil => rfl
    | cons t ts =>
    cases Field.piecesAll _ fields with
    | error e => rfl
    | ok fieldRows =>
    cases TableRef.piecesAll (t :: ts) with
    | error e => rfl
    | ok tableRows =>
    cases joins.pieces with
    | error e => rfl
    | ok joinRows =>
    cases conditions.pieces with
    | error e => rfl
    | ok wherePieces =>
    refine return_map (fun havingPieces => ?_) _
    cases fields <;>
      simp only [Field.rewriteAll, List.isEmpty_nil, List.isEmpty_cons, if_true, if_false, Bool.false_eq_true,
        Pieces.rewrite_append, Pieces.rewrite_cons, Pieces.rewrite_nil, Piece.rewrite_sql, Scope.rewrite_everything,
        Pieces.rewrite_join, Pieces.rewrite_joined, Pieces.rewrite_clause, Pieces.rewrite_toList,
        Scope.rewrite_groupPieces, Scope.rewrite_orderPieces]

end

/-! ## Statements that change tables -/

theorem Value.pieceRows_rewrite :
    ∀ rows : List (List Value), Value.pieceRows (rows.map (Value.rewriteAll f)) =
      (Value.pieceRows rows).map (List.map (Pieces.rewrite f))
  | [] => rfl
  | row :: rest => by
    rw [List.map_cons, Value.pieceRows, Value.pieceRows, Value.piecesAll_rewrite row, Value.pieceRows_rewrite rest]
    cases Value.piecesAll row with
    | error e => rfl
    | ok ps => exact return_map (fun groups => by simp) _

theorem Insert.pieces_rewrite (s : Insert) : (s.rewrite f).pieces = s.pieces.map (Pieces.rewrite f) := by
  have hr : (s.rows.map (Value.rewriteAll f)).isEmpty = s.rows.isEmpty := by cases s.rows <;> rfl
  unfold Insert.pieces Insert.rewrite
  dsimp only
  rw [hr, Value.pieceRows_rewrite]
  cases refuse s.fault with
  | error e => rfl
  | ok _ =>
    cases s.rows.isEmpty with
    | true => rfl
    | false =>
      refine return_map (fun groups => ?_) _
      cases s.onDuplicate <;> simp [Function.comp_def]

theorem Assignment.pieces_rewrite (a : Assignment) : (a.rewrite f).pieces = a.pieces.map (Pieces.rewrite f) := by
  cases a with
  | value v => exact v.pieces_rewrite
  | raw sql => rfl

theorem Assignment.piecesAll_rewrite :
    ∀ fields : List (String × Assignment),
      Assignment.piecesAll (fields.map fun (column, a) => (column, a.rewrite f)) =
        (Assignment.piecesAll fields).map (List.map (Pieces.rewrite f))
  | [] => rfl
  | (column, a) :: rest => by
    rw [List.map_cons, Assignment.piecesAll, Assignment.piecesAll, a.pieces_rewrite, Assignment.piecesAll_rewrite rest]
    cases a.pieces with
    | error e => rfl
    | ok ps =>
      refine return_map (fun rows => ?_) _
      rfl

theorem Update.pieces_rewrite (s : Update) : (s.rewrite f).pieces = s.pieces.map (Pieces.rewrite f) := by
  have hf : (s.rewrite f).firstFault = s.firstFault := by simp [Update.rewrite, Update.firstFault]
  have he : (s.rewrite f).fields.isEmpty = s.fields.isEmpty := by
    unfold Update.rewrite
    cases s.fields <;> rfl
  rw [Update.pieces, Update.pieces, hf, he]
  unfold Update.rewrite
  dsimp only
  rw [Assignment.piecesAll_rewrite, JoinList.pieces_rewrite, WhereClause.pieces_rewrite]
  cases refuse s.firstFault with
  | error e => rfl
  | ok _ =>
  cases s.table with
  | none => rfl
  | some table =>
  dsimp only [Option.map_some]
  rw [table.pieces_rewrite]
  cases s.fields.isEmpty with
  | true => rfl
  | false =>
  cases Assignment.piecesAll s.fields with
  | error e => rfl
  | ok sets =>
  cases table.pieces with
  | error e => rfl
  | ok tablePieces =>
  cases s.joins.pieces with
  | error e => rfl
  | ok joinRows =>
  refine return_map (fun wherePieces => ?_) _
  simp [Pieces.rewrite_toList]

theorem Delete.pieces_rewrite (s : Delete) : (s.rewrite f).pieces = s.pieces.map (Pieces.rewrite f) := by
  have hf : (s.rewrite f).firstFault = s.firstFault := by simp [Delete.rewrite, Delete.firstFault]
  rw [Delete.pieces, Delete.pieces, hf]
  unfold Delete.rewrite
  dsimp only
  rw [WhereClause.pieces_rewrite]
  cases refuse s.firstFault with
  | error e => rfl
  | ok _ =>
    cases s.truncates with
    | true => rfl
    | false =>
      refine return_map (fun wherePieces => ?_) _
      simp [Pieces.rewrite_toList]

/-- Rewriting a statement rewrites its pieces, and has no say in whether there are any. -/
theorem Statement.pieces_rewrite (s : Statement) : (s.rewrite f).pieces = s.pieces.map (Pieces.rewrite f) := by
  cases s with
  | select s => exact s.pieces_rewrite
  | insert s => exact s.pieces_rewrite
  | update s => exact s.pieces_rewrite
  | delete s => exact s.pieces_rewrite

end SqlComposer
