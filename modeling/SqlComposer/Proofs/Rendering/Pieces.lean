/-
  SqlComposer.Proofs.Rendering.Pieces — a statement's SQL before a dialect has written it.

  A statement is a row of pieces, in the order in which they are read: SQL that stands
  as it is, text values, identifiers and table names. A dialect says how one of the
  last three is written, and nothing else: neither which pieces there are nor whether
  there are any depends on it (`Statement.render_eq` in `Rendering.Writing`).
-/

import SqlComposer.Proofs.Succeeding
import SqlComposer.Render

namespace SqlComposer

/-! ## Pieces -/

inductive Piece where
  /-- SQL that every dialect writes alike. -/
  | sql (s : String)
  /-- The content of a text value. -/
  | text (s : String)
  | ident (i : Ident)
  | table (name : String)
  deriving DecidableEq, Repr

def Piece.write (d : Dialect) : Piece → String
  | .sql s => s
  | .text s => d.quoteLiteral s
  | .ident i => d.quoteIdent i
  | .table name => d.quoteTable name

abbrev Pieces := List Piece

namespace Pieces

def write (d : Dialect) (ps : Pieces) : String := String.join (ps.map (·.write d))

def enclosed (ps : Pieces) : Pieces := .sql "(" :: ps ++ [.sql ")"]

def labelled (ps : Pieces) : Option String → Pieces
  | some name => ps ++ [.sql " AS ", .sql name]
  | none => ps

/-- An identifier behind its qualifier, if it has one. -/
def qualified (i : Ident) : Option String → Pieces
  | some q => [.sql q, .sql ".", .ident i]
  | none => [.ident i]

/-- The rows put together with `separator` between them. -/
def join (separator : String) : List Pieces → Pieces
  | [] => []
  | [ps] => ps
  | ps :: qs :: rest => ps ++ .sql separator :: join separator (qs :: rest)

/-- A template with the rows in the place of its question marks, from the left. -/
def fill : List Char → List Pieces → Pieces
  | [], _ => []
  | '?' :: cs, ps :: rest => ps ++ fill cs rest
  | c :: cs, rows => .sql c.toString :: fill cs rows

def clause (keyword : String) (terms : List Pieces) : Pieces :=
  if terms.isEmpty then [] else .sql " " :: .sql keyword :: .sql " " :: join ", " terms

/-- The joins of a statement, a space in front of each. -/
def joined (rows : List Pieces) : Pieces := rows.flatMap (.sql " " :: ·)

theorem mem_join {separator : String} {rows : List Pieces} {row : Pieces} (hrow : row ∈ rows) {p : Piece}
    (hp : p ∈ row) : p ∈ join separator rows := by
  fun_induction join separator rows with
  | case1 => cases hrow
  | case2 ps =>
    obtain rfl := List.mem_singleton.mp hrow
    exact hp
  | case3 ps qs rest ih =>
    rcases List.mem_cons.mp hrow with rfl | hrow
    · exact List.mem_append_left _ hp
    · exact List.mem_append_right _ (List.mem_cons_of_mem _ (ih hrow))

variable (d : Dialect)

@[simp] theorem write_nil : write d [] = "" := by simp [write]
@[simp] theorem write_cons (p : Piece) (ps : Pieces) : write d (p :: ps) = p.write d ++ write d ps := by simp [write]
@[simp] theorem write_append (ps qs : Pieces) : write d (ps ++ qs) = write d ps ++ write d qs := by simp [write]

@[simp] theorem write_enclosed (ps : Pieces) : write d ps.enclosed = "(" ++ write d ps ++ ")" := by
  simp [enclosed, Piece.write, String.append_assoc]

@[simp] theorem write_labelled (ps : Pieces) (name : Option String) :
    write d (ps.labelled name) = withAlias (write d ps) name := by
  cases name <;> simp [labelled, withAlias, Piece.write, String.append_assoc]

@[simp] theorem write_join (separator : String) (rows : List Pieces) :
    write d (join separator rows) = Text.join separator (rows.map (write d)) := by
  induction rows with
  | nil => simp [join, Text.join]
  | cons ps rows ih =>
    cases rows with
    | nil => simp [join, Text.join]
    | cons qs rest =>
      simp only [join, write_append, write_cons, ih, Piece.write, Text.join, List.map_cons,
        String.intercalate_cons_cons, String.append_assoc]

@[simp] theorem write_clause (keyword : String) (terms : List Pieces) :
    write d (clause keyword terms) = SqlComposer.clause keyword (terms.map (write d)) := by
  cases terms <;> simp [clause, SqlComposer.clause, Piece.write, String.append_assoc]

theorem write_fill (cs : List Char) (rows : List Pieces) :
    write d (fill cs rows) = String.ofList (Chars.fill cs (rows.map (write d))) := by
  fun_induction fill cs rows with
  | case1 => simp [Chars.fill]
  | case2 cs ps rest ih => simp [Chars.fill, ih, String.ofList_append]
  | case3 c cs rows hc ih =>
    have hf : Chars.fill (c :: cs) (rows.map (write d)) = c :: Chars.fill cs (rows.map (write d)) := by
      cases rows with
      | nil => simp [Chars.fill]
      | cons ps rest =>
        have hne : c ≠ '?' := fun he => by simp [he] at hc
        simp [Chars.fill, hne]
    rw [hf, write_cons, ih]
    simp [Piece.write, Char.toString]

theorem write_toList (o : Option Pieces) : o.toList.map (write d) = (o.map (write d)).toList := by
  cases o <;> rfl

end Pieces

/-! ## Columns -/

namespace Scope

def columnPieces (sc : Scope) (qualifier : Option String) (name : String) : Pieces :=
  let ident := Ident.parse name
  match ident.parts with
  | first :: second :: rest =>
    if sc.aliases.contains first then
      [.sql first, .sql ".", .ident (Ident.parse (Text.join "." (second :: rest)))]
    else .qualified ident qualifier
  | _ => .qualified ident qualifier

def groupPieces (sc : Scope) (term : String) : Pieces :=
  if term.toList.all Char.isDigit || Text.hasCall term then [.sql term] else sc.columnPieces none term

def orderPieces (sc : Scope) (term : String × Order) : Pieces :=
  (if Text.hasCall term.1 then [.sql term.1] else sc.columnPieces none term.1) ++ [.sql " ", .sql term.2.keyword]

/-- What a SELECT without fields projects. -/
def everything (sc : Scope) : Pieces :=
  match sc.leading with
  | some a => [.sql a, .sql ".*"]
  | none => [.sql "*"]

variable (sc : Scope) (d : Dialect)

theorem write_columnPieces (qualifier : Option String) (name : String) :
    (sc.columnPieces qualifier name).write d = sc.column d qualifier name := by
  have hq : ∀ i : Ident, (Pieces.qualified i qualifier).write d = column.qualified qualifier (d.quoteIdent i) := by
    intro i
    cases qualifier <;> simp [Pieces.qualified, column.qualified, Piece.write, String.append_assoc]
  rcases hp : (Ident.parse name).parts with _ | ⟨first, _ | ⟨second, rest⟩⟩
  · simp only [columnPieces, column, hp, hq]
  · simp only [columnPieces, column, hp, hq]
  · simp only [columnPieces, column, hp]
    split
    · simp [Piece.write, String.append_assoc]
    · exact hq _

theorem write_groupPieces (term : String) : (sc.groupPieces term).write d = sc.groupTerm d term := by
  unfold groupPieces groupTerm
  split
  · simp [Piece.write]
  · exact sc.write_columnPieces d none term

theorem write_orderPieces (term : String × Order) : (sc.orderPieces term).write d = sc.orderTerm d term := by
  unfold orderPieces orderTerm
  split
  · simp [Piece.write, String.append_assoc]
  · simp [Piece.write, String.append_assoc, sc.write_columnPieces d none term.1]

theorem write_groupPieces_map (terms : List String) :
    (terms.map sc.groupPieces).map (Pieces.write d) = terms.map (sc.groupTerm d) := by
  simp [sc.write_groupPieces]

theorem write_orderPieces_map (terms : List (String × Order)) :
    (terms.map sc.orderPieces).map (Pieces.write d) = terms.map (sc.orderTerm d) := by
  simp [sc.write_orderPieces]

theorem write_everything :
    sc.everything.write d = match sc.leading with
      | some a => a ++ ".*"
      | none => "*" := by
  unfold everything
  cases sc.leading <;> simp [Piece.write]

end Scope

namespace Operand

def columnPieces (qualifier : Option String) (name : String) : Pieces :=
  let ident := Ident.parse name
  if ident.isStar then [.sql "*"]
  else
    match qualifier, ident.parts with
    | some q, [_] => [.sql q, .sql ".", .ident ident]
    | _, _ => [.ident ident]

theorem write_columnPieces (d : Dialect) (qualifier : Option String) (name : String) :
    (columnPieces qualifier name).write d = columnSql d qualifier name := by
  unfold columnPieces columnSql
  dsimp only
  by_cases hs : (Ident.parse name).isStar = true
  · simp [hs, Piece.write]
  · rcases hp : (Ident.parse name).parts with _ | ⟨part, _ | ⟨next, rest⟩⟩ <;> cases qualifier <;>
      simp [hs, Piece.write, String.append_assoc]

end Operand

/-! ## The statement family -/

mutual

def Value.pieces : Value → Except Error Pieces
  | .null => .ok [.sql "NULL"]
  | .bool true => .ok [.sql "TRUE"]
  | .bool false => .ok [.sql "FALSE"]
  | .int n => .ok [.sql (toString n)]
  | .uint n => .ok [.sql (toString n)]
  | .float x => .ok [.sql ((Number.text? x).getD "NULL")]
  | .text s => .ok [.text s]
  | .expr e => e.pieces none
  | .select s => do
    let ps ← s.pieces
    return ps.enclosed

def Value.piecesAll : List Value → Except Error (List Pieces)
  | [] => .ok []
  | v :: rest => do
    let ps ← v.pieces
    let rows ← Value.piecesAll rest
    return ps :: rows

def Operand.pieces (qualifier : Option String) : Operand → Except Error Pieces
  | .column name => .ok (Operand.columnPieces qualifier name)
  | .value v => v.pieces
  | .raw sql => .ok [.sql sql]

def Operand.piecesAll (qualifier : Option String) : List Operand → Except Error (List Pieces)
  | [] => .ok []
  | o :: rest => do
    let ps ← o.pieces qualifier
    let rows ← Operand.piecesAll qualifier rest
    return ps :: rows

def ExpressionBody.pieces (qualifier : Option String) : ExpressionBody → Except Error Pieces
  | .literal sql => .ok [.sql sql]
  | .call function operands => do
    let args ← Operand.piecesAll qualifier operands
    return .sql function :: (Pieces.join ", " args).enclosed

def Expression.pieces (byDefault : Option String) : Expression → Except Error Pieces
  | ⟨body, label, qualifier⟩ => do
    let ps ← body.pieces (qualifier <|> byDefault)
    return ps.labelled label

def Predicate.pieces : Predicate → Except Error Pieces
  | ⟨template, values⟩ => do
    let rows ← Value.piecesAll values
    return .fill template.toList rows

def Condition.pieces (isFirst : Bool) : Condition → Except Error Pieces
  | .leaf conjunction p => do
    let ps ← p.pieces
    return .sql (if isFirst then "" else conjunction.joiner) :: ps.enclosed
  | .group conjunction members => do
    let ps ← Condition.piecesAll true members
    return .sql (if isFirst then "" else conjunction.joiner) :: ps.enclosed

def Condition.piecesAll (isFirst : Bool) : List Condition → Except Error Pieces
  | [] => .ok []
  | c :: rest => do
    let ps ← c.pieces isFirst
    let qs ← Condition.piecesAll false rest
    return ps ++ qs

def WhereClause.pieces : WhereClause → Except Error (Option Pieces)
  | ⟨conditions, opened, fault⟩ => do
    refuse fault
    refuseOpen opened
    let ps ← Condition.piecesAll true conditions
    return if conditions.isEmpty then none else some ps

def TableSource.pieces : TableSource → Except Error Pieces
  | .name name => .ok [.table name]
  | .select s => do
    let ps ← s.pieces
    return ps.enclosed
  | .expr e => do
    let ps ← e.pieces none
    return ps.enclosed

def TableRef.pieces : TableRef → Except Error Pieces
  | ⟨source, aliasName⟩ => do
    let ps ← source.pieces
    return ps.labelled aliasName

def TableRef.piecesAll : List TableRef → Except Error (List Pieces)
  | [] => .ok []
  | t :: rest => do
    let ps ← t.pieces
    let rows ← TableRef.piecesAll rest
    return ps :: rows

def Join.pieces : Join → Except Error Pieces
  | ⟨type, table, condition⟩ => do
    let ps ← table.pieces
    return .sql type.keyword :: .sql " " :: ps ++ (if condition.isEmpty then [] else [.sql " ON ", .sql condition])

def Join.piecesAll : List Join → Except Error (List Pieces)
  | [] => .ok []
  | j :: rest => do
    let ps ← j.pieces
    let rows ← Join.piecesAll rest
    return ps :: rows

def JoinList.pieces : JoinList → Except Error (List Pieces)
  | ⟨_, joins, fault⟩ => do
    refuse fault
    Join.piecesAll joins

def FieldTerm.pieces (sc : Scope) (qualifier : Option String) : FieldTerm → Except Error Pieces
  | .raw sql => .ok [.sql sql]
  | .expr e => e.pieces qualifier
  | .column name label => .ok ((sc.columnPieces qualifier name).labelled label)

def Field.pieces (sc : Scope) : Field → Except Error Pieces
  | ⟨qualifier, term⟩ => term.pieces sc (sc.qualifierOf ⟨qualifier, term⟩)

def Field.piecesAll (sc : Scope) : List Field → Except Error (List Pieces)
  | [] => .ok []
  | f :: rest => do
    let ps ← f.pieces sc
    let rows ← Field.piecesAll sc rest
    return ps :: rows

def Predicate.piecesOption : Option Predicate → Except Error (Option Pieces)
  | none => .ok none
  | some p => do
    let ps ← p.pieces
    return some ps

def Select.pieces : Select → Except Error Pieces
  | ⟨tables, fields, joins, conditions, groupBy, having, orderBy, limit, fault⟩ => do
    let sc := Select.scope ⟨tables, fields, joins, conditions, groupBy, having, orderBy, limit, fault⟩
    refuse (fault <|> conditions.fault <|> joins.fault)
    if tables.isEmpty then .error (.builder .selectNeedsTable)
    let fieldRows ← Field.piecesAll sc fields
    let tableRows ← TableRef.piecesAll tables
    let joinRows ← joins.pieces
    let wherePieces ← conditions.pieces
    let havingPieces ← Predicate.piecesOption having
    let projection :=
      if fields.isEmpty then sc.everything else Pieces.join ", " fieldRows
    return .sql "SELECT " :: projection ++ .sql " FROM " :: Pieces.join ", " tableRows ++
      Pieces.joined joinRows ++
      Pieces.clause "WHERE" wherePieces.toList ++
      Pieces.clause "GROUP BY" (groupBy.map sc.groupPieces) ++
      Pieces.clause "HAVING" havingPieces.toList ++
      Pieces.clause "ORDER BY" (orderBy.map sc.orderPieces) ++
      [.sql (limitClause limit)]

end

/-! ## Statements that change tables -/

def Value.pieceRows : List (List Value) → Except Error (List Pieces)
  | [] => .ok []
  | row :: rest => do
    let ps ← Value.piecesAll row
    let rows ← Value.pieceRows rest
    return (Pieces.join ", " ps).enclosed :: rows

def Insert.pieces (s : Insert) : Except Error Pieces := do
  refuse s.fault
  if s.rows.isEmpty then .error (.builder .insertNeedsRows)
  let groups ← Value.pieceRows s.rows
  let duplicate := match s.onDuplicate with
    | some sql => [.sql " ON DUPLICATE KEY UPDATE ", .sql sql]
    | none => []
  return .sql "INSERT INTO " :: .table s.table :: .sql " (" ::
    Pieces.join ", " (s.columns.map fun c => [.ident (Ident.parse c)]) ++
    .sql ") VALUES " :: Pieces.join ", " groups ++ duplicate

def Assignment.pieces : Assignment → Except Error Pieces
  | .value v => v.pieces
  | .raw sql => .ok [.sql sql]

def Assignment.piecesAll : List (String × Assignment) → Except Error (List Pieces)
  | [] => .ok []
  | (column, a) :: rest => do
    let ps ← a.pieces
    let rows ← Assignment.piecesAll rest
    return (.ident (Ident.parse column) :: .sql " = " :: ps) :: rows

def Update.pieces (s : Update) : Except Error Pieces := do
  refuse s.firstFault
  match s.table with
  | none => .error (.builder .updateNeedsTable)
  | some table =>
    if s.fields.isEmpty then .error (.builder .updateNeedsFields)
    let sets ← Assignment.piecesAll s.fields
    let tablePieces ← table.pieces
    let joinRows ← s.joins.pieces
    let wherePieces ← s.conditions.pieces
    return .sql "UPDATE " :: tablePieces ++ .sql " SET " :: Pieces.join ", " sets ++
      Pieces.joined joinRows ++ Pieces.clause "WHERE" wherePieces.toList

def Delete.pieces (s : Delete) : Except Error Pieces := do
  refuse s.firstFault
  if s.truncates then return [.sql "TRUNCATE ", .table s.table]
  else
    let wherePieces ← s.conditions.pieces
    return .sql "DELETE FROM " :: .table s.table :: Pieces.clause "WHERE" wherePieces.toList

def Statement.pieces : Statement → Except Error Pieces
  | .select s => s.pieces
  | .insert s => s.pieces
  | .update s => s.pieces
  | .delete s => s.pieces

/-! ## Statements that have pieces -/

theorem Insert.pieces_ok {s : Insert} {ps : Pieces} (h : s.pieces = .ok ps) :
    ∃ groups, Value.pieceRows s.rows = .ok groups ∧
      ps = .sql "INSERT INTO " :: .table s.table :: .sql " (" ::
        Pieces.join ", " (s.columns.map fun c => [.ident (Ident.parse c)]) ++
        .sql ") VALUES " :: Pieces.join ", " groups ++
        s.onDuplicate.elim [] fun sql => [.sql " ON DUPLICATE KEY UPDATE ", .sql sql] := by
  unfold Insert.pieces at h
  obtain ⟨_, -, h⟩ := bind_ok h
  cases hr : s.rows.isEmpty with
  | true =>
    rw [hr] at h
    cases h
  | false =>
    rw [hr] at h
    obtain ⟨groups, hgroups, h⟩ := bind_ok h
    refine ⟨groups, hgroups, ?_⟩
    rw [← Except.ok.inj h]
    cases s.onDuplicate <;> rfl

theorem Update.pieces_ok {s : Update} {ps : Pieces} (h : s.pieces = .ok ps) :
    ∃ table sets tablePieces joinRows wherePieces, s.table = some table ∧ Assignment.piecesAll s.fields = .ok sets ∧
      table.pieces = .ok tablePieces ∧ s.joins.pieces = .ok joinRows ∧ s.conditions.pieces = .ok wherePieces ∧
      ps = .sql "UPDATE " :: tablePieces ++ .sql " SET " :: Pieces.join ", " sets ++
        Pieces.joined joinRows ++ Pieces.clause "WHERE" wherePieces.toList := by
  unfold Update.pieces at h
  obtain ⟨_, -, h⟩ := bind_ok h
  split at h
  · cases h
  · next table htable =>
    split at h
    · cases h
    · obtain ⟨sets, hsets, h⟩ := bind_ok h
      obtain ⟨tablePieces, htablePieces, h⟩ := bind_ok h
      obtain ⟨joinRows, hjoins, h⟩ := bind_ok h
      obtain ⟨wherePieces, hwhere, h⟩ := bind_ok h
      exact ⟨table, sets, tablePieces, joinRows, wherePieces, htable, hsets, htablePieces, hjoins, hwhere,
        (Except.ok.inj h).symm⟩

end SqlComposer
