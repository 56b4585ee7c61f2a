/-
  SqlComposer.Proofs.Naming.Operands — the column operands of a field expression, at every
  depth.

  An expression may be a value, and so an operand of another expression. A SELECT gives
  its fields the alias of its first table as a default qualifier.

  Proved:
  (1) an expression is written as a row of stretches: SQL that stands as it is, and its
      column operands in their order, those of expressions in it included. Only the
      operands look at the default qualifier (`Expression.sketched`);
  (2) an operand of the field expression itself is written behind the alias, and one of an
      expression further in is not, for values are rendered without a qualifier
      (`Select.fieldExpr_columns`). So a field that nests expressions mixes columns with
      an alias and columns without one (`Select.render_nested_operands`).
-/

import SqlComposer.Compose.Select
import SqlComposer.Proofs.Succeeding
import SqlComposer.Render

namespace SqlComposer

/-! ## Column operands -/

/-- A column operand: how many expressions stand around the one it belongs to, the qualifier of that one, and its
text. -/
structure ColumnUse where
  depth : Nat
  own : Option String
  name : String
  deriving DecidableEq, Repr

namespace ColumnUse

def deeper (c : ColumnUse) : ColumnUse := { c with depth := c.depth + 1 }

/-- The default qualifier counts for the outermost expression, where that has none of its own. -/
def qualifier (byDefault : Option String) (c : ColumnUse) : Option String :=
  c.own <|> if c.depth = 0 then byDefault else none

def sql (d : Dialect) (byDefault : Option String) (c : ColumnUse) : String :=
  Operand.columnSql d (c.qualifier byDefault) c.name

theorem sql_deeper (d : Dialect) (byDefault : Option String) (c : ColumnUse) :
    c.deeper.sql d byDefault = c.sql d none := by
  simp [sql, qualifier, deeper]

end ColumnUse

mutual

/-- The column operands of an expression, in order; sub-selects are not looked into. -/
def Value.columns : Value → List ColumnUse
  | .expr e => e.columns
  | _ => []

def Operand.columns (own : Option String) : Operand → List ColumnUse
  | .column name => [⟨0, own, name⟩]
  | .value v => v.columns.map ColumnUse.deeper
  | .raw _ => []

def Operand.columnsAll (own : Option String) : List Operand → List ColumnUse
  | [] => []
  | o :: rest => o.columns own ++ Operand.columnsAll own rest

def ExpressionBody.columns (own : Option String) : ExpressionBody → List ColumnUse
  | .literal _ => []
  | .call _ operands => Operand.columnsAll own operands

def Expression.columns : Expression → List ColumnUse
  | ⟨body, _, own⟩ => body.columns own

end

/-! ## Stretches -/

inductive Stretch where
  | sql (text : String)
  | column (c : ColumnUse)

namespace Stretch

def write (d : Dialect) (byDefault : Option String) : Stretch → String
  | .sql text => text
  | .column c => c.sql d byDefault

def column? : Stretch → Option ColumnUse
  | .sql _ => none
  | .column c => some c

def deeper : Stretch → Stretch
  | .sql text => .sql text
  | .column c => .column c.deeper

end Stretch

/-- An expression before the default qualifier is known. -/
abbrev Sketch := List Stretch

namespace Sketch

def write (d : Dialect) (byDefault : Option String) (sk : Sketch) : String := String.join (sk.map (·.write d byDefault))

def columns (sk : Sketch) : List ColumnUse := sk.filterMap Stretch.column?

def deeper (sk : Sketch) : Sketch := sk.map Stretch.deeper

/-- The rows with commas between them. -/
def commas : List Sketch → Sketch
  | [] => []
  | [sk] => sk
  | sk :: next :: rest => sk ++ .sql ", " :: commas (next :: rest)

variable (d : Dialect) (byDefault : Option String)

@[simp] theorem write_nil : write d byDefault [] = "" := by simp [write]

@[simp] theorem write_cons (s : Stretch) (sk : Sketch) :
    write d byDefault (s :: sk) = s.write d byDefault ++ write d byDefault sk := by
  simp [write]

@[simp] theorem write_append (sk sk' : Sketch) :
    write d byDefault (sk ++ sk') = write d byDefault sk ++ write d byDefault sk' := by
  simp [write]

/-- Further in, the default qualifier is not known. -/
theorem write_deeper (sk : Sketch) : write d byDefault sk.deeper = write d none sk := by
  induction sk with
  | nil => simp [deeper]
  | cons s sk ih =>
    have hs : s.deeper.write d byDefault = s.write d none := by
      cases s with
      | sql text => rfl
      | column c => exact c.sql_deeper d byDefault
    rw [deeper, List.map_cons, write_cons, write_cons, hs]
    exact congrArg _ ih

theorem write_commas (rows : List Sketch) :
    write d byDefault (commas rows) = Text.join ", " (rows.map (write d byDefault)) := by
  induction rows with
  | nil => simp [commas, Text.join]
  | cons sk rows ih =>
    cases rows with
    | nil => simp [commas, Text.join]
    | cons next rest =>
      rw [commas, write_append, write_cons, ih]
      simp [Stretch.write, Text.join, String.intercalate_cons_cons, String.append_assoc]

@[simp] theorem columns_nil : columns [] = [] := rfl

@[simp] theorem columns_sql (text : String) (sk : Sketch) : columns (.sql text :: sk) = columns sk := rfl

@[simp] theorem columns_append (sk sk' : Sketch) : columns (sk ++ sk') = columns sk ++ columns sk' :=
  List.filterMap_append

theorem columns_deeper (sk : Sketch) : columns sk.deeper = sk.columns.map ColumnUse.deeper := by
  induction sk with
  | nil => rfl
  | cons s sk ih =>
    cases s with
    | sql text => exact ih
    | column c => exact congrArg (c.deeper :: ·) ih

theorem columns_commas (rows : List Sketch) : columns (commas rows) = rows.flatMap columns := by
  induction rows with
  | nil => rfl
  | cons sk rows ih =>
    cases rows with
    | nil => simp [commas]
    | cons next rest => rw [commas, columns_append, columns_sql, ih, ← List.flatMap_cons]

end Sketch

/-! ## Expressions follow their sketch -/

/-- Under every default qualifier one and the same fault, or one and the same row of stretches with these columns. -/
def Sketched (d : Dialect) (render : Option String → Except Error String) (columns : List ColumnUse) : Prop :=
  (∃ f, ∀ byDefault, render byDefault = .error f) ∨
    ∃ sk : Sketch, sk.columns = columns ∧ ∀ byDefault, render byDefault = .ok (sk.write d byDefault)

/-- The same for a list, whose stretches have these columns together. -/
def SketchedAll (d : Dialect) (render : Option String → Except Error (List String)) (columns : List ColumnUse) : Prop :=
  (∃ f, ∀ byDefault, render byDefault = .error f) ∨
    ∃ rows : List Sketch, rows.flatMap Sketch.columns = columns ∧
      ∀ byDefault, render byDefault = .ok (rows.map (Sketch.write d byDefault))

namespace Sketched

variable {d : Dialect} {render : Option String → Except Error String} {columns : List ColumnUse}

theorem const (x : Except Error String) : Sketched d (fun _ => x) [] := by
  cases x with
  | error f => exact .inl ⟨f, fun _ => rfl⟩
  | ok text => exact .inr ⟨[.sql text], rfl, fun _ => by simp [Stretch.write]⟩

/-- As a value an expression is rendered without a qualifier. -/
theorem nested (h : Sketched d render columns) : Sketched d (fun _ => render none) (columns.map ColumnUse.deeper) := by
  rcases h with ⟨f, hf⟩ | ⟨sk, hcolumns, hsk⟩
  · exact .inl ⟨f, fun _ => hf none⟩
  · refine .inr ⟨sk.deeper, ?_, ?_⟩
    · rw [sk.columns_deeper, hcolumns]
    · intro byDefault
      rw [sk.write_deeper, hsk none]

theorem labelled (h : Sketched d render columns) (label : Option String) :
    Sketched d (fun q => do let sql ← render q; return withAlias sql label) columns := by
  cases label with
  | none => simpa [withAlias] using h
  | some name =>
    rcases h with ⟨f, hf⟩ | ⟨sk, hcolumns, hsk⟩
    · exact .inl ⟨f, fun q => by dsimp only; rw [hf q]; rfl⟩
    · refine .inr ⟨sk ++ [.sql " AS ", .sql name], by simpa using hcolumns, ?_⟩
      intro q
      dsimp only
      rw [hsk q]
      simp [withAlias, Stretch.write, bind, Except.bind, pure, Except.pure, String.append_assoc]

/-- The first of a list, and the others. -/
theorem cons {rest : Option String → Except Error (List String)} {others : List ColumnUse}
    (h : Sketched d render columns) (hrest : SketchedAll d rest others) :
    SketchedAll d (fun q => do let sql ← render q; let sqls ← rest q; return sql :: sqls) (columns ++ others) := by
  rcases h with ⟨f, hf⟩ | ⟨sk, hcolumns, hsk⟩
  · exact .inl ⟨f, fun q => by dsimp only; rw [hf q]; rfl⟩
  · rcases hrest with ⟨f, hf⟩ | ⟨rows, hothers, hrows⟩
    · exact .inl ⟨f, fun q => by dsimp only; rw [hsk q, hf q]; rfl⟩
    · refine .inr ⟨sk :: rows, ?_, ?_⟩
      · rw [List.flatMap_cons, hcolumns, hothers]
      · intro q
        dsimp only
        rw [hsk q, hrows q]
        rfl

end Sketched

theorem SketchedAll.call {d : Dialect} {render : Option String → Except Error (List String)} {columns : List ColumnUse}
    (h : SketchedAll d render columns) (function : String) :
    Sketched d (fun q => do let args ← render q; return function ++ "(" ++ Text.join ", " args ++ ")") columns := by
  rcases h with ⟨f, hf⟩ | ⟨rows, hcolumns, hrows⟩
  · exact .inl ⟨f, fun q => by dsimp only; rw [hf q]; rfl⟩
  · refine .inr ⟨.sql function :: .sql "(" :: (Sketch.commas rows ++ [.sql ")"]), ?_, ?_⟩
    · simpa [Sketch.columns_commas] using hcolumns
    · intro q
      dsimp only
      rw [hrows q]
      simp [Sketch.write_commas, Stretch.write, bind, Except.bind, pure, Except.pure, String.append_assoc]

mutual

theorem Value.sketched (d : Dialect) : ∀ v : Value, Sketched d (fun _ => v.render d) (v.columns.map ColumnUse.deeper)
  | .expr e => by
    have h := (Expression.sketched d e).nested
    simpa only [Value.render, Value.columns] using h
  | .null => Sketched.const _
  | .bool _ => Sketched.const _
  | .int _ => Sketched.const _
  | .uint _ => Sketched.const _
  | .float _ => Sketched.const _
  | .text _ => Sketched.const _
  | .select _ => Sketched.const _

theorem Operand.sketched (d : Dialect) (own : Option String) :
    ∀ o : Operand, Sketched d (fun q => o.render d (own <|> q)) (o.columns own)
  | .column name => .inr ⟨[.column ⟨0, own, name⟩], rfl, fun q => by
      simp [Operand.render, Stretch.write, ColumnUse.sql, ColumnUse.qualifier]⟩
  | .value v => by
    have h := Value.sketched d v
    simpa only [Operand.render, Operand.columns] using h
  | .raw sql => Sketched.const _

theorem Operand.sketchedAll (d : Dialect) (own : Option String) :
    ∀ os : List Operand, SketchedAll d (fun q => Operand.renderAll d (own <|> q) os) (Operand.columnsAll own os)
  | [] => .inr ⟨[], rfl, fun _ => rfl⟩
  | o :: rest => by
    have h := (Operand.sketched d own o).cons (Operand.sketchedAll d own rest)
    simpa only [Operand.renderAll, Operand.columnsAll] using h

theorem ExpressionBody.sketched (d : Dialect) (own : Option String) :
    ∀ b : ExpressionBody, Sketched d (fun q => b.render d (own <|> q)) (b.columns own)
  | .literal _ => Sketched.const _
  | .call function operands => by
    have h := (Operand.sketchedAll d own operands).call function
    simpa only [ExpressionBody.render, ExpressionBody.columns] using h

theorem Expression.sketched (d : Dialect) : ∀ e : Expression, Sketched d (fun q => e.render d q) e.columns
  | ⟨body, label, own⟩ => by
    have h := (ExpressionBody.sketched d own body).labelled label
    simpa only [Expression.render, Expression.columns] using h

end

/-! ## One named column -/

/-- A name of one segment that is no star, quoted behind the qualifier. -/
theorem Operand.columnSql_named (d : Dialect) (qualifier : Option String) {name n : String}
    (hname : (Ident.parse name).parts = [n]) (hn : n ≠ "*") :
    columnSql d qualifier name = match qualifier with
      | some q => q ++ "." ++ d.quoteIdentifier name
      | none => d.quoteIdentifier name := by
  have hstar : (Ident.parse name).isStar = false := by simp [Ident.isStar, hname, hn]
  unfold columnSql
  dsimp only
  rw [hstar, hname]
  cases qualifier <;> rfl

/-! ## Fields of a SELECT -/

theorem Field.renderAll_concat {d : Dialect} {sc : Scope} {f : Field} {sql : String} (h : f.render d sc = .ok sql)
    (fs : List Field) : Field.renderAll d sc (fs ++ [f]) = (Field.renderAll d sc fs).map (· ++ [sql]) := by
  induction fs with
  | nil =>
    simp only [List.nil_append, Field.renderAll, h]
    rfl
  | cons g rest ih =>
    rw [List.cons_append, Field.renderAll, Field.renderAll, ih]
    cases g.render d sc with
    | error e => rfl
    | ok sql' => cases Field.renderAll d sc rest <;> rfl

namespace Select

/-- Under an alias a field expression whose parts have no qualifiers of their own is written with its column operands in
their places: a name is behind the alias where it belongs to the field expression itself, and stands alone where it
belongs to an expression further in. Only a fault in a sub-select keeps the field from being written. -/
theorem fieldExpr_columns (e : Expression) (d : Dialect) (hplain : ∀ c ∈ e.columns, c.own = none) :
    (∃ f, ∀ s : Select, Field.render d s.scope ⟨none, .expr e⟩ = .error f) ∨
      ∃ sk : Sketch, sk.columns = e.columns ∧
        ∀ (s : Select) (first : TableRef) (rest : List TableRef) (a : String),
          s.tables = first :: rest → first.aliasName = some a →
          Field.renderAll d (s.fieldExpr e).scope (s.fieldExpr e).fields =
              (Field.renderAll d s.scope s.fields).map (· ++ [sk.write d (some a)]) ∧
            ∀ c ∈ e.columns, ∀ n, (Ident.parse c.name).parts = [n] → n ≠ "*" →
              (c.depth = 0 → c.sql d (some a) = a ++ "." ++ d.quoteIdentifier c.name) ∧
              (0 < c.depth → c.sql d (some a) = d.quoteIdentifier c.name ∧
                c.sql d (some a) ≠ a ++ "." ++ d.quoteIdentifier c.name) := by
  have hfield (s : Select) : Field.render d s.scope ⟨none, .expr e⟩ = e.render d s.scope.leading := by
    simp [Field.render, FieldTerm.render, Scope.qualifierOf]
  rcases e.sketched d with ⟨f, hf⟩ | ⟨sk, hcolumns, hsk⟩
  · left
    refine ⟨f, fun s => ?_⟩
    rw [hfield s]
    exact hf _
  · right
    refine ⟨sk, hcolumns, ?_⟩
    intro s first rest a htables halias
    have hleading : s.scope.leading = some a := by simp [scope, htables, halias]
    constructor
    · have hwritten : Field.render d s.scope ⟨none, .expr e⟩ = .ok (sk.write d (some a)) := by
        rw [hfield s, hleading]
        exact hsk _
      exact Field.renderAll_concat hwritten s.fields
    · intro c hc n hname hn
      have hown : c.own = none := hplain c hc
      constructor
      · intro hdepth
        rw [ColumnUse.sql, Operand.columnSql_named d _ hname hn, ColumnUse.qualifier, hown, if_pos hdepth]
        rfl
      · intro hdepth
        have hbare : c.sql d (some a) = d.quoteIdentifier c.name := by
          rw [ColumnUse.sql, Operand.columnSql_named d _ hname hn, ColumnUse.qualifier, hown, if_neg (by omega)]
          rfl
        refine ⟨hbare, ?_⟩
        rw [hbare]
        intro he
        have hlength := congrArg String.length he
        simp only [String.length_append] at hlength
        have hdot : ".".length = 1 := rfl
        omega

/-- A sum of one column over a nested expression of another. -/
theorem fieldExpr_columns_of_sum :
    let e := ((Expression.call "sum").column "total").operand (.value (.expr (.ofColumn "abs" "\x60due\x60")))
    let s := empty.table "orders o, users"
    e.columns = [⟨0, none, "total"⟩, ⟨1, none, "\x60due\x60"⟩] ∧ (∀ c ∈ e.columns, c.own = none) ∧
      s.scope.leading = some "o" ∧
      ColumnUse.sql (.offline .mysql) (some "o") ⟨0, none, "total"⟩ = "o" ++ "." ++ "\x60total\x60" ∧
      ColumnUse.sql (.offline .mysql) (some "o") ⟨1, none, "\x60due\x60"⟩ = "\x60due\x60" := by
  intro e s
  have columns : e.columns = [⟨0, none, "total"⟩, ⟨1, none, "\x60due\x60"⟩] := rfl
  have plain : ∀ c ∈ e.columns, c.own = none := by simp [columns]
  have tables : ∃ rest, s.tables = ⟨.name "orders", some "o"⟩ :: rest := ⟨_, rfl⟩
  obtain ⟨rest, tables⟩ := tables
  rcases fieldExpr_columns e (.offline .mysql) plain with ⟨f, hf⟩ | ⟨sk, -, written⟩
  · have hs := hf s
    cases hs
  · obtain ⟨-, spelled⟩ := written s _ rest "o" tables rfl
    refine ⟨columns, plain, by decide, ?_, ?_⟩
    · exact (spelled ⟨0, none, "total"⟩ (by simp [columns]) "total" (by decide) (by decide)).1 rfl
    · exact ((spelled ⟨1, none, "\x60due\x60"⟩ (by simp [columns]) "due" (by decide) (by decide)).2 (by decide)).1

/-- The inner column is left without the alias that the outer one has. -/
theorem render_nested_operands :
    let e := (((Expression.call "coalesce").column "discount").operand (.value (.expr (.ofColumn "max" "total"))))
    let s := (empty.table "orders o, users u").fieldExpr e
    e.columns = [⟨0, none, "discount"⟩, ⟨1, none, "total"⟩] ∧ s.scope.leading = some "o" ∧
      (s.render (.offline .mysql)).toOption = some
        "SELECT COALESCE(o.\x60discount\x60, MAX(\x60total\x60)) FROM \x60orders\x60 AS o, \x60users\x60 AS u" := by
  intro e s
  refine ⟨rfl, by decide, ?_⟩
  decide +kernel +revert

end Select

end SqlComposer
