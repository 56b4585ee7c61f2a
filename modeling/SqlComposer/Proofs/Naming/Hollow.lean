/-
  SqlComposer.Proofs.Naming.Hollow — names that have no segments.

  Reading a name removes quotes and drops empty segments, so a text of blanks, dots and
  quotes names nothing, and is written as nothing. Statements check the text that they
  are begun with before it is read, and refuse it when it is all blanks.

  Proved:
  (1) a column, and a table whatever its hook is, is written as nothing exactly when its
      text is hollow (`Dialect.quoteIdentifier_eq_empty`, `Dialect.quoteTable_eq_empty`);
  (2) a statement begun with a blank text is refused for good (`Statement.render_of_blank`);
  (3) so in a rendered statement hollow texts alone are written as nothing, and the text
      it was begun with is not blank (`Statement.empty_identifiers`). It may be hollow all
      the same (`Statement.render_of_hollow`), and the columns of an INSERT or an UPDATE
      are not checked at all (`Statement.render_nameless`).
-/

import SqlComposer.Proofs.Composing.Faults
import SqlComposer.Proofs.Naming.Segments
import SqlComposer.Proofs.Rendering.Writing
import SqlComposer.Proofs.Succeeding

namespace SqlComposer

/-! ## Hollow texts -/

namespace Ident

/-- Nothing but blanks, dots and quotes. -/
def isHollow (name : String) : Bool := name.toList.all fun c => isBlank c || c == '.' || isQuote c

theorem segments_eq_nil {cs : List Char} :
    segments cs = [] ↔ ∀ c ∈ cs, isBlank c = true ∨ c = '.' ∨ isQuote c = true := by
  induction cs using dot_induction with
  | plain cs hdot =>
    have hnone : segments cs = [] ↔ Chars.trim (cs.filter (!isQuote ·)) = [] := by
      rw [segments_of_plain hdot]
      simp
    rw [hnone, Chars.trim_eq_nil]
    refine forall_congr' fun c => ?_
    have hc : c ∈ cs → c ≠ '.' := fun hmem he => hdot (he ▸ hmem)
    cases hq : isQuote c <;> simp +contextual [hq, hc]
  | dot xs ys hxs hys =>
    rw [segments_append_dot, List.append_eq_nil_iff, hxs, hys, List.forall_mem_append, List.forall_mem_cons]
    simp

theorem parts_eq_nil {name : String} : (parse name).parts = [] ↔ isHollow name = true := by
  rw [parse, List.map_eq_nil_iff, segments_eq_nil]
  simp [isHollow, or_assoc]

theorem toSql_eq_empty {quote : Char} {i : Ident} : i.toSql quote = "" ↔ i.parts = [] := by
  obtain ⟨parts⟩ := i
  have hpart (part : String) : partSql quote part ≠ "" := by
    unfold partSql
    split <;> simp [Char.toString]
  cases parts with
  | nil => simp [toSql, Text.join]
  | cons part rest =>
    refine iff_of_false ?_ (by simp)
    cases rest <;> simp [toSql, Text.join, String.intercalate_cons_cons, hpart]

end Ident

namespace Dialect

variable (d : Dialect) {name : String}

theorem quoteIdentifier_eq_empty : d.quoteIdentifier name = "" ↔ Ident.isHollow name = true :=
  Ident.toSql_eq_empty.trans Ident.parts_eq_nil

/-- Whatever the hook makes of the last segment. -/
theorem quoteTable_eq_empty : d.quoteTable name = "" ↔ Ident.isHollow name = true := by
  rw [quoteTable, quoteIdent, Ident.toSql_eq_empty, Ident.mapLast, Ident.mapLastPart_eq_nil, Ident.parts_eq_nil]

end Dialect

/-! ## Identifiers of a statement -/

/-- The columns an INSERT fills, or an UPDATE sets. -/
def Statement.columns : Statement → List String
  | .insert s => s.columns
  | .update s => s.fields.map (·.1)
  | .select _ | .delete _ => []

theorem Insert.column_mem_pieces {s : Insert} {ps : Pieces} (h : s.pieces = .ok ps) {column : String}
    (hc : column ∈ s.columns) : .ident (Ident.parse column) ∈ ps := by
  obtain ⟨groups, -, rfl⟩ := Insert.pieces_ok h
  have hjoined : .ident (Ident.parse column) ∈ Pieces.join ", " (s.columns.map fun c => [.ident (Ident.parse c)]) :=
    Pieces.mem_join (List.mem_map_of_mem hc) List.mem_cons_self
  simp [hjoined]

theorem Assignment.column_mem_pieces {fields : List (String × Assignment)} {rows : List Pieces}
    (h : Assignment.piecesAll fields = .ok rows) {field : String × Assignment} (hf : field ∈ fields) :
    ∃ row ∈ rows, .ident (Ident.parse field.1) ∈ row := by
  induction fields generalizing rows with
  | nil => cases hf
  | cons first rest ih =>
    obtain ⟨ps, -, h⟩ := bind_ok h
    obtain ⟨others, hothers, h⟩ := bind_ok h
    obtain rfl := Except.ok.inj h
    rcases List.mem_cons.mp hf with rfl | hf
    · exact ⟨_, List.mem_cons_self, List.mem_cons_self⟩
    · obtain ⟨row, hrow, hident⟩ := ih hothers hf
      exact ⟨row, List.mem_cons_of_mem _ hrow, hident⟩

theorem Update.column_mem_pieces {s : Update} {ps : Pieces} (h : s.pieces = .ok ps) {field : String × Assignment}
    (hf : field ∈ s.fields) : .ident (Ident.parse field.1) ∈ ps := by
  obtain ⟨table, sets, tablePieces, joinRows, wherePieces, -, hsets, -, -, -, rfl⟩ := Update.pieces_ok h
  obtain ⟨row, hrow, hident⟩ := Assignment.column_mem_pieces hsets hf
  have hjoined : .ident (Ident.parse field.1) ∈ Pieces.join ", " sets := Pieces.mem_join hrow hident
  simp [hjoined]

namespace Statement

theorem column_mem_pieces {s : Statement} {ps : Pieces} (h : s.pieces = .ok ps) {column : String}
    (hc : column ∈ s.columns) : .ident (Ident.parse column) ∈ ps := by
  cases s with
  | select s => cases hc
  | delete s => cases hc
  | insert s => exact Insert.column_mem_pieces h hc
  | update s =>
    obtain ⟨field, hf, rfl⟩ := List.mem_map.mp hc
    exact Update.column_mem_pieces h hf

/-! ## Texts that name nothing -/

theorem fault_of_blank (kind : StatementKind) {spec : String} (h : Text.isBlank spec = true) :
    ∃ f, (start kind spec).slot .own = some f := by
  have htrim : Chars.trim spec.toList = [] := List.isEmpty_iff.mp h
  have hempty : (Text.trim spec).isEmpty = true := by simp [Text.trim, htrim]
  cases kind with
  | select =>
    show ∃ f, (Select.empty.table spec).fault = some f
    rw [Select.table, Text.commaList_of_blank h]
    exact ⟨_, rfl⟩
  | insert =>
    show ∃ f, (Insert.into spec).fault = some f
    rw [Insert.into, hempty]
    exact ⟨_, rfl⟩
  | update =>
    show ∃ f, (Update.of spec).fault = some f
    rw [Update.of, TableRef.parse, htrim]
    exact ⟨_, rfl⟩
  | delete =>
    show ∃ f, (Delete.start false spec).fault = some f
    rw [Delete.start, hempty]
    exact ⟨_, rfl⟩
  | truncate =>
    show ∃ f, (Delete.start true spec).fault = some f
    rw [Delete.start, hempty]
    exact ⟨_, rfl⟩

/-- A statement begun with a blank text is never rendered, whatever calls follow. -/
theorem render_of_blank (kind : StatementKind) {spec : String} (h : Text.isBlank spec = true)
    (calls : List StatementCall) : ∃ f, ∀ d, ((start kind spec).applyAll calls).render d = .error (.builder f) := by
  obtain ⟨f, hf⟩ := fault_of_blank kind h
  have hkept := (start kind spec).kept_applyAll calls .own f hf
  exact ⟨f, render_of_fault (firstFault_of_slot hkept)⟩

/-- Only a blank text is refused: where it holds a dot or a quote, nothing is named and no fault is recorded. -/
theorem render_of_hollow {spec : String} (hhollow : Ident.isHollow spec = true) (hblank : Text.isBlank spec = false)
    (d : Dialect) :
    (start .delete spec).render d = .ok "DELETE FROM " ∧ (start .truncate spec).render d = .ok "TRUNCATE " := by
  have hname : (Text.trim spec).isEmpty = false := by
    rw [String.isEmpty_eq_false_iff]
    intro he
    have hnil : Chars.trim spec.toList = [] := by simpa [Text.trim] using he
    rw [Text.isBlank, hnil] at hblank
    cases hblank
  have htable : d.quoteTable (Text.trim spec) = "" := by
    rw [Dialect.quoteTable, Ident.parse_trim]
    exact d.quoteTable_eq_empty.mpr hhollow
  constructor
  · show (Delete.start false spec).render d = _
    rw [Delete.start, hname]
    simp only [Delete.render, Delete.firstFault, WhereClause.empty, WhereClause.render, htable]
    rfl
  · show (Delete.start true spec).render d = _
    rw [Delete.start, hname]
    simp only [Delete.render, Delete.firstFault, WhereClause.empty, htable]
    rfl

/-- What is written as nothing in a rendered statement: a table, at any depth, and a column of an INSERT or an UPDATE
whose text is all blanks, dots and quotes. The text that the statement was begun with is not all blanks. -/
theorem empty_identifiers (s : Statement) (d : Dialect) {sql : String} (h : s.render d = .ok sql) :
    ∃ ps, s.pieces = .ok ps ∧ ps.write d = sql ∧
      (∀ name, .table name ∈ ps → (d.quoteTable name = "" ↔ Ident.isHollow name = true)) ∧
      (∀ column ∈ s.columns, .ident (Ident.parse column) ∈ ps ∧
        (d.quoteIdentifier column = "" ↔ Ident.isHollow column = true)) ∧
      ∀ kind spec calls, s = (start kind spec).applyAll calls → Text.isBlank spec = false := by
  rw [render_eq] at h
  obtain ⟨ps, hps, hsql⟩ := map_ok h
  refine ⟨ps, hps, hsql, fun name _ => d.quoteTable_eq_empty, fun column hc => ?_, ?_⟩
  · exact ⟨column_mem_pieces hps hc, d.quoteIdentifier_eq_empty⟩
  · rintro kind spec calls rfl
    rw [← Bool.not_eq_true]
    intro hblank
    obtain ⟨f, hf⟩ := render_of_blank kind hblank calls
    rw [← render_eq, hf d] at h
    cases h

/-- A quoted table and two quoted columns. -/
theorem empty_identifiers_of_update :
    let calls := [.update (.set "first name" .null), .update (.set "id" (.int 7))]
    let s := (start .update "app.users").applyAll calls
    let sql := "UPDATE \"app\".\"users\" SET \"first name\" = NULL, \"id\" = 7"
    s.render (.offline .postgres) = .ok sql ∧ Text.isBlank "app.users" = false ∧
      ∃ ps, s.pieces = .ok ps ∧ ps.write (.offline .postgres) = sql ∧
        ∀ column ∈ s.columns, .ident (Ident.parse column) ∈ ps := by
  intro calls s sql
  have rendered : s.render (.offline .postgres) = .ok sql := ok_of_toOption (by decide +kernel +revert)
  obtain ⟨ps, pieces, written, -, columns, begun⟩ := empty_identifiers s (.offline .postgres) rendered
  exact ⟨rendered, begun .update "app.users" calls rfl, ps, pieces, written, fun column hc => (columns column hc).1⟩

/-- Quotes around nothing, or a dot, are no table and no column, and are written all the same. -/
theorem render_nameless :
    (Ident.parse "\x60\x60").parts = [] ∧ (Ident.parse ".").parts = [] ∧ (Ident.parse "").parts = [] ∧
      ((start .delete "\x60\x60").render (.offline .mysql)).toOption = some "DELETE FROM " ∧
      (((start .insert "users").apply (.insert (.values [(".", .int 1)]))).render (.offline .mysql)).toOption =
        some "INSERT INTO \x60users\x60 () VALUES (1)" ∧
      (((start .update ". u").apply (.update (.set "" .null))).render (.offline .mysql)).toOption =
        some "UPDATE  AS u SET  = NULL" := by
  refine ⟨by decide, by decide, by decide, ?_, ?_, ?_⟩ <;> decide +kernel

end Statement

end SqlComposer
