/-
  SqlComposer.Proofs.Composing.Interleaving — calls on different clauses of a SELECT.

  Each call belongs to one clause. It reads and changes what the SELECT holds of that
  clause, and may record a fault of its own; whether it does hangs on the call alone.

  Proved: what is held of a clause after a run of calls is what the calls of that clause
  make by themselves (`Select.same_applyAll`), and the first offence of the run is the
  SELECT's own fault (`Select.fault_applyAll`). So two runs that are the same clause by
  clause both fail, or both give the same SQL, however the clauses are interleaved
  (`Select.render_interleaved`). Which fault they fail with may differ.
-/

import SqlComposer.Compose.Select
import SqlComposer.Render

namespace SqlComposer

/-! ## Clauses -/

/-- What of a SELECT a call is about. -/
inductive SelectClause where
  | tables
  | fields
  | joins
  | conditions
  | groupBy
  | having
  | orderBy
  | limit
  deriving DecidableEq, Repr

namespace SelectCall

def clause : SelectCall → SelectClause
  | .table _ | .tableAliases _ | .tableSelect _ _ | .addTable _ => .tables
  | .fields _ | .aliasFields _ _ | .fieldExpr _ => .fields
  | .join _ => .joins
  | .restrict _ => .conditions
  | .groupBy _ => .groupBy
  | .having _ _ => .having
  | .orderBy _ _ => .orderBy
  | .limit _ _ => .limit

/-- The calls of a clause, in order. -/
def ofClause (c : SelectClause) (calls : List SelectCall) : List SelectCall := calls.filter (·.clause = c)

theorem mem_ofClause {x : SelectCall} {calls : List SelectCall} : x ∈ ofClause x.clause calls ↔ x ∈ calls := by
  simp [ofClause]

end SelectCall

namespace Select

/-- Both hold the same of a clause. -/
def Same (c : SelectClause) (s t : Select) : Prop :=
  match c with
  | .tables => s.tables = t.tables
  | .fields => s.fields = t.fields
  | .joins => s.joins = t.joins
  | .conditions => s.conditions = t.conditions
  | .groupBy => s.groupBy = t.groupBy
  | .having => s.having = t.having
  | .orderBy => s.orderBy = t.orderBy
  | .limit => s.limit = t.limit

namespace Same

theorem refl (c : SelectClause) (s : Select) : Same c s s := by
  cases c <;> rfl

theorem symm {c : SelectClause} {s t : Select} (h : Same c s t) : Same c t s := by
  cases c <;> exact Eq.symm h

theorem trans {c : SelectClause} {s t u : Select} (hst : Same c s t) (htu : Same c t u) : Same c s u := by
  cases c <;> exact Eq.trans hst htu

end Same

/-- A SELECT is its clauses and its own fault. -/
theorem eq_of_same {s t : Select} (h : ∀ c, Same c s t) (hf : s.fault = t.fault) : s = t := by
  cases s
  cases t
  cases h .tables
  cases h .fields
  cases h .joins
  cases h .conditions
  cases h .groupBy
  cases h .having
  cases h .orderBy
  cases h .limit
  cases hf
  rfl

/-! ## What calls read -/

/-- The tables of a list that is not empty. -/
def readTables (spec : String) : Except BuildFault (List TableRef) :=
  if (Text.commaList spec).isEmpty then .error .emptyTableList
  else TableRef.parseList (Text.commaList spec).length 0 (Text.commaList spec)

/-- The terms in front of the first wrong one. -/
def readTerms (order : Order) : List String → List (String × Order)
  | [] => []
  | term :: rest =>
    match orderTerm order term with
    | .ok t => t :: readTerms order rest
    | .error _ => []

end Select

/-- The fault with which something is refused. -/
def faultOf : Except BuildFault α → Option BuildFault
  | .ok _ => none
  | .error f => some f

/-- The fault a call records in the own slot; a call is right or wrong by itself, whatever the statement is. -/
def SelectCall.offence : SelectCall → Option BuildFault
  | .table spec => faultOf (Select.readTables spec)
  | .tableAliases pairs => if pairs.isEmpty then some .emptyTableMap else none
  | .having template values => faultOf (Predicate.make template values)
  | .orderBy spec order => (Text.commaList spec).findSome? fun term => faultOf (Select.orderTerm order term)
  | _ => none

namespace Select

/-! ## One call

What a call can do, for the calls that may be wrong: it changes its clause, or records its offence. -/

theorem table_eq (s : Select) (spec : String) :
    s.table spec =
      { s with
        tables := (readTables spec).toOption.getD s.tables
        fault := s.fault <|> (SelectCall.table spec).offence } := by
  rw [table, SelectCall.offence, readTables]
  split
  · rfl
  · cases TableRef.parseList (Text.commaList spec).length 0 (Text.commaList spec) with
    | ok tables => simp [faultOf, Except.toOption]
    | error f => rfl

theorem tableAliases_eq (s : Select) (pairs : List (String × String)) :
    s.tableAliases pairs =
      { s with
        tables := pairs.map fun (aliasName, name) => TableRef.aliased name aliasName
        fault := s.fault <|> (SelectCall.tableAliases pairs).offence } := by
  simp only [tableAliases, SelectCall.offence]
  split
  · rfl
  · simp

theorem setHaving_eq (s : Select) (template : String) (values : List Value) :
    s.setHaving template values =
      { s with
        having := (Predicate.make template values).toOption <|> s.having
        fault := s.fault <|> (SelectCall.having template values).offence } := by
  rw [setHaving, SelectCall.offence]
  cases Predicate.make template values with
  | ok p => simp [faultOf, Except.toOption]
  | error f => simp [faultOf, Except.toOption, withFault]

theorem appendOrder_eq (order : Order) (s : Select) (terms : List String) :
    s.appendOrder order terms =
      { s with
        orderBy := s.orderBy ++ readTerms order terms
        fault := s.fault <|> terms.findSome? fun term => faultOf (orderTerm order term) } := by
  induction terms generalizing s with
  | nil => cases s; simp [appendOrder, readTerms]
  | cons term rest ih =>
    rw [appendOrder, readTerms, List.findSome?_cons]
    cases orderTerm order term with
    | ok t => simp [ih, faultOf]
    | error f => simp [withFault, faultOf]

/-- A call fills an empty own slot with its offence. -/
theorem fault_apply (s : Select) (x : SelectCall) : (s.apply x).fault = (s.fault <|> x.offence) := by
  cases x with
  | table spec => simp only [apply, table_eq]
  | tableAliases pairs => simp only [apply, tableAliases_eq]
  | having template values => simp only [apply, setHaving_eq]
  | orderBy spec order => simp only [apply, orderedBy, appendOrder_eq, SelectCall.offence]
  | _ => simp [SelectCall.offence, apply, tableSelect, addTable, setFields, aliasFields, fieldExpr, join, restrict,
      setGroupBy, setLimit]

/-- A call leaves what is held of other clauses as it is. -/
theorem same_apply_of_ne {c : SelectClause} {x : SelectCall} (h : x.clause ≠ c) (s : Select) : Same c (s.apply x) s := by
  cases x <;> simp only [apply, table_eq, tableAliases_eq, setHaving_eq, orderedBy, appendOrder_eq] <;>
    cases c <;> first | rfl | exact absurd rfl h

/-- What a call makes of its clause hangs on nothing but that clause. -/
theorem same_apply {s t : Select} {x : SelectCall} (h : Same x.clause s t) : Same x.clause (s.apply x) (t.apply x) := by
  cases x <;> simp only [SelectCall.clause, Same] at h <;>
    simp only [SelectCall.clause, Same, apply, table_eq, tableAliases_eq, tableSelect, addTable, setFields, aliasFields,
      fieldExpr, join, restrict, setGroupBy, setHaving_eq, orderedBy, appendOrder_eq, setLimit, h]

/-! ## Runs -/

/-- All calls in turn. -/
def applyAll (s : Select) (calls : List SelectCall) : Select := calls.foldl apply s

/-- Of a clause a run leaves what the calls of that clause leave. -/
theorem same_applyAll {c : SelectClause} {s t : Select} (h : Same c s t) (calls : List SelectCall) :
    Same c (s.applyAll calls) (t.applyAll (SelectCall.ofClause c calls)) := by
  induction calls generalizing s t with
  | nil => exact h
  | cons x rest ih =>
    by_cases hx : x.clause = c
    · subst hx
      rw [SelectCall.ofClause, List.filter_cons_of_pos (by simp)]
      exact ih (same_apply h)
    · rw [SelectCall.ofClause, List.filter_cons_of_neg (by simpa using hx)]
      exact ih ((same_apply_of_ne hx s).trans h)

theorem fault_applyAll (s : Select) (calls : List SelectCall) :
    (s.applyAll calls).fault = (s.fault <|> calls.findSome? SelectCall.offence) := by
  induction calls generalizing s with
  | nil => simp [applyAll]
  | cons x rest ih =>
    rw [applyAll, List.foldl_cons, ← applyAll, ih, fault_apply, List.findSome?_cons]
    cases s.fault <;> cases x.offence <;> rfl

/-- Runs that are the same clause by clause make the same SELECT, or both record an offence. -/
theorem applyAll_interleaved {a b : List SelectCall} (h : ∀ c, SelectCall.ofClause c a = SelectCall.ofClause c b)
    (s : Select) :
    s.applyAll a = s.applyAll b ∨ (s.applyAll a).fault ≠ none ∧ (s.applyAll b).fault ≠ none := by
  have hmem : ∀ x, x ∈ a ↔ x ∈ b := fun x => by
    rw [← SelectCall.mem_ofClause, h x.clause, SelectCall.mem_ofClause]
  have hnone : ∀ calls, (s.applyAll calls).fault = none ↔ s.fault = none ∧ ∀ x ∈ calls, x.offence = none := fun calls => by
    rw [fault_applyAll]
    cases s.fault <;> simp
  have hiff : (s.applyAll a).fault = none ↔ (s.applyAll b).fault = none := by simp only [hnone, hmem]
  by_cases ha : (s.applyAll a).fault = none
  · refine .inl (eq_of_same (fun c => ?_) (ha.trans (hiff.mp ha).symm))
    have hleft := same_applyAll (Same.refl c s) a
    have hright := same_applyAll (Same.refl c s) b
    rw [h c] at hleft
    exact hleft.trans hright.symm
  · exact .inr ⟨ha, fun hb => ha (hiff.mpr hb)⟩

theorem render_of_firstFault {s : Select} {f : BuildFault} (h : s.firstFault = some f) (d : Dialect) :
    s.render d = .error (.builder f) := by
  cases s
  simp only [firstFault] at h
  simp only [render, h, refuse]
  rfl

theorem render_of_fault {s : Select} (h : s.fault ≠ none) (d : Dialect) : ∃ e, s.render d = .error e := by
  obtain ⟨f, hf⟩ := Option.ne_none_iff_exists'.mp h
  exact ⟨_, render_of_firstFault (by rw [firstFault, hf]; rfl) d⟩

/-- Calls on different clauses may be interleaved at will: if two runs are the same clause by clause, both fail to
render or both render to the same SQL, in every dialect. -/
theorem render_interleaved (a b : List SelectCall) (h : ∀ c, SelectCall.ofClause c a = SelectCall.ofClause c b)
    (s : Select) (d : Dialect) :
    (∃ sql, (s.applyAll a).render d = .ok sql ∧ (s.applyAll b).render d = .ok sql) ∨
      (∃ e, (s.applyAll a).render d = .error e) ∧ ∃ e, (s.applyAll b).render d = .error e := by
  rcases applyAll_interleaved h s with heq | ⟨ha, hb⟩
  · rw [heq]
    cases (s.applyAll b).render d with
    | ok sql => exact .inl ⟨sql, rfl, rfl⟩
    | error e => exact .inr ⟨⟨e, rfl⟩, e, rfl⟩
  · exact .inr ⟨render_of_fault ha d, render_of_fault hb d⟩

/-- The tables may be given last, behind the join that has the alias of a field. -/
theorem render_interleaved_tables_last :
    let columns := SelectCall.aliasFields "o" ["id"]
    let orders := SelectCall.join (.spec "orders o" "o.user = u.id" .left)
    let opened := SelectCall.restrict .beginGroup
    let inside := SelectCall.restrict (.push .and "u.id > ?" [.bool true])
    let closed := SelectCall.restrict (.endGroup .and)
    let users := SelectCall.table "users u"
    let a := [users, columns, orders, opened, inside, closed]
    let b := [opened, columns, inside, orders, closed, users]
    let sql := "SELECT o.\x60id\x60 FROM \x60users\x60 AS u LEFT JOIN \x60orders\x60 AS o ON o.user = u.id WHERE ((u.id > TRUE))"
    (∀ c, SelectCall.ofClause c a = SelectCall.ofClause c b) ∧
      ((empty.applyAll a).render (.offline .mysql)).toOption = some sql ∧
      ((empty.applyAll b).render (.offline .mysql)).toOption = some sql := by
  intro columns orders opened inside closed users a b sql
  have rendered : ((empty.applyAll a).render (.offline .mysql)).toOption = some sql := by
    decide +kernel +revert
  have same : ∀ c, SelectCall.ofClause c a = SelectCall.ofClause c b := by
    intro c
    cases c <;> rfl
  refine ⟨same, rendered, ?_⟩
  rcases render_interleaved a b same empty (.offline .mysql) with ⟨_, ha, hb⟩ | ⟨⟨e, he⟩, -⟩
  · exact (congrArg Except.toOption (hb.trans ha.symm)).trans rendered
  · rw [he] at rendered
    cases rendered

example :
    let noTables := SelectCall.table ""
    let wrongHaving := SelectCall.having "?" [.null, .null]
    (empty.applyAll [noTables, wrongHaving]).firstFault = some .emptyTableList ∧
      (empty.applyAll [wrongHaving, noTables]).firstFault = some (.placeholders "?" 1 2) := ⟨rfl, rfl⟩

end Select

end SqlComposer
