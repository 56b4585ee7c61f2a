/-
  SqlComposer.Proofs.Rendering.Fragments — the verbatim SQL of a statement.

  `fragments` lists the texts that rendering copies as they are, at any depth: templates,
  ON conditions, raw operands and assignments, literal expressions, function names, labels,
  aliases, qualifiers, and the field, group and order terms that are not read as columns.

  Proved: the SQL a statement puts around its values and identifiers is made of the
  characters of its fragments and of plain ones, the letters, digits and signs of the
  keywords and numbers (`Statement.spelled_of_pieces`).
-/

import SqlComposer.Proofs.Number.Numerals
import SqlComposer.Proofs.Rendering.Texts

namespace SqlComposer

/-! ## Fragments -/

/-- A GROUP BY term that is kept as it is. -/
def Scope.isVerbatim (term : String) : Bool := term.toList.all Char.isDigit || Text.hasCall term

mutual

def Value.fragments : Value → List String
  | .expr e => e.fragments
  | .select s => s.fragments
  | _ => []

def Value.fragmentsAll : List Value → List String
  | [] => []
  | v :: rest => v.fragments ++ Value.fragmentsAll rest

def Operand.fragments : Operand → List String
  | .column _ => []
  | .value v => v.fragments
  | .raw sql => [sql]

def Operand.fragmentsAll : List Operand → List String
  | [] => []
  | o :: rest => o.fragments ++ Operand.fragmentsAll rest

def ExpressionBody.fragments : ExpressionBody → List String
  | .literal sql => [sql]
  | .call function operands => function :: Operand.fragmentsAll operands

def Expression.fragments : Expression → List String
  | ⟨body, label, qualifier⟩ => body.fragments ++ label.toList ++ qualifier.toList

def Predicate.fragments : Predicate → List String
  | ⟨template, values⟩ => template :: Value.fragmentsAll values

def Condition.fragments : Condition → List String
  | .leaf _ p => p.fragments
  | .group _ members => Condition.fragmentsAll members

def Condition.fragmentsAll : List Condition → List String
  | [] => []
  | c :: rest => c.fragments ++ Condition.fragmentsAll rest

def WhereClause.fragments : WhereClause → List String
  | ⟨conditions, _, _⟩ => Condition.fragmentsAll conditions

def TableSource.fragments : TableSource → List String
  | .name _ => []
  | .select s => s.fragments
  | .expr e => e.fragments

def TableRef.fragments : TableRef → List String
  | ⟨source, aliasName⟩ => source.fragments ++ aliasName.toList

def TableRef.fragmentsAll : List TableRef → List String
  | [] => []
  | t :: rest => t.fragments ++ TableRef.fragmentsAll rest

def Join.fragments : Join → List String
  | ⟨_, table, condition⟩ => condition :: table.fragments

def Join.fragmentsAll : List Join → List String
  | [] => []
  | j :: rest => j.fragments ++ Join.fragmentsAll rest

def JoinList.fragments : JoinList → List String
  | ⟨_, joins, _⟩ => Join.fragmentsAll joins

def FieldTerm.fragments : FieldTerm → List String
  | .raw sql => [sql]
  | .expr e => e.fragments
  | .column _ label => label.toList

def Field.fragments : Field → List String
  | ⟨qualifier, term⟩ => term.fragments ++ qualifier.toList

def Field.fragmentsAll : List Field → List String
  | [] => []
  | f :: rest => f.fragments ++ Field.fragmentsAll rest

def Predicate.fragmentsOption : Option Predicate → List String
  | none => []
  | some p => p.fragments

def Select.fragments : Select → List String
  | ⟨tables, fields, joins, conditions, groupBy, having, orderBy, _, _⟩ =>
    Field.fragmentsAll fields ++ (TableRef.fragmentsAll tables ++ (joins.fragments ++ (conditions.fragments ++
      (groupBy.filter Scope.isVerbatim ++ (Predicate.fragmentsOption having ++
        (orderBy.map (·.1)).filter Text.hasCall)))))

end

def Insert.fragments (s : Insert) : List String := s.rows.flatMap Value.fragmentsAll ++ s.onDuplicate.toList

def Assignment.fragments : Assignment → List String
  | .value v => v.fragments
  | .raw sql => [sql]

def Update.fragments (s : Update) : List String :=
  (s.table.map (·.fragments)).getD [] ++ (s.fields.flatMap (·.2.fragments) ++ (s.joins.fragments ++ s.conditions.fragments))

def Delete.fragments (s : Delete) : List String := if s.truncates then [] else s.conditions.fragments

def Statement.fragments : Statement → List String
  | .select s => s.fragments
  | .insert s => s.fragments
  | .update s => s.fragments
  | .delete s => s.fragments

theorem TableRef.fragmentsAll_eq_flatMap (ts : List TableRef) :
    TableRef.fragmentsAll ts = ts.flatMap (·.fragments) := by
  induction ts with
  | nil => rfl
  | cons t rest ih => rw [TableRef.fragmentsAll, ih, List.flatMap_cons]

theorem Join.fragmentsAll_eq_flatMap (js : List Join) : Join.fragmentsAll js = js.flatMap (·.fragments) := by
  induction js with
  | nil => rfl
  | cons j rest ih => rw [Join.fragmentsAll, ih, List.flatMap_cons]

theorem TableRef.aliasName_mem_fragments (t : TableRef) {a : String} (ha : t.aliasName = some a) :
    a ∈ t.fragments := by
  obtain ⟨source, aliasName⟩ := t
  exact List.mem_append_right _ (Option.mem_toList.mpr ha)

theorem Join.aliasName_mem_fragments (j : Join) {a : String} (ha : j.table.aliasName = some a) : a ∈ j.fragments := by
  obtain ⟨type, table, condition⟩ := j
  exact List.mem_cons_of_mem _ (table.aliasName_mem_fragments ha)

/-! ## Alphabets -/

/-- The characters of keywords, numbers and punctuation. -/
def isPlain (c : Char) : Bool := c.isAlphanum || " ,.()=*-".toList.contains c

/-- An alphabet with at least the plain characters in it. -/
structure Alphabet where
  Has : Char → Prop
  plain : ∀ c, isPlain c = true → Has c

/-- All characters of `s` are in the alphabet. -/
def Spelled (A : Alphabet) (s : String) : Prop := ∀ c ∈ s.toList, A.Has c

variable {A : Alphabet}

theorem spelled_of_plain {s : String} (hs : s.toList.all isPlain = true) : Spelled A s :=
  fun c hc => A.plain c (List.all_eq_true.mp hs c hc)

theorem spelled_numeral {s : String} (hs : Numeral s.toList) : Spelled A s := by
  obtain ⟨body, hbody, hchars⟩ := hs
  have hplain : ∀ c ∈ body, A.Has c := by
    intro c hc
    refine A.plain c ?_
    have hnumeral := hchars c hc
    simp only [isNumeralChar, Bool.or_eq_true, beq_iff_eq] at hnumeral
    rcases hnumeral with hdigit | rfl
    · simp [isPlain, Char.isAlphanum, hdigit]
    · decide
  unfold Spelled
  rcases hbody with hbody | hbody
  · rwa [hbody]
  · rw [hbody]
    exact List.forall_mem_cons.mpr ⟨A.plain '-' (by decide), hplain⟩

theorem Spelled.append {s t : String} (hs : Spelled A s) (ht : Spelled A t) : Spelled A (s ++ t) := by
  unfold Spelled
  rw [String.toList_append]
  exact List.forall_mem_append.mpr ⟨hs, ht⟩

theorem spelled_limitClause (limit : Option (UInt64 × Option UInt64)) :
    Spelled A (limitClause limit) := by
  have hnat (n : UInt64) : Spelled A (toString n) := spelled_numeral (numeral_nat n.toNat)
  have hlimit : Spelled A " LIMIT " := spelled_of_plain (by decide)
  have hoffset : Spelled A " OFFSET " := spelled_of_plain (by decide)
  match limit with
  | none => exact spelled_of_plain (by decide)
  | some (count, none) => exact hlimit.append (hnat count)
  | some (count, some offset) => exact ((hlimit.append (hnat count)).append hoffset).append (hnat offset)

/-! ## Spelled pieces -/

/-- SQL in the alphabet, and identifiers that were read from a text. -/
def Piece.Spelled (A : Alphabet) : Piece → Prop
  | .sql s => SqlComposer.Spelled A s
  | .ident i => ∃ name, i = Ident.parse name
  | _ => True

namespace Pieces

def Spelled (A : Alphabet) (ps : Pieces) : Prop := ∀ p ∈ ps, p.Spelled A

theorem spelled_nil : Spelled A [] := fun _ hp => absurd hp List.not_mem_nil

theorem spelled_cons {p : Piece} {ps : Pieces} (hp : p.Spelled A) (hps : Spelled A ps) : Spelled A (p :: ps) :=
  List.forall_mem_cons.mpr ⟨hp, hps⟩

theorem spelled_sql {s : String} (hs : SqlComposer.Spelled A s) : Spelled A [.sql s] := spelled_cons hs spelled_nil

theorem spelled_table (name : String) {ps : Pieces} (hps : Spelled A ps) : Spelled A (.table name :: ps) :=
  spelled_cons trivial hps

theorem spelled_ident (name : String) : Spelled A [.ident (Ident.parse name)] :=
  spelled_cons ⟨name, rfl⟩ spelled_nil

theorem Spelled.append {ps qs : Pieces} (hps : Spelled A ps) (hqs : Spelled A qs) : Spelled A (ps ++ qs) :=
  List.forall_mem_append.mpr ⟨hps, hqs⟩

/-- A keyword or a sign in front of pieces. -/
theorem spelled_word {s : String} (hs : s.toList.all isPlain = true) {ps : Pieces} (hps : Spelled A ps) :
    Spelled A (.sql s :: ps) := spelled_cons (spelled_of_plain hs) hps

theorem Spelled.enclosed {ps : Pieces} (hps : Spelled A ps) : Spelled A ps.enclosed :=
  (spelled_word (by decide) hps).append (spelled_word (by decide) spelled_nil)

theorem Spelled.labelled {ps : Pieces} (hps : Spelled A ps) {name : Option String}
    (hn : ∀ n ∈ name.toList, SqlComposer.Spelled A n) : Spelled A (ps.labelled name) := by
  cases name with
  | none => exact hps
  | some n => exact hps.append (spelled_word (by decide) (spelled_sql (hn n List.mem_cons_self)))

theorem spelled_qualified (name : String) {qualifier : Option String}
    (hq : ∀ q ∈ qualifier.toList, SqlComposer.Spelled A q) :
    Spelled A (qualified (Ident.parse name) qualifier) := by
  cases qualifier with
  | none => exact spelled_ident name
  | some q => exact spelled_cons (hq q List.mem_cons_self) (spelled_word (by decide) (spelled_ident name))

theorem spelled_join (separator : String) (hs : separator.toList.all isPlain = true) {rows : List Pieces}
    (hrows : ∀ ps ∈ rows, Spelled A ps) : Spelled A (join separator rows) := by
  induction rows with
  | nil => exact spelled_nil
  | cons ps rows ih =>
    obtain ⟨hps, hrows⟩ := List.forall_mem_cons.mp hrows
    cases rows with
    | nil => exact hps
    | cons qs rest => exact hps.append (spelled_word hs (ih hrows))

theorem spelled_joined {rows : List Pieces} (hrows : ∀ ps ∈ rows, Spelled A ps) : Spelled A (joined rows) := by
  intro p hp
  obtain ⟨ps, hps, hp⟩ := List.mem_flatMap.mp hp
  exact spelled_word (by decide) (hrows ps hps) p hp

theorem spelled_clause (keyword : String) (hk : keyword.toList.all isPlain = true) {terms : List Pieces}
    (hterms : ∀ ps ∈ terms, Spelled A ps) : Spelled A (clause keyword terms) := by
  unfold clause
  split
  · exact spelled_nil
  · exact spelled_word (by decide) (spelled_word hk (spelled_word (by decide) (spelled_join _ (by decide) hterms)))

theorem spelled_fill {cs : List Char} (hcs : ∀ c ∈ cs, A.Has c) {rows : List Pieces}
    (hrows : ∀ ps ∈ rows, Spelled A ps) : Spelled A (fill cs rows) := by
  fun_induction fill cs rows with
  | case1 => exact spelled_nil
  | case2 cs ps rest ih =>
    obtain ⟨hps, hrest⟩ := List.forall_mem_cons.mp hrows
    exact hps.append (ih (List.forall_mem_cons.mp hcs).2 hrest)
  | case3 c cs rows hc ih =>
    obtain ⟨hc, hcs⟩ := List.forall_mem_cons.mp hcs
    refine spelled_cons ?_ (ih hcs hrows)
    intro x hx
    have hx : x = c := by simpa using hx
    rwa [hx]

end Pieces

/-! ## Columns -/

/-- The names a SELECT writes bare in front of its columns. -/
structure Scope.Spelled (A : Alphabet) (sc : Scope) : Prop where
  leading : ∀ a ∈ sc.leading.toList, SqlComposer.Spelled A a
  aliases : ∀ a ∈ sc.aliases, SqlComposer.Spelled A a

theorem Scope.Spelled.columnPieces {sc : Scope} (hsc : sc.Spelled A) {qualifier : Option String}
    (hq : ∀ q ∈ qualifier.toList, SqlComposer.Spelled A q) (name : String) :
    (sc.columnPieces qualifier name).Spelled A := by
  have hqualified : Pieces.Spelled A (.qualified (Ident.parse name) qualifier) := Pieces.spelled_qualified _ hq
  unfold Scope.columnPieces
  dsimp only
  split
  · split
    · rename_i first _ _ _ hknown
      have hfirst := hsc.aliases first (by simpa using hknown)
      exact Pieces.spelled_cons hfirst (Pieces.spelled_word (by decide) (Pieces.spelled_ident _))
    · exact hqualified
  · exact hqualified

theorem Scope.Spelled.groupPieces {sc : Scope} (hsc : sc.Spelled A) {term : String}
    (ht : Scope.isVerbatim term = true → SqlComposer.Spelled A term) : (sc.groupPieces term).Spelled A := by
  unfold Scope.groupPieces
  split
  · rename_i hv
    exact Pieces.spelled_sql (ht hv)
  · exact hsc.columnPieces (by simp) term

theorem Scope.Spelled.orderPieces {sc : Scope} (hsc : sc.Spelled A) {term : String × Order}
    (ht : Text.hasCall term.1 = true → SqlComposer.Spelled A term.1) : (sc.orderPieces term).Spelled A := by
  have hdirection : SqlComposer.Spelled A term.2.keyword := by
    cases term.2 <;> exact spelled_of_plain (by decide)
  have htail : Pieces.Spelled A [.sql " ", .sql term.2.keyword] :=
    Pieces.spelled_word (by decide) (Pieces.spelled_sql hdirection)
  unfold Scope.orderPieces
  split
  · rename_i hcall
    exact (Pieces.spelled_sql (ht hcall)).append htail
  · exact (hsc.columnPieces (by simp) term.1).append htail

theorem Scope.Spelled.everything {sc : Scope} (hsc : sc.Spelled A) : sc.everything.Spelled A := by
  unfold Scope.everything
  split
  · rename_i a ha
    have ha := hsc.leading a (by simp [ha])
    exact Pieces.spelled_cons ha (Pieces.spelled_word (by decide) Pieces.spelled_nil)
  · exact Pieces.spelled_word (by decide) Pieces.spelled_nil

/-- A field's qualifier is its own or the leading alias. -/
theorem Scope.Spelled.qualifierOf {sc : Scope} (hsc : sc.Spelled A) {f : Field}
    (hq : ∀ q ∈ f.qualifier.toList, SqlComposer.Spelled A q) :
    ∀ q ∈ (sc.qualifierOf f).toList, SqlComposer.Spelled A q := by
  have horElse : ∀ q ∈ (f.qualifier <|> sc.leading).toList, SqlComposer.Spelled A q := by
    cases hf : f.qualifier with
    | none => simpa using hsc.leading
    | some own => rwa [hf] at hq
  unfold Scope.qualifierOf
  split
  · split
    · simp
    · exact horElse
  · exact horElse

theorem Operand.spelled_columnPieces {qualifier : Option String} (hq : ∀ q ∈ qualifier.toList, Spelled A q)
    (name : String) : (Operand.columnPieces qualifier name).Spelled A := by
  unfold Operand.columnPieces
  dsimp only
  split
  · exact Pieces.spelled_word (by decide) Pieces.spelled_nil
  · split
    · rename_i q _ _
      exact Pieces.spelled_cons (hq q (by simp)) (Pieces.spelled_word (by decide) (Pieces.spelled_ident _))
    · exact Pieces.spelled_ident _

/-! ## The SQL around values and identifiers -/

/-- The names of a SELECT's scope are aliases, and so are fragments. -/
theorem Select.spelled_scope (s : Select) (hf : ∀ f ∈ s.fragments, Spelled A f) : s.scope.Spelled A := by
  obtain ⟨tables, fields, joins, conditions, groupBy, having, orderBy, limit, fault⟩ := s
  rw [Select.fragments] at hf
  obtain ⟨_, hf⟩ := List.forall_mem_append.mp hf
  obtain ⟨htables, hf⟩ := List.forall_mem_append.mp hf
  obtain ⟨hjoins, _⟩ := List.forall_mem_append.mp hf
  have htable {t : TableRef} (ht : t ∈ tables) {a : String} (ha : t.aliasName = some a) : Spelled A a := by
    rw [TableRef.fragmentsAll_eq_flatMap] at htables
    exact htables a (List.mem_flatMap.mpr ⟨t, ht, t.aliasName_mem_fragments ha⟩)
  have hjoin {j : Join} (hj : j ∈ joins.joins) {a : String} (ha : j.table.aliasName = some a) : Spelled A a := by
    obtain ⟨kind, js, jfault⟩ := joins
    rw [JoinList.fragments, Join.fragmentsAll_eq_flatMap] at hjoins
    exact hjoins a (List.mem_flatMap.mpr ⟨j, hj, j.aliasName_mem_fragments ha⟩)
  constructor
  · intro a ha
    obtain ⟨t, ht, ha⟩ := Option.bind_eq_some_iff.mp (Option.mem_toList.mp ha)
    exact htable (List.mem_of_mem_head? ht) ha
  · intro a ha
    rcases List.mem_append.mp ha with ha | ha
    · obtain ⟨t, ht, ha⟩ := List.mem_filterMap.mp ha
      exact htable ht ha
    · obtain ⟨j, hj, ha⟩ := List.mem_filterMap.mp ha
      exact hjoin hj ha

mutual

theorem Value.spelled_of_pieces :
    ∀ (v : Value), (∀ f ∈ v.fragments, Spelled A f) → ∀ {ps : Pieces}, v.pieces = .ok ps → ps.Spelled A
  | .null, _, _, hp => by cases hp; exact Pieces.spelled_word (by decide) Pieces.spelled_nil
  | .bool true, _, _, hp => by cases hp; exact Pieces.spelled_word (by decide) Pieces.spelled_nil
  | .bool false, _, _, hp => by cases hp; exact Pieces.spelled_word (by decide) Pieces.spelled_nil
  | .int n, _, _, hp => by cases hp; exact Pieces.spelled_sql (spelled_numeral (numeral_int n.toInt))
  | .uint n, _, _, hp => by cases hp; exact Pieces.spelled_sql (spelled_numeral (numeral_nat n.toNat))
  | .float x, _, _, hp => by
    cases hp
    cases hx : Number.text? x with
    | none => exact Pieces.spelled_word (by decide) Pieces.spelled_nil
    | some s => exact Pieces.spelled_sql (spelled_numeral (numeral_text? hx))
  | .text s, _, _, hp => by cases hp; exact Pieces.spelled_cons trivial Pieces.spelled_nil
  | .expr e, hf, _, hp => Expression.spelled_of_pieces none (by simp) e hf hp
  | .select s, hf, _, hp => by
    obtain ⟨ps, hs, hp⟩ := bind_ok hp
    cases hp
    exact (Select.spelled_of_pieces s hf hs).enclosed

theorem Value.spelled_of_piecesAll :
    ∀ (vs : List Value), (∀ f ∈ Value.fragmentsAll vs, Spelled A f) →
      ∀ {rows : List Pieces}, Value.piecesAll vs = .ok rows → ∀ ps ∈ rows, ps.Spelled A
  | [], _, _, hp => by cases hp; simp
  | v :: rest, hf, _, hp => by
    obtain ⟨hv, hrest⟩ := List.forall_mem_append.mp hf
    obtain ⟨ps, hps, hp⟩ := bind_ok hp
    obtain ⟨rows, hrows, hp⟩ := bind_ok hp
    cases hp
    exact List.forall_mem_cons.mpr ⟨Value.spelled_of_pieces v hv hps, Value.spelled_of_piecesAll rest hrest hrows⟩

theorem Operand.spelled_of_pieces (qualifier : Option String) (hq : ∀ q ∈ qualifier.toList, Spelled A q) :
    ∀ (o : Operand), (∀ f ∈ o.fragments, Spelled A f) →
      ∀ {ps : Pieces}, o.pieces qualifier = .ok ps → ps.Spelled A
  | .column name, _, _, hp => by cases hp; exact Operand.spelled_columnPieces hq name
  | .value v, hf, _, hp => Value.spelled_of_pieces v hf hp
  | .raw sql, hf, _, hp => by cases hp; exact Pieces.spelled_sql (hf sql List.mem_cons_self)

theorem Operand.spelled_of_piecesAll (qualifier : Option String) (hq : ∀ q ∈ qualifier.toList, Spelled A q) :
    ∀ (os : List Operand), (∀ f ∈ Operand.fragmentsAll os, Spelled A f) →
      ∀ {rows : List Pieces}, Operand.piecesAll qualifier os = .ok rows → ∀ ps ∈ rows, ps.Spelled A
  | [], _, _, hp => by cases hp; simp
  | o :: rest, hf, _, hp => by
    obtain ⟨ho, hrest⟩ := List.forall_mem_append.mp hf
    obtain ⟨ps, hps, hp⟩ := bind_ok hp
    obtain ⟨rows, hrows, hp⟩ := bind_ok hp
    cases hp
    exact List.forall_mem_cons.mpr
      ⟨Operand.spelled_of_pieces qualifier hq o ho hps, Operand.spelled_of_piecesAll qualifier hq rest hrest hrows⟩

theorem ExpressionBody.spelled_of_pieces (qualifier : Option String) (hq : ∀ q ∈ qualifier.toList, Spelled A q) :
    ∀ (b : ExpressionBody), (∀ f ∈ b.fragments, Spelled A f) →
      ∀ {ps : Pieces}, b.pieces qualifier = .ok ps → ps.Spelled A
  | .literal sql, hf, _, hp => by cases hp; exact Pieces.spelled_sql (hf sql List.mem_cons_self)
  | .call function operands, hf, _, hp => by
    obtain ⟨hfunction, hoperands⟩ := List.forall_mem_cons.mp hf
    obtain ⟨args, ha, hp⟩ := bind_ok hp
    cases hp
    have hargs := Operand.spelled_of_piecesAll qualifier hq operands hoperands ha
    exact Pieces.spelled_cons hfunction ((Pieces.spelled_join _ (by decide) hargs).enclosed)

theorem Expression.spelled_of_pieces (byDefault : Option String) (hd : ∀ q ∈ byDefault.toList, Spelled A q) :
    ∀ (e : Expression), (∀ f ∈ e.fragments, Spelled A f) →
      ∀ {ps : Pieces}, e.pieces byDefault = .ok ps → ps.Spelled A
  | ⟨body, label, qualifier⟩, hf, _, hp => by
    obtain ⟨hf, hqualifier⟩ := List.forall_mem_append.mp hf
    obtain ⟨hbody, hlabel⟩ := List.forall_mem_append.mp hf
    obtain ⟨ps, hps, hp⟩ := bind_ok hp
    cases hp
    have hq : ∀ q ∈ (qualifier <|> byDefault).toList, Spelled A q := by
      cases qualifier with
      | none => simpa using hd
      | some q => exact hqualifier
    exact (ExpressionBody.spelled_of_pieces _ hq body hbody hps).labelled hlabel

theorem Predicate.spelled_of_pieces :
    ∀ (p : Predicate), (∀ f ∈ p.fragments, Spelled A f) →
      ∀ {ps : Pieces}, p.pieces = .ok ps → ps.Spelled A
  | ⟨template, values⟩, hf, _, hp => by
    obtain ⟨htemplate, hvalues⟩ := List.forall_mem_cons.mp hf
    obtain ⟨rows, hrows, hp⟩ := bind_ok hp
    cases hp
    exact Pieces.spelled_fill htemplate (Value.spelled_of_piecesAll values hvalues hrows)

theorem Condition.spelled_of_pieces (isFirst : Bool) :
    ∀ (c : Condition), (∀ f ∈ c.fragments, Spelled A f) →
      ∀ {ps : Pieces}, c.pieces isFirst = .ok ps → ps.Spelled A
  | .leaf conjunction p, hf, _, hp => by
    obtain ⟨ps, hps, hp⟩ := bind_ok hp
    cases hp
    have hjoiner : Spelled A (if isFirst then "" else conjunction.joiner) := by
      cases isFirst <;> cases conjunction <;> exact spelled_of_plain (by decide)
    exact Pieces.spelled_cons hjoiner ((Predicate.spelled_of_pieces p hf hps).enclosed)
  | .group conjunction members, hf, _, hp => by
    obtain ⟨ps, hps, hp⟩ := bind_ok hp
    cases hp
    have hjoiner : Spelled A (if isFirst then "" else conjunction.joiner) := by
      cases isFirst <;> cases conjunction <;> exact spelled_of_plain (by decide)
    exact Pieces.spelled_cons hjoiner ((Condition.spelled_of_piecesAll true members hf hps).enclosed)

theorem Condition.spelled_of_piecesAll (isFirst : Bool) :
    ∀ (cs : List Condition), (∀ f ∈ Condition.fragmentsAll cs, Spelled A f) →
      ∀ {ps : Pieces}, Condition.piecesAll isFirst cs = .ok ps → ps.Spelled A
  | [], _, _, hp => by cases hp; exact Pieces.spelled_nil
  | c :: rest, hf, _, hp => by
    obtain ⟨hc, hrest⟩ := List.forall_mem_append.mp hf
    obtain ⟨ps, hps, hp⟩ := bind_ok hp
    obtain ⟨qs, hqs, hp⟩ := bind_ok hp
    cases hp
    exact (Condition.spelled_of_pieces isFirst c hc hps).append (Condition.spelled_of_piecesAll false rest hrest hqs)

theorem WhereClause.spelled_of_pieces :
    ∀ (w : WhereClause), (∀ f ∈ w.fragments, Spelled A f) →
      ∀ {o : Option Pieces}, w.pieces = .ok o → ∀ ps ∈ o.toList, ps.Spelled A
  | ⟨conditions, opened, fault⟩, hf, _, hp => by
    obtain ⟨_, _, hp⟩ := bind_ok hp
    obtain ⟨_, _, hp⟩ := bind_ok hp
    obtain ⟨ps, hps, hp⟩ := bind_ok hp
    cases hp
    have hconditions := Condition.spelled_of_piecesAll true conditions hf hps
    split <;> simp [hconditions]

theorem TableSource.spelled_of_pieces :
    ∀ (t : TableSource), (∀ f ∈ t.fragments, Spelled A f) →
      ∀ {ps : Pieces}, t.pieces = .ok ps → ps.Spelled A
  | .name name, _, _, hp => by cases hp; exact Pieces.spelled_table name Pieces.spelled_nil
  | .select s, hf, _, hp => by
    obtain ⟨ps, hs, hp⟩ := bind_ok hp
    cases hp
    exact (Select.spelled_of_pieces s hf hs).enclosed
  | .expr e, hf, _, hp => by
    obtain ⟨ps, he, hp⟩ := bind_ok hp
    cases hp
    exact (Expression.spelled_of_pieces none (by simp) e hf he).enclosed

theorem TableRef.spelled_of_pieces :
    ∀ (t : TableRef), (∀ f ∈ t.fragments, Spelled A f) → ∀ {ps : Pieces}, t.pieces = .ok ps → ps.Spelled A
  | ⟨source, aliasName⟩, hf, _, hp => by
    obtain ⟨hsource, halias⟩ := List.forall_mem_append.mp hf
    obtain ⟨ps, hps, hp⟩ := bind_ok hp
    cases hp
    exact (TableSource.spelled_of_pieces source hsource hps).labelled halias

theorem TableRef.spelled_of_piecesAll :
    ∀ (ts : List TableRef), (∀ f ∈ TableRef.fragmentsAll ts, Spelled A f) →
      ∀ {rows : List Pieces}, TableRef.piecesAll ts = .ok rows → ∀ ps ∈ rows, ps.Spelled A
  | [], _, _, hp => by cases hp; simp
  | t :: rest, hf, _, hp => by
    obtain ⟨ht, hrest⟩ := List.forall_mem_append.mp hf
    obtain ⟨ps, hps, hp⟩ := bind_ok hp
    obtain ⟨rows, hrows, hp⟩ := bind_ok hp
    cases hp
    exact List.forall_mem_cons.mpr
      ⟨TableRef.spelled_of_pieces t ht hps, TableRef.spelled_of_piecesAll rest hrest hrows⟩

theorem Join.spelled_of_pieces :
    ∀ (j : Join), (∀ f ∈ j.fragments, Spelled A f) → ∀ {ps : Pieces}, j.pieces = .ok ps → ps.Spelled A
  | ⟨type, table, condition⟩, hf, _, hp => by
    obtain ⟨hcondition, htable⟩ := List.forall_mem_cons.mp hf
    obtain ⟨ps, hps, hp⟩ := bind_ok hp
    cases hp
    have htype : Spelled A type.keyword := by
      cases type <;> exact spelled_of_plain (by decide)
    refine (Pieces.spelled_cons (p := .sql type.keyword) htype (Pieces.spelled_word (by decide) ?_)).append ?_
    · exact TableRef.spelled_of_pieces table htable hps
    · split
      · exact Pieces.spelled_nil
      · exact Pieces.spelled_word (by decide) (Pieces.spelled_sql hcondition)

theorem Join.spelled_of_piecesAll :
    ∀ (js : List Join), (∀ f ∈ Join.fragmentsAll js, Spelled A f) →
      ∀ {rows : List Pieces}, Join.piecesAll js = .ok rows → ∀ ps ∈ rows, ps.Spelled A
  | [], _, _, hp => by cases hp; simp
  | j :: rest, hf, _, hp => by
    obtain ⟨hj, hrest⟩ := List.forall_mem_append.mp hf
    obtain ⟨ps, hps, hp⟩ := bind_ok hp
    obtain ⟨rows, hrows, hp⟩ := bind_ok hp
    cases hp
    exact List.forall_mem_cons.mpr ⟨Join.spelled_of_pieces j hj hps, Join.spelled_of_piecesAll rest hrest hrows⟩

theorem JoinList.spelled_of_pieces :
    ∀ (l : JoinList), (∀ f ∈ l.fragments, Spelled A f) →
      ∀ {rows : List Pieces}, l.pieces = .ok rows → ∀ ps ∈ rows, ps.Spelled A
  | ⟨_, joins, _⟩, hf, _, hp => by
    obtain ⟨_, _, hp⟩ := bind_ok hp
    exact Join.spelled_of_piecesAll joins hf hp

theorem FieldTerm.spelled_of_pieces {sc : Scope} (hsc : sc.Spelled A) (qualifier : Option String)
    (hq : ∀ q ∈ qualifier.toList, Spelled A q) :
    ∀ (t : FieldTerm), (∀ f ∈ t.fragments, Spelled A f) →
      ∀ {ps : Pieces}, t.pieces sc qualifier = .ok ps → ps.Spelled A
  | .raw sql, hf, _, hp => by cases hp; exact Pieces.spelled_sql (hf sql List.mem_cons_self)
  | .expr e, hf, _, hp => Expression.spelled_of_pieces qualifier hq e hf hp
  | .column name label, hf, _, hp => by cases hp; exact (hsc.columnPieces hq name).labelled hf

theorem Field.spelled_of_pieces {sc : Scope} (hsc : sc.Spelled A) :
    ∀ (field : Field), (∀ f ∈ field.fragments, Spelled A f) →
      ∀ {ps : Pieces}, field.pieces sc = .ok ps → ps.Spelled A
  | ⟨qualifier, term⟩, hf, _, hp => by
    obtain ⟨hterm, hqualifier⟩ := List.forall_mem_append.mp hf
    exact FieldTerm.spelled_of_pieces hsc _ (hsc.qualifierOf hqualifier) term hterm hp

theorem Field.spelled_of_piecesAll {sc : Scope} (hsc : sc.Spelled A) :
    ∀ (fields : List Field), (∀ f ∈ Field.fragmentsAll fields, Spelled A f) →
      ∀ {rows : List Pieces}, Field.piecesAll sc fields = .ok rows → ∀ ps ∈ rows, ps.Spelled A
  | [], _, _, hp => by cases hp; simp
  | field :: rest, hf, _, hp => by
    obtain ⟨hfield, hrest⟩ := List.forall_mem_append.mp hf
    obtain ⟨ps, hps, hp⟩ := bind_ok hp
    obtain ⟨rows, hrows, hp⟩ := bind_ok hp
    cases hp
    exact List.forall_mem_cons.mpr
      ⟨Field.spelled_of_pieces hsc field hfield hps, Field.spelled_of_piecesAll hsc rest hrest hrows⟩

theorem Predicate.spelled_of_piecesOption :
    ∀ (p : Option Predicate), (∀ f ∈ Predicate.fragmentsOption p, Spelled A f) →
      ∀ {o : Option Pieces}, Predicate.piecesOption p = .ok o → ∀ ps ∈ o.toList, ps.Spelled A
  | none, _, _, hp => by cases hp; simp
  | some p, hf, _, hp => by
    obtain ⟨ps, hps, hp⟩ := bind_ok hp
    cases hp
    simpa using Predicate.spelled_of_pieces p hf hps

theorem Select.spelled_of_pieces :
    ∀ (s : Select), (∀ f ∈ s.fragments, Spelled A f) → ∀ {ps : Pieces}, s.pieces = .ok ps → ps.Spelled A
  | ⟨tables, fields, joins, conditions, groupBy, having, orderBy, limit, fault⟩, hf, _, hp => by
    have hsc := Select.spelled_scope ⟨tables, fields, joins, conditions, groupBy, having, orderBy, limit, fault⟩ hf
    obtain ⟨hfields, hf⟩ := List.forall_mem_append.mp hf
    obtain ⟨htables, hf⟩ := List.forall_mem_append.mp hf
    obtain ⟨hjoins, hf⟩ := List.forall_mem_append.mp hf
    obtain ⟨hconditions, hf⟩ := List.forall_mem_append.mp hf
    obtain ⟨hgroup, hf⟩ := List.forall_mem_append.mp hf
    obtain ⟨hhaving, horder⟩ := List.forall_mem_append.mp hf
    obtain ⟨_, _, hp⟩ := bind_ok hp
    cases tables with
    | nil => cases hp
    | cons t ts =>
      obtain ⟨fieldRows, hfs, hp⟩ := bind_ok hp
      obtain ⟨tableRows, hts, hp⟩ := bind_ok hp
      obtain ⟨joinRows, hjs, hp⟩ := bind_ok hp
      obtain ⟨wherePieces, hw, hp⟩ := bind_ok hp
      obtain ⟨havingPieces, hh, hp⟩ := bind_ok hp
      cases hp
      have hfieldRows := Field.spelled_of_piecesAll hsc fields hfields hfs
      have htableRows := TableRef.spelled_of_piecesAll (t :: ts) htables hts
      have hjoinRows := JoinList.spelled_of_pieces joins hjoins hjs
      have hwhere := WhereClause.spelled_of_pieces conditions hconditions hw
      have hhaving := Predicate.spelled_of_piecesOption having hhaving hh
      generalize Select.scope _ = sc at hsc hfieldRows ⊢
      have hprojection : Pieces.Spelled A (if fields.isEmpty then sc.everything else Pieces.join ", " fieldRows) := by
        split
        · exact hsc.everything
        · exact Pieces.spelled_join _ (by decide) hfieldRows
      have hgroups : ∀ ps ∈ groupBy.map sc.groupPieces, ps.Spelled A := List.forall_mem_map.mpr fun term ht =>
        hsc.groupPieces fun hv => hgroup term (List.mem_filter.mpr ⟨ht, hv⟩)
      have horders : ∀ ps ∈ orderBy.map sc.orderPieces, ps.Spelled A := List.forall_mem_map.mpr fun term ht =>
        hsc.orderPieces fun hc => horder term.1 (List.mem_filter.mpr ⟨List.mem_map_of_mem ht, hc⟩)
      have hselect := Pieces.spelled_word (s := "SELECT ") (by decide) hprojection
      have hfrom := Pieces.spelled_word (s := " FROM ") (by decide)
        (Pieces.spelled_join ", " (by decide) htableRows)
      have hlimit : Pieces.Spelled A [.sql (limitClause limit)] := Pieces.spelled_sql (spelled_limitClause limit)
      exact ((((((hselect.append hfrom).append (Pieces.spelled_joined hjoinRows)).append
        (Pieces.spelled_clause _ (by decide) hwhere)).append (Pieces.spelled_clause _ (by decide) hgroups)).append
        (Pieces.spelled_clause _ (by decide) hhaving)).append (Pieces.spelled_clause _ (by decide) horders)).append hlimit

end

/-! ## Statements that change tables -/

theorem Value.spelled_of_pieceRows :
    ∀ (rows : List (List Value)), (∀ f ∈ rows.flatMap Value.fragmentsAll, Spelled A f) →
      ∀ {groups : List Pieces}, Value.pieceRows rows = .ok groups → ∀ ps ∈ groups, ps.Spelled A
  | [], _, _, hp => by cases hp; simp
  | row :: rest, hf, _, hp => by
    obtain ⟨hrow, hrest⟩ := List.forall_mem_append.mp hf
    obtain ⟨ps, hps, hp⟩ := bind_ok hp
    obtain ⟨groups, hgroups, hp⟩ := bind_ok hp
    cases hp
    have hvalues := Value.spelled_of_piecesAll row hrow hps
    exact List.forall_mem_cons.mpr
      ⟨(Pieces.spelled_join _ (by decide) hvalues).enclosed, Value.spelled_of_pieceRows rest hrest hgroups⟩

theorem Insert.spelled_of_pieces (s : Insert) (hf : ∀ f ∈ s.fragments, Spelled A f) {ps : Pieces}
    (hp : s.pieces = .ok ps) : ps.Spelled A := by
  obtain ⟨hrows, hduplicate⟩ := List.forall_mem_append.mp hf
  obtain ⟨groups, hgroups, rfl⟩ := Insert.pieces_ok hp
  have hcolumns : ∀ ps ∈ s.columns.map (fun c => [Piece.ident (Ident.parse c)]), Pieces.Spelled A ps :=
    List.forall_mem_map.mpr fun c _ => Pieces.spelled_ident c
  have hinto : Pieces.Spelled A (.sql "INSERT INTO " :: .table s.table :: .sql " (" ::
      Pieces.join ", " (s.columns.map fun c => [.ident (Ident.parse c)])) :=
    Pieces.spelled_word (by decide) (Pieces.spelled_table s.table
      (Pieces.spelled_word (by decide) (Pieces.spelled_join _ (by decide) hcolumns)))
  have hvalues := Pieces.spelled_word (s := ") VALUES ") (by decide)
    (Pieces.spelled_join ", " (by decide) (Value.spelled_of_pieceRows s.rows hrows hgroups))
  refine (hinto.append hvalues).append ?_
  cases hd : s.onDuplicate with
  | none => exact Pieces.spelled_nil
  | some sql => exact Pieces.spelled_word (by decide) (Pieces.spelled_sql (hduplicate sql (by simp [hd])))

theorem Assignment.spelled_of_pieces (a : Assignment) (hf : ∀ f ∈ a.fragments, Spelled A f) {ps : Pieces}
    (hp : a.pieces = .ok ps) : ps.Spelled A := by
  cases a with
  | value v => exact v.spelled_of_pieces hf hp
  | raw sql => cases hp; exact Pieces.spelled_sql (hf sql List.mem_cons_self)

theorem Assignment.spelled_of_piecesAll :
    ∀ (fields : List (String × Assignment)), (∀ f ∈ fields.flatMap (·.2.fragments), Spelled A f) →
      ∀ {rows : List Pieces}, Assignment.piecesAll fields = .ok rows → ∀ ps ∈ rows, ps.Spelled A
  | [], _, _, hp => by cases hp; simp
  | (column, a) :: rest, hf, _, hp => by
    obtain ⟨ha, hrest⟩ := List.forall_mem_append.mp hf
    obtain ⟨ps, hps, hp⟩ := bind_ok hp
    obtain ⟨rows, hrows, hp⟩ := bind_ok hp
    cases hp
    have hset := Pieces.spelled_word (s := " = ") (by decide) (a.spelled_of_pieces ha hps)
    exact List.forall_mem_cons.mpr
      ⟨Pieces.spelled_cons ⟨column, rfl⟩ hset, Assignment.spelled_of_piecesAll rest hrest hrows⟩

theorem Update.spelled_of_pieces (s : Update) (hf : ∀ f ∈ s.fragments, Spelled A f) {ps : Pieces}
    (hp : s.pieces = .ok ps) : ps.Spelled A := by
  obtain ⟨htable, hf⟩ := List.forall_mem_append.mp hf
  obtain ⟨hfields, hf⟩ := List.forall_mem_append.mp hf
  obtain ⟨hjoins, hconditions⟩ := List.forall_mem_append.mp hf
  obtain ⟨table, sets, tablePieces, joinRows, wherePieces, ht, hs, hts, hjs, hw, rfl⟩ := Update.pieces_ok hp
  rw [ht] at htable
  have hupdate := Pieces.spelled_word (s := "UPDATE ") (by decide) (table.spelled_of_pieces htable hts)
  have hset := Pieces.spelled_word (s := " SET ") (by decide)
    (Pieces.spelled_join ", " (by decide) (Assignment.spelled_of_piecesAll s.fields hfields hs))
  have hjoined := Pieces.spelled_joined (s.joins.spelled_of_pieces hjoins hjs)
  have hwhere := Pieces.spelled_clause "WHERE" (by decide) (s.conditions.spelled_of_pieces hconditions hw)
  exact ((hupdate.append hset).append hjoined).append hwhere

theorem Delete.spelled_of_pieces (s : Delete) (hf : ∀ f ∈ s.fragments, Spelled A f) {ps : Pieces}
    (hp : s.pieces = .ok ps) : ps.Spelled A := by
  unfold Delete.fragments at hf
  unfold Delete.pieces at hp
  obtain ⟨_, _, hp⟩ := bind_ok hp
  split at hp
  · cases hp
    exact Pieces.spelled_word (by decide) (Pieces.spelled_table s.table Pieces.spelled_nil)
  · rename_i ht
    rw [if_neg ht] at hf
    obtain ⟨wherePieces, hw, hp⟩ := bind_ok hp
    cases hp
    have hwhere := Pieces.spelled_clause "WHERE" (by decide) (s.conditions.spelled_of_pieces hf hw)
    exact (Pieces.spelled_word (by decide) (Pieces.spelled_table s.table Pieces.spelled_nil)).append hwhere

/-- The SQL around the values and identifiers of a statement keeps to every alphabet its fragments keep to. -/
theorem Statement.spelled_of_pieces (s : Statement) (hf : ∀ f ∈ s.fragments, Spelled A f) {ps : Pieces}
    (hp : s.pieces = .ok ps) : ps.Spelled A := by
  cases s with
  | select s => exact s.spelled_of_pieces hf hp
  | insert s => exact s.spelled_of_pieces hf hp
  | update s => exact s.spelled_of_pieces hf hp
  | delete s => exact s.spelled_of_pieces hf hp

end SqlComposer
