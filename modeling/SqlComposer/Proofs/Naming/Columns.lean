/-
  SqlComposer.Proofs.Naming.Columns — a column behind a qualifier, wherever a SELECT
  writes it.

  A text such as `u.age` may stand in the field list, in GROUP BY, in ORDER BY and as a
  column operand of an expression. There are two spellings: the qualifier bare, as
  aliases are declared, or in quotes, as names are.

  Proved (`Select.spellings_of_dotted`): GROUP BY and ORDER BY leave a declared alias bare
  and quote any other qualifier; the field list leaves every qualifier bare, and operands
  quote every one. So the four agree with each other for no qualifier but a star, which
  is never quoted (`Dialect.underAlias_eq_underName`): in
  `Select.render_dotted_differently` one SELECT writes one column in two ways, twice.
-/

import SqlComposer.Proofs.Composing.Interleaving
import SqlComposer.Proofs.Naming.Segments

namespace SqlComposer

/-! ## Spellings -/

namespace Dialect

/-- The qualifier as it is, the name in quotes. -/
def underAlias (d : Dialect) (q n : String) : String := q ++ "." ++ d.quoteIdent ⟨[n]⟩

/-- Both in quotes. -/
def underName (d : Dialect) (q n : String) : String := d.quoteIdent ⟨[q, n]⟩

theorem underName_eq (d : Dialect) (q n : String) :
    d.underName q n = Ident.partSql d.engine.quoteChar q ++ "." ++ d.quoteIdent ⟨[n]⟩ := by
  simp [underName, quoteIdent, Ident.toSql, Text.join, String.intercalate_cons_cons]

theorem underAlias_eq_underName {d : Dialect} {q n : String} : d.underAlias q n = d.underName q n ↔ q = "*" := by
  rw [underName_eq, underAlias, String.append_left_inj, String.append_left_inj, Ident.partSql]
  split
  · next hq => exact iff_of_true (beq_iff_eq.mp hq) (beq_iff_eq.mp hq)
  · next hq =>
    refine iff_of_false ?_ (fun h => hq (beq_iff_eq.mpr h))
    intro h
    have hlength := congrArg String.length h
    simp at hlength
    omega

end Dialect

/-- How a scope spells a column behind a qualifier. -/
def Scope.spelled (sc : Scope) (d : Dialect) (q n : String) : String :=
  if q ∈ sc.aliases then d.underAlias q n else d.underName q n

/-- A name of one segment is written behind its field's qualifier, or else behind the leading alias. -/
theorem Field.render_name {n : String} (hn : Ident.parse n = ⟨[n]⟩) {sc : Scope} {qualifier : Option String} {q : String}
    (hq : (qualifier <|> sc.leading) = some q) (label : Option String) (d : Dialect) :
    (⟨qualifier, .column n label⟩ : Field).render d sc = .ok (withAlias (d.underAlias q n) label) := by
  have hqualifier : sc.qualifierOf ⟨qualifier, .column n label⟩ = some q := by
    rw [Scope.qualifierOf]
    dsimp only
    rw [hn, if_neg (by simp), hq]
  have hcolumn : sc.column d (some q) n = d.underAlias q n := by
    rw [Scope.column, hn]
    rfl
  rw [Field.render, hqualifier, FieldTerm.render, hcolumn]

/-! ## One column behind a qualifier -/

/-- A text that is one column, a name behind a qualifier; it calls no function and has no label. -/
structure DottedColumn (c q n : String) : Prop where
  single : Text.commaList c = [Text.trim c]
  parts : (Ident.parse c).parts = [q, n]
  plain : Text.hasCall (Text.trim c) = false
  unlabelled : Chars.labelled [] (Text.trim c).toList = none

namespace DottedColumn

variable {c q n : String}

theorem parse_trim (h : DottedColumn c q n) : Ident.parse (Text.trim c) = ⟨[q, n]⟩ := by
  rw [Ident.parse_trim, ← h.parts]

theorem parse_name (h : DottedColumn c q n) : Ident.parse n = ⟨[n]⟩ := by
  have hmem : n ∈ (Ident.parse c).parts := by simp [h.parts]
  exact (Ident.segment_of_parse hmem).parse_eq

theorem field (h : DottedColumn c q n) : Field.parse (Text.trim c) = ⟨some q, .column n none⟩ := by
  rw [Field.parse, h.plain, if_neg Bool.false_ne_true, h.unlabelled]
  dsimp only
  rw [h.parse_trim]

/-- The dot is no digit. -/
theorem not_number (h : DottedColumn c q n) : (Text.trim c).toList.all Char.isDigit = false := by
  rw [← Bool.not_eq_true, List.all_eq_true]
  intro hdigits
  have hdot : '.' ∉ (Text.trim c).toList := fun hmem => absurd (hdigits '.' hmem) (by decide)
  have htwo : (Ident.segments (Text.trim c).toList).length = 2 := by
    have hparts : (Ident.parse (Text.trim c)).parts = [q, n] := by rw [h.parse_trim]
    simp only [Ident.parse] at hparts
    rw [← List.length_map String.ofList, hparts]
    rfl
  have hone := List.length_filter_le (!·.isEmpty) [Chars.trim ((Text.trim c).toList.filter (!Ident.isQuote ·))]
  rw [← Ident.segments_of_plain hdot, htwo] at hone
  simp at hone

variable (d : Dialect)

/-- The field's own qualifier is written without a look at the aliases. -/
theorem render_field (h : DottedColumn c q n) (sc : Scope) :
    (Field.parse (Text.trim c)).render d sc = .ok (d.underAlias q n) := by
  rw [h.field, Field.render_name h.parse_name rfl]
  rfl

theorem column_eq_spelled (h : DottedColumn c q n) (sc : Scope) :
    sc.column d none (Text.trim c) = sc.spelled d q n := by
  have hrest : Ident.parse (Text.join "." [n]) = ⟨[n]⟩ :=
    (congrArg Ident.parse (by simp [Text.join])).trans h.parse_name
  rw [Scope.column, h.parse_trim]
  dsimp only
  rw [hrest, Scope.spelled]
  by_cases hq : q ∈ sc.aliases
  · rw [if_pos hq, if_pos (List.contains_iff_mem.mpr hq), Dialect.underAlias]
  · rw [if_neg hq, if_neg (mt List.contains_iff_mem.mp hq)]
    rfl

theorem groupTerm_eq_spelled (h : DottedColumn c q n) (sc : Scope) :
    sc.groupTerm d (Text.trim c) = sc.spelled d q n := by
  rw [Scope.groupTerm, h.not_number, h.plain, Bool.or_false, if_neg Bool.false_ne_true, h.column_eq_spelled]

theorem orderTerm_eq_spelled (h : DottedColumn c q n) (sc : Scope) (order : Order) :
    sc.orderTerm d (Text.trim c, order) = sc.spelled d q n ++ " " ++ order.keyword := by
  rw [Scope.orderTerm]
  dsimp only
  rw [h.plain, if_neg Bool.false_ne_true, h.column_eq_spelled]

/-- Operands know no aliases. -/
theorem render_operand (h : DottedColumn c q n) (qualifier : Option String) :
    Operand.render d qualifier (.column c) = .ok (d.underName q n) := by
  have hident : Ident.parse c = ⟨[q, n]⟩ := by rw [← h.parts]
  have hstar : Ident.isStar ⟨[q, n]⟩ = false := by simp [Ident.isStar]
  unfold Operand.render Operand.columnSql
  rw [hident]
  dsimp only
  rw [hstar, if_neg Bool.false_ne_true]
  cases qualifier <;> rfl

end DottedColumn

/-! ## A SELECT -/

namespace Select

/-- A term of one word has no direction of its own. -/
theorem orderTerm_word {order : Order} {term : String} (hword : ∀ b ∈ term.toList, isBlank b = false) :
    orderTerm order term = .ok (term, order) := by
  rw [orderTerm, Chars.splitLast_eq_none.mpr hword]

/-- Of several words the last one is taken for a direction. -/
theorem orderTerm_words {order : Order} {term : String} (hcall : Text.hasCall term = false)
    (hwords : ∃ b ∈ term.toList, isBlank b = true) :
    (∃ f, orderTerm order term = .error f) ∨
      ∃ column direction, orderTerm order term = .ok (column, direction) ∧ column ≠ term := by
  cases hsplit : Chars.splitLast isBlank term.toList with
  | none =>
    obtain ⟨b, hb, hblank⟩ := hwords
    have hword := Chars.splitLast_eq_none.mp hsplit b hb
    rw [hblank] at hword
    cases hword
  | some split =>
    obtain ⟨before, word⟩ := split
    obtain ⟨b, -, hterm, -⟩ := Chars.splitLast_some hsplit
    rw [orderTerm, hsplit]
    dsimp only
    cases Order.ofText (String.ofList word) with
    | error f => exact .inl ⟨.named f, by rw [hcall]; rfl⟩
    | ok direction =>
      refine .inr ⟨_, direction, rfl, ?_⟩
      intro hsame
      have hlength : (Chars.trim before).length = (before ++ b :: word).length := by
        rw [← hterm, ← hsame, String.toList_ofList]
      have hle := Chars.length_trim_le before
      rw [List.length_append, List.length_cons] at hlength
      omega

theorem orderedBy_single (s : Select) {c : String} (hc : Text.commaList c = [Text.trim c]) (order : Order) :
    (s.orderedBy c order).orderBy = s.orderBy ++ (orderTerm order (Text.trim c)).toOption.toList ∧
      (s.orderedBy c order).fault = (s.fault <|> faultOf (orderTerm order (Text.trim c))) := by
  rw [orderedBy, hc, appendOrder_eq, readTerms]
  cases hterm : orderTerm order (Text.trim c) <;> simp [readTerms, faultOf, Except.toOption, hterm]

/-- How a column behind a qualifier is written. GROUP BY does not quote a declared alias and quotes any other qualifier,
and so does ORDER BY where the column is one word, and is taken whole; a field list quotes no qualifier, an operand
every one. -/
theorem spellings_of_dotted (s : Select) (d : Dialect) {c q n : String} (h : DottedColumn c q n) (order : Order) :
    let spelled := if q ∈ s.scope.aliases then d.underAlias q n else d.underName q n
    let ordered := s.orderedBy c order
    Field.renderAll d (s.setFields c).scope (s.setFields c).fields = .ok [d.underAlias q n] ∧
      (s.setGroupBy c).groupBy.map ((s.setGroupBy c).scope.groupTerm d) = [spelled] ∧
      ((∀ b ∈ (Text.trim c).toList, isBlank b = false) → ordered.fault = s.fault ∧
        ordered.orderBy.map (ordered.scope.orderTerm d) =
          s.orderBy.map (s.scope.orderTerm d) ++ [spelled ++ " " ++ order.keyword]) ∧
      ((∃ b ∈ (Text.trim c).toList, isBlank b = true) → ordered.fault ≠ none ∨
        ∃ column direction, ordered.orderBy = s.orderBy ++ [(column, direction)] ∧ column ≠ Text.trim c) ∧
      (∀ qualifier, Operand.render d qualifier (.column c) = .ok (d.underName q n)) ∧
      (d.underAlias q n = d.underName q n ↔ q = "*") := by
  intro spelled ordered
  obtain ⟨hterms, hfault⟩ := s.orderedBy_single h.single order
  refine ⟨?_, ?_, fun hword => ?_, fun hwords => ?_, h.render_operand d, Dialect.underAlias_eq_underName⟩
  · rw [setFields, h.single, List.map_singleton, Field.renderAll, h.render_field]
    rfl
  · rw [setGroupBy, h.single, List.map_singleton, h.groupTerm_eq_spelled]
    rfl
  · rw [orderTerm_word hword] at hterms hfault
    have hscope : ordered.scope = s.scope := by
      show (s.orderedBy c order).scope = s.scope
      rw [orderedBy, appendOrder_eq]
      rfl
    refine ⟨by simpa [faultOf] using hfault, ?_⟩
    rw [hscope, hterms, List.map_append]
    exact congrArg _ (congrArg (fun sql => [sql]) (h.orderTerm_eq_spelled d s.scope order))
  · rcases orderTerm_words h.plain hwords with ⟨f, hf⟩ | ⟨column, direction, hok, hne⟩
    · rw [hf] at hfault
      refine .inl ?_
      rw [hfault]
      cases s.fault <;> simp [faultOf]
    · rw [hok] at hterms
      exact .inr ⟨column, direction, hterms, hne⟩

/-- The age of the users of a joined table, who have an alias. -/
theorem spellings_of_dotted_age :
    let s := (empty.table "users U").join (.spec "Orders" "Orders.user = U.id" .inner)
    DottedColumn "U.age" "U" "age" ∧
      (s.setGroupBy "U.age").groupBy.map ((s.setGroupBy "U.age").scope.groupTerm (.offline .postgres)) = ["U.\"age\""] ∧
      Operand.render (.offline .postgres) none (.column "U.age") = .ok "\"U\".\"age\"" := by
  intro s
  have dotted : DottedColumn "U.age" "U" "age" := ⟨by decide, by decide, by decide, by decide⟩
  obtain ⟨-, grouped, -, -, operand, -⟩ := spellings_of_dotted s (.offline .postgres) dotted .asc
  exact ⟨dotted, grouped, operand none⟩

/-- A table without an alias is quoted as a group and not as a field; an alias is quoted as an operand and not as a
group. -/
theorem render_dotted_differently :
    let joined := (empty.table "users U").join (.spec "Orders" "Orders.user = U.id" .inner)
    let s := ((joined.setFields "Orders.total").fieldExpr (.ofColumn "max" "U.age")).setGroupBy "Orders.total, U.age"
    DottedColumn "Orders.total" "Orders" "total" ∧ "Orders" ∉ s.scope.aliases ∧
      DottedColumn "U.age" "U" "age" ∧ "U" ∈ s.scope.aliases ∧
      (s.render (.offline .postgres)).toOption =
        some ("SELECT Orders.\"total\", MAX(\"U\".\"age\") FROM \"users\" AS U INNER JOIN \"Orders\"" ++
          " ON Orders.user = U.id GROUP BY \"Orders\".\"total\", U.\"age\"") := by
  intro joined s
  have total : DottedColumn "Orders.total" "Orders" "total" := ⟨by decide, by decide, by decide, by decide⟩
  have age : DottedColumn "U.age" "U" "age" := ⟨by decide, by decide, by decide, by decide⟩
  refine ⟨total, by decide, age, by decide, ?_⟩
  decide +kernel +revert

end Select

end SqlComposer
