/-
  SqlComposer.Proofs.Composing.FieldLists — the columns of a field list.

  A field is written as a name or a star, with a qualifier and a dot before it or without,
  and with the word AS and a label behind it or without. AS may be in either letter case,
  and white space stands before and behind it. What a name, a qualifier and a label may
  hold is what no reader takes for something else (`Text.IsWord`); the word AS is one of
  them.

  Proved: such a field is read as it is written (`NamedField.parse_spelled`), so a SELECT
  whose first table has an alias writes each field of a list behind its qualifier, or else
  behind that alias, with its label, and the rest of the SELECT does not change
  (`Select.setFields_join`).
-/

import SqlComposer.Proofs.Naming.Columns
import SqlComposer.Proofs.Succeeding
import SqlComposer.Proofs.Text.CommaLists
import SqlComposer.Proofs.Text.Words

namespace SqlComposer

/-! ## Words -/

/-- A text without white space, dots, quotes, commas and parentheses. -/
structure Text.IsWord (s : String) : Prop where
  nonempty : s ≠ ""
  word : ∀ c ∈ s.toList, SqlComposer.isBlank c = false
  plain : ∀ c ∈ s.toList, c ≠ '.' ∧ CommaList.IsPlain c

namespace Text.IsWord

theorem iff_forall {s : String} :
    IsWord s ↔ s ≠ "" ∧ s.toList.Forall fun c => SqlComposer.isBlank c = false ∧ c ≠ '.' ∧ CommaList.IsPlain c := by
  rw [List.forall_iff_forall_mem]
  constructor
  · intro h
    exact ⟨h.nonempty, fun c hc => ⟨h.word c hc, h.plain c hc⟩⟩
  · rintro ⟨hne, h⟩
    exact ⟨hne, fun c hc => (h c hc).1, fun c hc => (h c hc).2⟩

instance (s : String) : Decidable (IsWord s) := decidable_of_iff _ iff_forall.symm

theorem segment {s : String} (h : IsWord s) : Ident.Segment s where
  nonempty := h.nonempty
  trimmed := ⟨fun c hc => h.word c (List.mem_of_mem_head? hc), fun c hc => h.word c (List.mem_of_mem_getLast? hc)⟩
  plain := by
    intro c hc
    obtain ⟨hdot, hplain⟩ := h.plain c hc
    have hquotes : c ≠ '\x60' ∧ c ≠ '"' := by
      constructor <;> rintro rfl <;> exact hplain (by decide)
    exact ⟨hdot, by simp [Ident.isQuote, hquotes]⟩

end Text.IsWord

/-! ## Fields -/

/-- A column of a field list. -/
structure NamedField where
  qualifier : Option String
  name : String
  label : Option String

namespace NamedField

/-- The qualifier and the name with a dot between them. -/
def parts (f : NamedField) : List String := f.qualifier.toList ++ [f.name]

def reference (f : NamedField) : String := Text.join "." f.parts

structure WellFormed (f : NamedField) : Prop where
  parts : ∀ part ∈ f.parts, Text.IsWord part
  label : ∀ label ∈ f.label, Text.IsWord label

instance (f : NamedField) : Decidable f.WellFormed :=
  decidable_of_iff ((∀ part ∈ f.parts, Text.IsWord part) ∧ ∀ label ∈ f.label, Text.IsWord label)
    ⟨fun ⟨hparts, hlabel⟩ => ⟨hparts, hlabel⟩, fun h => ⟨h.parts, h.label⟩⟩

/-- How a field is written. -/
inductive Spelled : NamedField → String → Prop
  | bare {q : Option String} {n entry : String} (h : Text.Around (reference ⟨q, n, none⟩) entry) :
      Spelled ⟨q, n, none⟩ entry
  | labelled {q : Option String} {n label entry : String} (gap as gap' : String) (hgap : Text.isBlank gap = true)
      (hne : gap ≠ "") (has : Text.fold as = "as") (hgap' : Text.isBlank gap' = true) (hne' : gap' ≠ "")
      (h : Text.Around (reference ⟨q, n, some label⟩ ++ (gap ++ as ++ gap') ++ label) entry) :
      Spelled ⟨q, n, some label⟩ entry

/-- What a SELECT writes for the field: behind its own qualifier or the alias, the name in quotes, or a star. -/
def text (d : Dialect) (a : String) (f : NamedField) : String :=
  f.qualifier.getD a ++ "." ++ Ident.partSql d.engine.quoteChar f.name ++
    match f.label with
    | some label => " AS " ++ label
    | none => ""

end NamedField

/-! ## Reading labels -/

namespace Chars

theorem labelled_cons (before : List Char) (c : Char) (cs : List Char) :
    labelled before (c :: cs) =
      match before.isEmpty, labelOf (c :: cs) with
      | false, some label => some (before.reverse, label)
      | _, _ => if c == '\n' then none else labelled (c :: before) cs := by
  rfl

/-- No label begins inside a word. -/
theorem labelled_word_append {w : List Char} (hw : ∀ c ∈ w, isBlank c = false) (before rest : List Char) :
    labelled before (w ++ rest) = labelled (w.reverse ++ before) rest := by
  induction w generalizing before with
  | nil => rfl
  | cons c w ih =>
    obtain ⟨hc, hw⟩ := List.forall_mem_cons.mp hw
    have hnone : labelOf (c :: (w ++ rest)) = none := by simp [labelOf, hc]
    have hline : (c == '\n') = false := by
      rw [beq_eq_false_iff_ne]
      rintro rfl
      cases hc
    rw [List.cons_append, labelled_cons, hnone, hline]
    simpa using ih hw (c :: before)

/-- The word AS, in whichever letter case, stands for nothing that is not a letter. -/
theorem fold_as {as : List Char} (h : as.map fold = ['a', 's']) : ∀ c ∈ as, isBlank c = false ∧ CommaList.IsPlain c := by
  have hletter : ∀ c ∈ ['a', 's'], isBlank c = false := List.forall_iff_forall_mem.mp (by decide)
  have hmarks : ∀ c ∈ ",()'\"\x60".toList, fold c ∉ ['a', 's'] := List.forall_iff_forall_mem.mp (by decide)
  intro c hc
  have hfold : fold c ∈ ['a', 's'] := h ▸ List.mem_map_of_mem hc
  exact ⟨isBlank_fold c ▸ hletter _ hfold, fun hmem => hmarks c hmem hfold⟩

theorem labelOf_as {gap as gap' label : List Char} (hgap : ∀ c ∈ gap, isBlank c = true) (hne : gap ≠ [])
    (has : as.map fold = ['a', 's']) (hgap' : ∀ c ∈ gap', isBlank c = true) (hne' : gap' ≠ [])
    (hlabel : ∀ c ∈ label, isBlank c = false) (hnel : label ≠ []) :
    labelOf (gap ++ (as ++ (gap' ++ label))) = some label := by
  obtain ⟨b, gap, rfl⟩ := List.exists_cons_of_ne_nil hne
  obtain ⟨b', gap', rfl⟩ := List.exists_cons_of_ne_nil hne'
  have hb : isBlank b = true := hgap b List.mem_cons_self
  have hb' : isBlank b' = true := hgap' b' List.mem_cons_self
  have hword : ∀ c ∈ as, isBlank c = false := fun c hc => (fold_as has c hc).1
  have hstart : ∀ c ∈ (as ++ (b' :: gap' ++ label)).head?, isBlank c = false := by
    cases as with
    | nil => cases has
    | cons a as => simpa using hword a List.mem_cons_self
  have hlabel' : trimStart (b' :: gap' ++ label) = label :=
    trimStart_append hgap' fun c hc => hlabel c (List.mem_of_mem_head? hc)
  have hsplit : as ++ (b' :: gap' ++ label) = as ++ b' :: (gap' ++ label) := by simp
  have hkept : (!label.isEmpty && !label.any isBlank) = true := by simpa [hnel] using hlabel
  rw [labelOf, trimStart_append hgap hstart, hsplit, stripAs_word hword hb', if_pos has, ← List.cons_append, hlabel',
    Option.filter_some, if_pos hkept]
  simp [hb]

/-- A label behind a word and white space is found, and the word in front of it. -/
theorem labelled_word {w rest label : List Char} (hw : ∀ c ∈ w, isBlank c = false) (hne : w ≠ [])
    (h : labelOf rest = some label) : labelled [] (w ++ rest) = some (w, label) := by
  cases rest with
  | nil => cases h
  | cons c rest =>
    have hfront : (w.reverse ++ []).isEmpty = false := by simpa using hne
    rw [labelled_word_append hw, labelled_cons, hfront, h]
    simp

theorem labelled_of_word {w : List Char} (hw : ∀ c ∈ w, isBlank c = false) : labelled [] w = none := by
  have hread := labelled_word_append hw [] []
  rwa [List.append_nil] at hread

end Chars

/-! ## Reading fields -/

namespace NamedField

variable {f : NamedField} {entry : String}

theorem reference_bare (n : String) (label : Option String) : reference ⟨none, n, label⟩ = n := by
  simp [reference, parts, Text.join]

theorem reference_qualified (q n : String) (label : Option String) : reference ⟨some q, n, label⟩ = q ++ "." ++ n := by
  simp [reference, parts, Text.join, String.intercalate_cons_cons]

theorem WellFormed.reference (hf : f.WellFormed) :
    f.reference ≠ "" ∧ ∀ c ∈ f.reference.toList, isBlank c = false ∧ CommaList.IsPlain c := by
  have hword {part : String} (hpart : part ∈ f.parts) : ∀ c ∈ part.toList, isBlank c = false ∧ CommaList.IsPlain c :=
    fun c hc => ⟨(hf.parts part hpart).word c hc, ((hf.parts part hpart).plain c hc).2⟩
  have hname : f.name ∈ f.parts := List.mem_append_right _ (List.mem_singleton_self _)
  have hne : f.name ≠ "" := (hf.parts _ hname).nonempty
  obtain ⟨_ | q, n, label⟩ := f
  · rw [reference_bare]
    exact ⟨hne, hword hname⟩
  · rw [reference_qualified]
    refine ⟨by simp [hne], ?_⟩
    simp only [String.toList_append, List.forall_mem_append]
    exact ⟨⟨hword List.mem_cons_self, List.forall_iff_forall_mem.mp (by decide)⟩, hword hname⟩

theorem WellFormed.trim_reference (hf : f.WellFormed) : Text.trim f.reference = f.reference := by
  rw [← String.ofList_toList (s := f.reference), Text.trim_word fun c hc => (hf.reference.2 c hc).1]

/-- What is read is a text without white space around it, in which nothing but the label stands out. -/
theorem Spelled.exists_inner (hf : f.WellFormed) (h : f.Spelled entry) :
    ∃ inner, Text.Around inner entry ∧ Text.trim inner = inner ∧ inner ≠ "" ∧
      (∀ c ∈ inner.toList, CommaList.IsPlain c) ∧ (f.label = none → inner = f.reference) ∧
      Chars.labelled [] inner.toList = f.label.map fun label => (f.reference.toList, label.toList) := by
  obtain ⟨hne, hchars⟩ := hf.reference
  have hword : ∀ c ∈ f.reference.toList, isBlank c = false := fun c hc => (hchars c hc).1
  have hplain : ∀ c ∈ f.reference.toList, CommaList.IsPlain c := fun c hc => (hchars c hc).2
  cases h with
  | bare h =>
    refine ⟨_, h, ?_, hne, hplain, fun _ => rfl, Chars.labelled_of_word hword⟩
    exact hf.trim_reference
  | @labelled q n label entry gap as gap' hgap hgapne has hgap' hgapne' h =>
    have hlabel : Text.IsWord label := hf.label label rfl
    have hgap := Text.isBlank_iff.mp hgap
    have hgap' := Text.isBlank_iff.mp hgap'
    have has := Text.fold_eq_as.mp has
    -- The reference is one word, so no label begins before the first white space behind it.
    have hfound : Chars.labelOf (gap.toList ++ (as.toList ++ (gap'.toList ++ label.toList))) = some label.toList :=
      Chars.labelOf_as hgap (by simpa using hgapne) has hgap' (by simpa using hgapne') hlabel.word
        (by simpa using hlabel.nonempty)
    refine ⟨_, h, ?_, by simp [hne], ?_, nofun, ?_⟩
    · exact Text.trim_append hne hlabel.nonempty (fun c hc => hword c (List.mem_of_mem_head? hc))
        (fun c hc => hlabel.word c (List.mem_of_mem_getLast? hc)) _
    · simp only [String.toList_append, List.forall_mem_append]
      exact ⟨⟨hplain, ⟨fun c hc => CommaList.isPlain_of_blank (hgap c hc), fun c hc => (Chars.fold_as has c hc).2⟩,
        fun c hc => CommaList.isPlain_of_blank (hgap' c hc)⟩, fun c hc => (hlabel.plain c hc).2⟩
    · simp only [String.toList_append, List.append_assoc]
      exact Chars.labelled_word hword (by simpa using hne) hfound

theorem parse_reference (hf : f.WellFormed) : Ident.parse f.reference = ⟨f.parts⟩ :=
  Ident.parse_join fun part hpart => (hf.parts part hpart).segment

/-- A field is read as it is written. -/
theorem parse_spelled (hf : f.WellFormed) (h : f.Spelled entry) :
    CommaList.Closed entry.toList ∧ Text.trim entry ≠ "" ∧
      Field.parse (Text.trim entry) = ⟨f.qualifier, .column f.name f.label⟩ := by
  obtain ⟨inner, haround, htrim, hne, hplain, hbare, hlabelled⟩ := h.exists_inner hf
  rw [haround.trim_eq, htrim]
  refine ⟨haround.closed (CommaList.closed_of_plain hplain), hne, ?_⟩
  have hcall : Text.hasCall inner = false := by
    refine eq_false_of_ne_true fun h => ?_
    obtain ⟨before, c, after, hsplit, -, gap, rest, rfl, -⟩ := Text.hasCall_iff.mp h
    exact hplain '(' (by simp [hsplit]) (by decide)
  have hreference : String.ofList (Chars.trim f.reference.toList) = f.reference := hf.trim_reference
  obtain ⟨q, n, label⟩ := f
  have hparts : (Ident.parse (reference ⟨q, n, label⟩)).parts = q.toList ++ [n] :=
    congrArg Ident.parts (parse_reference hf)
  rw [Field.parse, hcall, if_neg Bool.false_ne_true, hlabelled]
  -- Read without a qualifier, a field keeps its column as it was given, which is the name.
  cases label with
  | none =>
    obtain rfl := hbare rfl
    dsimp only [Option.map_none]
    rw [hparts]
    cases q with
    | none =>
      rw [reference_bare]
      rfl
    | some q => rfl
  | some label =>
    dsimp only [Option.map_some]
    rw [hreference, hparts, String.ofList_toList]
    cases q with
    | none =>
      rw [reference_bare]
      rfl
    | some q => rfl

/-! ## Writing fields -/

/-- A field without a qualifier of its own is written behind the alias of the first table. -/
theorem render_field (hf : f.WellFormed) {sc : Scope} {a : String} (ha : sc.leading = some a) (d : Dialect) :
    (⟨f.qualifier, .column f.name f.label⟩ : Field).render d sc = .ok (f.text d a) := by
  have hname : f.name ∈ f.parts := List.mem_append_right _ (List.mem_singleton_self _)
  have hqualifier : (f.qualifier <|> sc.leading) = some (f.qualifier.getD a) := by
    rw [ha]
    cases f.qualifier <;> rfl
  have hquoted : d.quoteIdent ⟨[f.name]⟩ = Ident.partSql d.engine.quoteChar f.name := by
    simp [Dialect.quoteIdent, Ident.toSql, Text.join]
  rw [Field.render_name (hf.parts _ hname).segment.parse_eq hqualifier, Dialect.underAlias, hquoted, text]
  cases f.label with
  | none => rw [withAlias, String.append_empty]
  | some label => rw [withAlias, String.append_assoc]

/-- Entries that are all written as fields are closed, say something, and are read and rendered as these fields. -/
theorem renderAll_spelled {fields : List NamedField} {entries : List String} (hfields : ∀ f ∈ fields, f.WellFormed)
    (h : List.Forall₂ Spelled fields entries) {sc : Scope} {a : String} (ha : sc.leading = some a) (d : Dialect) :
    (∀ e ∈ entries, CommaList.Closed e.toList ∧ Text.trim e ≠ "") ∧
      Field.renderAll d sc ((entries.map Text.trim).map Field.parse) = .ok (fields.map (text d a)) := by
  induction h with
  | nil => exact ⟨by simp, rfl⟩
  | cons hentry _ ih =>
    obtain ⟨hf, hfields⟩ := List.forall_mem_cons.mp hfields
    obtain ⟨hclosed, hne, hparse⟩ := parse_spelled hf hentry
    obtain ⟨hfilled, hrendered⟩ := ih hfields
    refine ⟨List.forall_mem_cons.mpr ⟨⟨hclosed, hne⟩, hfilled⟩, ?_⟩
    rw [List.map_cons, List.map_cons, Field.renderAll, hparse, render_field hf ha, hrendered]
    rfl

end NamedField

namespace Select

/-! ## A SELECT -/

/-- What a SELECT writes between SELECT and FROM, its fields rendered. -/
def projection (leading : Option String) (fields : List String) : String :=
  if fields.isEmpty then
    match leading with
    | some a => a ++ ".*"
    | none => "*"
  else Text.join ", " fields

/-- What it writes behind FROM. -/
def behindFields (d : Dialect) (s : Select) : Except Error String := do
  refuse s.firstFault
  if s.tables.isEmpty then .error (.builder .selectNeedsTable)
  let tableSqls ← TableRef.renderAll d s.tables
  let joinSql ← s.joins.render d
  let whereSql ← s.conditions.render d
  let havingSql ← Predicate.renderOption d s.having
  return Text.join ", " tableSqls ++ (if joinSql.isEmpty then "" else " " ++ joinSql) ++
    clause "WHERE" whereSql.toList ++ clause "GROUP BY" (s.groupBy.map (s.scope.groupTerm d)) ++
    clause "HAVING" havingSql.toList ++ clause "ORDER BY" (s.orderBy.map (s.scope.orderTerm d)) ++ limitClause s.limit

/-- The fields are written between SELECT and FROM, and what stands behind them is the same with any of them. -/
theorem render_withFields (s : Select) (d : Dialect) {fields : List Field} {sqls : List String}
    (h : Field.renderAll d s.scope fields = .ok sqls) :
    ({ s with fields } : Select).render d = (s.behindFields d).map fun sql =>
      "SELECT " ++ projection s.scope.leading sqls ++ " FROM " ++ sql := by
  have hempty : fields.isEmpty = sqls.isEmpty := by
    cases fields with
    | nil =>
      obtain rfl := Except.ok.inj h
      rfl
    | cons f rest =>
      obtain ⟨sql, -, h⟩ := bind_ok h
      obtain ⟨rests, -, h⟩ := bind_ok h
      obtain rfl := Except.ok.inj h
      rfl
  obtain ⟨tables, old, joins, conditions, groupBy, having, orderBy, limit, fault⟩ := s
  have hfields : Field.renderAll d (Select.scope ⟨tables, fields, joins, conditions, groupBy, having, orderBy, limit,
    fault⟩) fields = pure sqls := h
  show _ = _ <$> _
  rw [render, hfields, hempty, behindFields, firstFault]
  dsimp only
  cases refuse (fault <|> conditions.fault <|> joins.fault) with
  | error f => rfl
  | ok =>
    cases tables with
    | nil => rfl
    | cons first others =>
      simp only [List.isEmpty_cons, Bool.false_eq_true, if_false, map_bind, map_pure, pure_bind, String.append_assoc]
      rfl

/-- A SELECT whose first table has an alias writes the fields of a list in their order, each behind its own qualifier or
else behind that alias, and with its label. Without fields it writes the alias and a star, and what stands behind them
is the same. -/
theorem setFields_join {s : Select} {first : TableRef} {others : List TableRef} {a : String}
    (htables : s.tables = first :: others) (ha : first.aliasName = some a) (d : Dialect) :
    (s.setFields "").render d = (s.behindFields d).map (fun sql => "SELECT " ++ (a ++ ".*") ++ " FROM " ++ sql) ∧
      ∀ fields entries, fields ≠ [] → (∀ f ∈ fields, NamedField.WellFormed f) →
        List.Forall₂ NamedField.Spelled fields entries →
        let named := s.setFields (Text.join "," entries)
        Field.renderAll d named.scope named.fields = .ok (fields.map (NamedField.text d a)) ∧
          named.render d = (s.behindFields d).map fun sql =>
            "SELECT " ++ Text.join ", " (fields.map (NamedField.text d a)) ++ " FROM " ++ sql := by
  have hleading : s.scope.leading = some a := by rw [scope, htables, List.head?_cons, Option.bind_some, ha]
  constructor
  · rw [setFields, render_withFields s d rfl, hleading]
    rfl
  · intro fields entries hne hfields hentries
    obtain ⟨hfilled, hrendered⟩ := NamedField.renderAll_spelled hfields hentries hleading d
    rw [← Text.commaList_join_filled hfilled] at hrendered
    have hprojection : projection s.scope.leading (fields.map (NamedField.text d a)) =
        Text.join ", " (fields.map (NamedField.text d a)) := if_neg (by simpa using hne)
    refine ⟨hrendered, ?_⟩
    rw [setFields, render_withFields s d hrendered, hprojection]

/-- A name, a star and a qualifier that are the word AS. -/
theorem setFields_join_as :
    let s := empty.table "users u, orders"
    let fields : List NamedField := [⟨none, "as", some "as"⟩, ⟨some "b", "*", none⟩, ⟨some "as", "id", some "*"⟩]
    let entries := ["as AS as", " b.* ", "\tas.id \n aS  * "]
    let d := Dialect.offline .postgres
    s.tables = [⟨.name "users", some "u"⟩, ⟨.name "orders", some "b"⟩] ∧
      (∀ f ∈ fields, NamedField.WellFormed f) ∧ List.Forall₂ NamedField.Spelled fields entries ∧
      fields.map (NamedField.text d "u") = ["u.\"as\" AS as", "b.*", "as.\"id\" AS *"] ∧
      (s.setFields (Text.join "," entries)).render d = (s.behindFields d).map fun sql =>
        "SELECT " ++ Text.join ", " (fields.map (NamedField.text d "u")) ++ " FROM " ++ sql := by
  intro s fields entries d
  have tables : s.tables = [⟨.name "users", some "u"⟩, ⟨.name "orders", some "b"⟩] := by rfl
  have wellFormed : ∀ f ∈ fields, NamedField.WellFormed f := by decide
  have spelled : List.Forall₂ NamedField.Spelled fields entries :=
    .cons (.labelled " " "AS" " " (by decide) (by decide) (by decide) (by decide) (by decide)
        ⟨"", "", by decide, rfl, rfl⟩)
      (.cons (.bare ⟨" ", " ", by decide, rfl, rfl⟩)
        (.cons (.labelled " \n " "aS" "  " (by decide) (by decide) (by decide) (by decide) (by decide)
          ⟨"\t", " ", by decide, rfl, rfl⟩) .nil))
  refine ⟨tables, wellFormed, spelled, by decide, ?_⟩
  exact ((setFields_join tables rfl d).2 fields entries (by simp) wellFormed spelled).2

end Select

end SqlComposer
