/-
  SqlComposer.Proofs.Rendering.Requoting — one statement for both engines.

  The engines differ in the quote around identifiers, and in the literals of texts with
  characters that one of them escapes.

  Proved: without such texts, and without backticks in its fragments, a statement for
  Postgres is the one for MySQL with double quotes for backticks, and is refused with the
  same fault (`Statement.render_requote`).
-/

import Mathlib.Data.List.Basic
import SqlComposer.Proofs.Rendering.Fragments
import SqlComposer.Proofs.Rendering.TableHook
import SqlComposer.Proofs.Rendering.Writing

namespace SqlComposer

/-! ## Changed quotes -/

/-- The text with a double quote for each backtick. -/
def requote (sql : String) : String := String.ofList (sql.toList.map fun c => if c = '\x60' then '"' else c)

theorem requote_append (a b : String) : requote (a ++ b) = requote a ++ requote b := by
  simp only [requote, String.toList_append, List.map_append, String.ofList_append]

/-- The characters without the backtick. -/
def unticked : Alphabet where
  Has c := c ≠ '\x60'
  plain c h := by
    rintro rfl
    cases h

theorem requote_of_spelled {s : String} (h : Spelled unticked s) : requote s = s := by
  have hkept : s.toList.map (fun c => if c = '\x60' then '"' else c) = s.toList.map id :=
    List.map_congr_left fun c hc => if_neg (h c hc)
  rw [requote, hkept, List.map_id, String.ofList_toList]

theorem requote_join {separator : String} (hs : requote separator = separator) (parts : List String) :
    requote (Text.join separator parts) = Text.join separator (parts.map requote) := by
  induction parts with
  | nil => rfl
  | cons part rest ih =>
    cases rest with
    | nil => simp [Text.join]
    | cons next rest =>
      simp only [Text.join, String.intercalate_cons_cons, List.map_cons, requote_append, hs] at ih ⊢
      rw [ih]

/-! ## Identifiers -/

theorem Ident.requote_partSql {part : String} (h : Segment part) :
    requote (partSql '\x60' part) = partSql '"' part := by
  have hpart : requote part = part := requote_of_spelled fun c hc he => by
    have hquote := (h.plain c hc).2
    rw [he] at hquote
    cases hquote
  have hmark : requote ('\x60').toString = ('"').toString := rfl
  unfold partSql
  split
  · rfl
  · rw [requote_append, requote_append, hmark, hpart]

theorem Ident.requote_toSql {i : Ident} (h : ∀ part ∈ i.parts, Segment part) :
    requote (i.toSql '\x60') = i.toSql '"' := by
  rw [toSql, requote_join rfl, toSql, List.map_map]
  exact congrArg _ (List.map_congr_left fun part hp => requote_partSql (h part hp))

/-! ## Literals -/

/-- The characters that do not stand for themselves in some literal, and the backtick. -/
def Literal.special : List Char := ['\x00', '\n', '\r', '\\', '\'', '"', '\x60', '\x1a']

/-- A text that is its own literal for either engine. -/
def Literal.Plain (s : String) : Prop := ∀ c ∈ s.toList, c ∉ special

instance (s : String) : Decidable (Literal.Plain s) := List.decidableBAll (· ∉ Literal.special) s.toList

namespace Literal

theorem mysqlChar_of_plain {c : Char} (h : c ∉ special) : mysqlChar c = [c] := by
  unfold mysqlChar
  split <;> first | rfl | exact absurd (by decide) h

theorem postgresChar_of_plain {c : Char} (h : c ∉ special) : postgresChar c = [c] := by
  unfold postgresChar
  split <;> first | rfl | exact absurd (by decide) h

theorem flatMap_of_plain {escape : Char → List Char} (he : ∀ c, c ∉ special → escape c = [c]) {s : String}
    (h : Plain s) :
    String.ofList (s.toList.flatMap escape) = s := by
  have hkept : s.toList.flatMap escape = s.toList.flatMap fun c => [c] :=
    List.flatMap_congr fun c hc => he c (h c hc)
  rw [hkept, List.flatMap_singleton', String.ofList_toList]

/-- A plain text is written alike by both engines, and holds no identifier quote. -/
theorem requote_quoteLiteral {s : String} (h : Plain s) :
    requote ((Dialect.offline .mysql).quoteLiteral s) = (Dialect.offline .postgres).quoteLiteral s := by
  have hmysql : Engine.escape .mysql s = s := flatMap_of_plain (fun c => mysqlChar_of_plain) h
  have hpostgres : Engine.escape .postgres s = s := flatMap_of_plain (fun c => postgresChar_of_plain) h
  have hmark : needsEscapeMark s = false := by
    rw [needsEscapeMark, List.contains_eq_mem, decide_eq_false_iff_not]
    exact fun hc => h '\\' hc (by decide)
  have hs : requote s = s := requote_of_spelled fun c hc he => h c hc (by rw [he]; decide)
  have hquote : requote "'" = "'" := rfl
  simp only [Dialect.quoteLiteral, Dialect.offline, hmysql, hpostgres, hmark, Bool.and_false, Bool.false_eq_true,
    if_false, requote_append, hs, hquote]
  rfl

end Literal

/-! ## Statements -/

theorem Piece.requote_write {p : Piece} (hp : p.Spelled unticked) (ht : ∀ t, p = .text t → Literal.Plain t) :
    requote (p.write (.offline .mysql)) = p.write (.offline .postgres) := by
  cases p with
  | sql s => exact requote_of_spelled hp
  | text s => exact Literal.requote_quoteLiteral (ht s rfl)
  | ident i =>
    obtain ⟨name, rfl⟩ := hp
    exact Ident.requote_toSql fun part => Ident.segment_of_parse
  | table name =>
    have hwrite (e : Engine) : Piece.write (.offline e) (.table name) = (Ident.parse name).toSql e.quoteChar :=
      quoteTable_id (.offline e) name
    rw [hwrite, hwrite]
    exact Ident.requote_toSql fun part => Ident.segment_of_parse

theorem Pieces.requote_write {ps : Pieces} (hps : ps.Spelled unticked)
    (ht : ∀ t ∈ ps.texts, Literal.Plain t) :
    requote (ps.write (.offline .mysql)) = ps.write (.offline .postgres) := by
  induction ps with
  | nil => simp; rfl
  | cons p ps ih =>
    obtain ⟨hp, hps⟩ := List.forall_mem_cons.mp hps
    have hrest : ∀ t ∈ texts ps, Literal.Plain t := fun t h => ht t (by cases p <;> simp [h])
    rw [write_cons, write_cons, requote_append, ih hps hrest,
      Piece.requote_write hp fun t he => ht t (by rw [he, texts_text]; exact List.mem_cons_self)]

/-- A statement for Postgres is the one for MySQL with the other quote around identifiers, and is refused with the
same fault. -/
theorem Statement.render_requote (s : Statement) (ht : ∀ t ∈ s.texts, Literal.Plain t)
    (hf : ∀ f ∈ s.fragments, '\x60' ∉ f.toList) :
    s.render (.offline .postgres) = (s.render (.offline .mysql)).map requote := by
  have hspelled : ∀ f ∈ s.fragments, Spelled unticked f := fun f hm c hc he => hf f hm (he ▸ hc)
  rw [s.render_eq, s.render_eq]
  cases hp : s.pieces with
  | error e => simp only [Except.map]
  | ok ps =>
    have htexts : ∀ t ∈ ps.texts, Literal.Plain t := by rwa [s.texts_of_pieces hp]
    exact congrArg Except.ok (Pieces.requote_write (s.spelled_of_pieces hspelled hp) htexts).symm

/-- An alias stays bare in both, the names change their quotes. -/
theorem Statement.render_requote_of_select :
    let s : Statement := .select { Select.empty with
      tables := [⟨.name "shop.products", some "p"⟩]
      fields := [⟨none, .column "p.id" none⟩]
      conditions := ⟨[.leaf .and ⟨"p.name = ?", [.text "tea"]⟩], [], none⟩ }
    (∀ t ∈ s.texts, Literal.Plain t) ∧ (∀ f ∈ s.fragments, '\x60' ∉ f.toList) ∧
      (s.render (.offline .mysql)).toOption =
        some "SELECT p.\x60id\x60 FROM \x60shop\x60.\x60products\x60 AS p WHERE (p.name = 'tea')" ∧
      (s.render (.offline .postgres)).toOption =
        some "SELECT p.\"id\" FROM \"shop\".\"products\" AS p WHERE (p.name = 'tea')" := by
  intro s
  have texts : ∀ t ∈ s.texts, Literal.Plain t := by decide +kernel +revert
  have fragments : ∀ f ∈ s.fragments, '\x60' ∉ f.toList := by decide +kernel +revert
  have mysql : (s.render (.offline .mysql)).toOption =
      some "SELECT p.\x60id\x60 FROM \x60shop\x60.\x60products\x60 AS p WHERE (p.name = 'tea')" := by
    decide +kernel +revert
  have requoted : ((s.render (.offline .mysql)).map requote).toOption =
      some "SELECT p.\"id\" FROM \"shop\".\"products\" AS p WHERE (p.name = 'tea')" := by
    decide +kernel +revert
  exact ⟨texts, fragments, mysql, (congrArg Except.toOption (s.render_requote texts fragments)).trans requoted⟩

end SqlComposer
