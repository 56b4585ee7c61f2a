/-
  SqlComposer.Proofs.Rendering.TableHook — what a table hook can change.

  A hook is asked about the last segment of every table name, at any depth. The names it
  gives are written as if they had stood in the statement.

  Proved:
  (1) renaming a table by a hook replaces its last segment and keeps the others
      (`parse_renameTable`);
  (2) writing with a hook is writing the renamed tables without one (`quoteTable_renameTable`);
  (3) so for statements, and whether there is a text and all of it but the table names is
      the same for every hook (`Statement.render_tableHook`).
-/

import SqlComposer.Proofs.Naming.Segments
import SqlComposer.Proofs.Rendering.Masking
import SqlComposer.Proofs.Rendering.Rewriting

namespace SqlComposer

open Ident (Segment)

/-! ## Hooks -/

/-- A hook that answers a segment with one, white space around the answer aside. -/
structure PlainHook (hook : String → String) : Prop where
  nonempty : ∀ table, Segment table → Text.trim (hook table) ≠ ""
  plain : ∀ table, Segment table → ∀ c ∈ (Text.trim (hook table)).toList, c ≠ '.' ∧ Ident.isQuote c = false

variable {hook : String → String}

theorem PlainHook.segment (h : PlainHook hook) {table : String} (ht : Segment table) :
    Segment (Text.trim (hook table)) where
  nonempty := h.nonempty table ht
  trimmed := by
    rw [Text.trim, String.toList_ofList]
    exact Chars.trimmed_trim _
  plain := h.plain table ht

/-- A prefix that is a segment itself makes a plain hook. -/
theorem PlainHook.prepend {lead : String} (hl : Segment lead) : PlainHook (lead ++ ·) where
  nonempty table ht := by rw [(hl.append ht).trim_eq]; exact (hl.append ht).nonempty
  plain table ht := by rw [(hl.append ht).trim_eq]; exact (hl.append ht).plain

/-! ## Renamed tables -/

/-- The name with its last segment replaced by what the hook makes of it; a name without segments stays. -/
def renameTable (hook : String → String) (name : String) : String :=
  match (Ident.parse name).parts with
  | [] => name
  | parts => Text.join "." (Ident.mapLastPart (fun table => Text.trim (hook table)) parts)

theorem parse_renameTable (h : PlainHook hook) (name : String) :
    Ident.parse (renameTable hook name) = (Ident.parse name).mapLast fun table => Text.trim (hook table) := by
  have hparts : ∀ part ∈ (Ident.parse name).parts, Segment part := fun part => Ident.segment_of_parse
  unfold renameTable Ident.mapLast
  split
  · rename_i hnil
    rw [hnil, Ident.mapLastPart, ← hnil]
  · exact Ident.parse_join (Ident.segment_of_mapLastPart (fun part => h.segment) hparts)

/-- Without a hook a name is written segment by segment. -/
theorem quoteTable_id (d : Dialect) (name : String) :
    { d with tableHook := id }.quoteTable name = d.quoteIdent (Ident.parse name) := by
  have htrim : ∀ part ∈ (Ident.parse name).parts, Text.trim part = part := fun part hp =>
    (Ident.segment_of_parse hp).trim_eq
  have hmap : (Ident.parse name).mapLast (fun table => Text.trim (id table)) = Ident.parse name := by
    rw [Ident.mapLast]
    exact congrArg Ident.mk (Ident.mapLastPart_eq_self htrim)
  rw [Dialect.quoteTable, hmap]
  rfl

theorem quoteTable_renameTable (h : PlainHook hook) (d : Dialect) (name : String) :
    { d with tableHook := id }.quoteTable (renameTable hook name) = { d with tableHook := hook }.quoteTable name := by
  rw [quoteTable_id, parse_renameTable h]
  rfl

/-! ## Written pieces -/

namespace Pieces

theorem write_renamed (h : PlainHook hook) (d : Dialect) (ps : Pieces) :
    write { d with tableHook := id } (rewrite { table := renameTable hook } ps) =
      write { d with tableHook := hook } ps := by
  induction ps with
  | nil => simp
  | cons p ps ih =>
    rw [rewrite_cons, write_cons, write_cons, ih]
    refine congrArg (· ++ _) ?_
    cases p with
    | table name => exact quoteTable_renameTable h d name
    | sql s => rfl
    | text s => rfl
    | ident i => rfl

/-- For every hook the same SQL stands around the same tables. -/
theorem write_around_tables (d : Dialect) (ps : Pieces) :
    ∃ segments tables : List String, segments.length = tables.length + 1 ∧
      ∀ hook : String → String, write { d with tableHook := hook } ps =
        weave segments (tables.map { d with tableHook := hook }.quoteTable) := by
  induction ps with
  | nil => exact ⟨[""], [], rfl, fun hook => by simp [weave]⟩
  | cons p ps ih =>
    obtain ⟨segments, tables, hlen, hwrite⟩ := ih
    obtain ⟨first, segments, rfl⟩ := List.exists_cons_of_length_eq_add_one hlen
    -- All but a table is written alike whatever the hook, so it goes in front of the first segment.
    have fixed (sql : String) (hp : ∀ hook, p.write { d with tableHook := hook } = sql) :
        ∃ segments tables : List String, segments.length = tables.length + 1 ∧
          ∀ hook : String → String, write { d with tableHook := hook } (p :: ps) =
            weave segments (tables.map { d with tableHook := hook }.quoteTable) :=
      ⟨(sql ++ first) :: segments, tables, hlen, fun hook => by rw [write_cons, hp, hwrite, weave_append]⟩
    cases p with
    | table name =>
      refine ⟨"" :: first :: segments, name :: tables, congrArg (· + 1) hlen, fun hook => ?_⟩
      rw [write_cons, hwrite, List.map_cons, weave, String.empty_append]
      rfl
    | sql s => exact fixed s fun _ => rfl
    | text s => exact fixed (d.quoteLiteral s) fun _ => rfl
    | ident i => exact fixed (d.quoteIdent i) fun _ => rfl

end Pieces

/-! ## Statements -/

/-- A hook renames the tables of a statement, each by its last segment, and touches nothing else. -/
theorem Statement.render_tableHook (s : Statement) (d : Dialect) {hook : String → String} (h : PlainHook hook) :
    (∀ name, Ident.parse (renameTable hook name) = (Ident.parse name).mapLast fun table => Text.trim (hook table)) ∧
    s.render { d with tableHook := hook } =
      (s.rewrite { table := renameTable hook }).render { d with tableHook := id } ∧
    ((∃ e, ∀ hook' : String → String, s.render { d with tableHook := hook' } = .error e) ∨
      ∃ segments tables : List String, segments.length = tables.length + 1 ∧
        ∀ hook' : String → String, s.render { d with tableHook := hook' } =
          .ok (weave segments (tables.map { d with tableHook := hook' }.quoteTable))) := by
  refine ⟨parse_renameTable h, ?_, ?_⟩
  · rw [Statement.render_eq, Statement.render_eq, Statement.pieces_rewrite]
    cases s.pieces with
    | error e => simp only [Except.map]
    | ok ps => exact congrArg Except.ok (Pieces.write_renamed h d ps).symm
  · cases hp : s.pieces with
    | error e => exact .inl ⟨e, fun hook' => by rw [Statement.render_eq, hp]; rfl⟩
    | ok ps =>
      obtain ⟨segments, tables, hlen, hwrite⟩ := Pieces.write_around_tables d ps
      refine .inr ⟨segments, tables, hlen, fun hook' => ?_⟩
      rw [Statement.render_eq, hp]
      exact congrArg Except.ok (hwrite hook')

/-- A prefix goes to the table of a DELETE and to the dotted one of the sub-select in its WHERE. -/
theorem Statement.render_tableHook_of_prefix :
    let hook : String → String := ("app_" ++ ·)
    let buyers : Select :=
      { Select.empty with tables := [⟨.name "shop.orders", none⟩], fields := [⟨none, .column "user_id" none⟩] }
    let s : Statement := .delete
      { table := "users", truncates := false, fault := none
        conditions := ⟨[.leaf .and ⟨"id IN ?", [.select buyers]⟩], [], none⟩ }
    PlainHook hook ∧
      (s.render { Dialect.offline .mysql with tableHook := hook }).toOption =
        some "DELETE FROM `app_users` WHERE (id IN (SELECT `user_id` FROM `shop`.`app_orders`))" := by
  intro hook buyers s
  have renamed :
      ((s.rewrite { table := renameTable hook }).render { Dialect.offline .mysql with tableHook := id }).toOption =
        some "DELETE FROM `app_users` WHERE (id IN (SELECT `user_id` FROM `shop`.`app_orders`))" := by
    decide +kernel +revert
  have segment : Ident.Segment "app_" :=
    Ident.segment_of_parse (show "app_" ∈ (Ident.parse "app_").parts by decide +kernel)
  have plain : PlainHook hook := PlainHook.prepend segment
  have same := (s.render_tableHook (.offline .mysql) plain).2.1
  exact ⟨plain, (congrArg Except.toOption same).trans renamed⟩

end SqlComposer
