/-
  SqlComposer.Proofs.Dsn.Entries — `key=value` entries, written and read back.

  A key is bare: it holds no blank and no equals sign. Every entry stands behind a gap
  of blanks, which only the first may lack, and a last gap may close the text.

  Proved: entries are read back as they were given, whatever their values hold and
  however wide the gaps are (`pairs_spread`). Quoting neither hides nor makes anything:
  a mark none of whose characters is syntax stands in the text exactly when it stands
  in a key or a value (`contains_spread`).
-/

import SqlComposer.Dsn.Conninfo
import SqlComposer.Proofs.Text.Chars

namespace SqlComposer

namespace Conninfo

/-- A key that its equals sign ends. -/
def Bare (key : String) : Prop := ∀ c ∈ key.toList, c ≠ '=' ∧ isBlank c = false

/-- Nothing, or a blank first: what may follow a value. -/
def Ends (cs : List Char) : Prop := ∀ c ∈ cs.head?, isBlank c = true

def Gap (cs : List Char) : Prop := ∀ c ∈ cs, isBlank c = true

theorem gap_nil : Gap [] := fun _ hc => by cases hc

theorem ends_nil : Ends [] := fun _ hc => by cases hc

/-- Entries, each behind its gap, in front of `last`. -/
def spread (rows : List (List Char × String × String)) (last : List Char) : List Char :=
  match rows with
  | [] => last
  | (gap, key, v) :: rows => gap ++ (key.toList ++ '=' :: (value v.toList ++ spread rows last))

/-- Keys are bare, and there are blanks wherever an entry follows another. -/
structure Layout (rows : List (List Char × String × String)) (last : List Char) : Prop where
  bare : ∀ row ∈ rows, Bare row.2.1
  gaps : ∀ row ∈ rows, Gap row.1
  apart : ∀ row ∈ rows.tail, row.1 ≠ []
  closing : Gap last

namespace Layout

variable {row : List Char × String × String} {rows : List (List Char × String × String)} {last : List Char}

theorem rest (h : Layout (row :: rows) last) : Layout rows last where
  bare := fun row hrow => h.bare row (List.mem_cons_of_mem _ hrow)
  gaps := fun row hrow => h.gaps row (List.mem_cons_of_mem _ hrow)
  apart := fun row hrow => h.apart row (List.mem_of_mem_tail hrow)
  closing := h.closing

/-- What follows an entry ends its value, for the gap of the next one is not empty. -/
theorem ends (h : Layout (row :: rows) last) : Ends (spread rows last) := by
  cases rows with
  | nil => exact fun c hc => h.closing c (List.mem_of_mem_head? hc)
  | cons next rows =>
    have hgap := h.rest.gaps next List.mem_cons_self
    have hne := h.apart next List.mem_cons_self
    obtain ⟨gap, key, v⟩ := next
    cases gap with
    | nil => exact absurd rfl hne
    | cons b gap =>
      intro c hc
      obtain rfl : b = c := by simpa [spread] using hc
      exact hgap b List.mem_cons_self

end Layout

/-! ## One value -/

/-- A text between quotes, and the value it spells. -/
inductive Inside : List Char → List Char → Prop
  | done : Inside [] []
  | plain {c : Char} {cs v : List Char} (hquote : c ≠ '\'') (hbackslash : c ≠ '\\') (h : Inside cs v) :
      Inside (c :: cs) (c :: v)
  | escaped (c : Char) {cs v : List Char} (h : Inside cs v) : Inside ('\\' :: c :: cs) (c :: v)

/-- One word, which no quote opens. -/
structure Word (cs : List Char) : Prop where
  plain : ∀ c ∈ cs, isBlank c = false
  unquoted : cs.head? ≠ some '\''

/-- How a value may be written. -/
inductive Spelled : List Char → List Char → Prop
  | word {cs : List Char} (h : Word cs) : Spelled cs cs
  | quoted {cs v : List Char} (h : Inside cs v) : Spelled ('\'' :: cs ++ ['\'']) v

theorem Inside.length_le {cs v : List Char} (h : Inside cs v) : v.length ≤ cs.length := by
  induction h with
  | done => exact Nat.le_refl 0
  | plain _ _ _ ih => exact Nat.succ_le_succ ih
  | escaped _ _ ih =>
    simp only [List.length_cons]
    omega

theorem readQuoted_inside {cs v : List Char} (h : Inside cs v) (rest : List Char) :
    readQuoted (cs ++ '\'' :: rest) = some (v, rest) := by
  induction h with
  | done => rfl
  | plain hquote hbackslash _ ih => simp [readQuoted, hquote, hbackslash, ih]
  | escaped c _ ih => simp [readQuoted, ih]

theorem inside_of_readQuoted {cs v rest : List Char} (h : readQuoted cs = some (v, rest)) :
    ∃ inner, Inside inner v ∧ cs = inner ++ '\'' :: rest := by
  fun_induction readQuoted cs generalizing v with
  | case1 => cases h
  | case2 => cases h
  | case3 c cs ih =>
    obtain ⟨⟨v', rest'⟩, hread, heq⟩ := Option.map_eq_some_iff.mp h
    obtain ⟨rfl, rfl⟩ := Prod.mk.inj heq
    obtain ⟨inner, hinner, rfl⟩ := ih hread
    exact ⟨'\\' :: c :: inner, .escaped c hinner, rfl⟩
  | case4 c cs hlast hescape hc =>
    obtain ⟨rfl, rfl⟩ := Prod.mk.inj (Option.some.inj h)
    exact ⟨[], .done, by rw [eq_of_beq hc, List.nil_append]⟩
  | case5 c cs hlast hescape hc ih =>
    obtain ⟨⟨v', rest'⟩, hread, heq⟩ := Option.map_eq_some_iff.mp h
    obtain ⟨rfl, rfl⟩ := Prod.mk.inj heq
    obtain ⟨inner, hinner, rfl⟩ := ih hread
    have hbackslash : c ≠ '\\' := by
      rintro rfl
      cases inner with
      | nil => exact hescape '\'' rest' rfl rfl
      | cons d inner => exact hescape d _ rfl rfl
    exact ⟨c :: inner, .plain (by simpa using hc) hbackslash hinner, rfl⟩

theorem inside_escape (cs : List Char) : Inside (cs.flatMap escape) cs := by
  induction cs with
  | nil => exact .done
  | cons c cs ih =>
    by_cases hc : c = '\'' ∨ c = '\\'
    · simpa [escape, hc] using Inside.escaped c ih
    · have hplain := not_or.mp hc
      simpa [escape, hc] using Inside.plain hplain.1 hplain.2 ih

theorem needsQuotes_eq_false {cs : List Char} :
    needsQuotes cs = false ↔ cs ≠ [] ∧ ∀ c ∈ cs, isBlank c = false ∧ c ≠ '\'' ∧ c ≠ '\\' := by
  simp [needsQuotes, and_assoc]

/-- A value is written in one of these ways. -/
theorem spelled_value (cs : List Char) : Spelled (value cs) cs := by
  unfold value
  split
  · exact .quoted (inside_escape cs)
  · next hq =>
    obtain ⟨-, hplain⟩ := needsQuotes_eq_false.mp (Bool.not_eq_true _ ▸ hq)
    refine .word ⟨fun c hc => (hplain c hc).1, fun hhead => ?_⟩
    exact (hplain _ (List.mem_of_mem_head? hhead)).2.1 rfl

theorem takeWord_append {cs rest : List Char} (h : ∀ c ∈ cs, isBlank c = false) (hends : Ends rest) :
    Chars.takeWord (cs ++ rest) = (cs, rest) := by
  have hword : ∀ c ∈ cs, (!isBlank c) = true := by
    intro c hc
    rw [h c hc, Bool.not_false]
  have hstop : ∀ c ∈ rest.head?, (!isBlank c) = false := by
    intro c hc
    rw [hends c hc, Bool.not_true]
  exact Chars.span_append hword hstop

/-! ## One entry -/

theorem span_key {key : String} (h : Bare key) {rest : List Char}
    (hrest : ∀ c ∈ rest.head?, c = '=' ∨ isBlank c = true) :
    ((key.toList ++ rest).span fun c => !(c == '=' || isBlank c)) = (key.toList, rest) := by
  have hkey : ∀ c ∈ key.toList, (!(c == '=' || isBlank c)) = true := by
    intro c hc
    obtain ⟨heq, hblank⟩ := h c hc
    simp [heq, hblank]
  have hstop : ∀ c ∈ rest.head?, (!(c == '=' || isBlank c)) = false := by
    intro c hc
    simpa [or_iff_not_imp_left] using hrest c hc
  exact Chars.span_append hkey hstop

theorem span_key_equals {key : String} (h : Bare key) (rest : List Char) :
    ((key.toList ++ '=' :: rest).span fun c => !(c == '=' || isBlank c)) = (key.toList, '=' :: rest) :=
  span_key h fun _ hc => .inl (Option.some.inj hc).symm

theorem readEntry_quoted {key : String} (hkey : Bare key) (cs : List Char) :
    readEntry (key.toList ++ '=' :: '\'' :: cs) =
      (readQuoted cs).elim (.error (.unterminatedValue key)) fun read => .ok ((key, String.ofList read.1), read.2) := by
  unfold readEntry
  rw [span_key_equals hkey]
  simp only [String.ofList_toList]
  cases readQuoted cs <;> rfl

theorem readEntry_word {key : String} (hkey : Bare key) {cs : List Char} (h : cs.head? ≠ some '\'') :
    readEntry (key.toList ++ '=' :: cs) = .ok ((key, String.ofList (Chars.takeWord cs).1), (Chars.takeWord cs).2) := by
  unfold readEntry
  rw [span_key_equals hkey]
  cases cs with
  | nil => simp
  | cons c cs =>
    have hc : c ≠ '\'' := fun hc => h (by rw [hc]; rfl)
    simp [hc]

theorem readEntry_spelled {key : String} (hkey : Bare key) {cs v rest : List Char} (h : Spelled cs v) (hends : Ends rest) :
    readEntry (key.toList ++ '=' :: (cs ++ rest)) = .ok ((key, String.ofList v), rest) := by
  cases h with
  | quoted h =>
    rw [List.cons_append, List.cons_append, readEntry_quoted hkey, List.append_assoc, List.singleton_append,
      readQuoted_inside h, Option.elim_some]
  | word h =>
    have hhead : (cs ++ rest).head? ≠ some '\'' := by
      cases cs with
      | nil =>
        intro hquote
        exact absurd (hends '\'' hquote) (by decide)
      | cons c cs => exact h.unquoted
    rw [readEntry_word hkey hhead, takeWord_append h.plain hends]

/-! ## All entries -/

/-- Gaps are passed over, and an entry is there whatever its key is. -/
theorem trimStart_entry {gap : List Char} (hgap : Gap gap) {key : String} (hkey : Bare key) (rest : List Char) :
    Chars.trimStart (gap ++ (key.toList ++ '=' :: rest)) = key.toList ++ '=' :: rest := by
  rw [Chars.trimStart, List.dropWhile_append_of_pos hgap]
  cases hk : key.toList with
  | nil => simp [show isBlank '=' = false from by decide]
  | cons c cs =>
    have hc : isBlank c = false := (hkey c (by simp [hk])).2
    simp [hc]

theorem readEntries_nil (fuel : Nat) : readEntries fuel [] = .ok [] := by
  cases fuel <;> rfl

theorem readEntries_gap {gap : List Char} (hgap : Gap gap) (fuel : Nat) (cs : List Char) :
    readEntries fuel (gap ++ cs) = readEntries fuel cs := by
  cases fuel with
  | zero => rfl
  | succ fuel => rw [readEntries, readEntries, Chars.trimStart, Chars.trimStart, List.dropWhile_append_of_pos hgap]

theorem readEntries_entry {gap : List Char} (hgap : Gap gap) {key : String} (hkey : Bare key) (fuel : Nat) (cs : List Char) :
    readEntries (fuel + 1) (gap ++ (key.toList ++ '=' :: cs)) = (do
      let (pair, rest) ← readEntry (key.toList ++ '=' :: cs)
      let pairs ← readEntries fuel rest
      return pair :: pairs) := by
  rw [readEntries, trimStart_entry hgap hkey]
  cases hcs : key.toList ++ '=' :: cs with
  | nil => simp at hcs
  | cons c cs => rfl

/-- Each entry takes one unit of fuel and leaves what the layout has behind it. -/
theorem readEntries_spread {rows : List (List Char × String × String)} {last : List Char} {fuel : Nat}
    (h : Layout rows last) (hfuel : rows.length ≤ fuel) :
    readEntries fuel (spread rows last) = .ok (rows.map (·.2)) := by
  induction rows generalizing fuel with
  | nil =>
    have hlast := readEntries_gap h.closing fuel []
    rw [List.append_nil, readEntries_nil] at hlast
    exact hlast
  | cons row rows ih =>
    have hends := h.ends
    have hkey := h.bare row List.mem_cons_self
    have hgap := h.gaps row List.mem_cons_self
    obtain ⟨gap, key, v⟩ := row
    cases fuel with
    | zero => simp at hfuel
    | succ fuel =>
      -- The gap is trimmed away, the entry read, and `rows` stand in what it leaves.
      have hrest := ih h.rest (Nat.le_of_succ_le_succ hfuel)
      have hentry := readEntry_spelled hkey (spelled_value v.toList) hends
      rw [String.ofList_toList] at hentry
      rw [spread, readEntries_entry hgap hkey, hentry]
      simp [hrest, bind, Except.bind, pure, Except.pure]

theorem length_le_spread (rows : List (List Char × String × String)) (last : List Char) :
    rows.length ≤ (spread rows last).length := by
  induction rows with
  | nil => exact Nat.zero_le _
  | cons row rows ih =>
    obtain ⟨gap, key, v⟩ := row
    simp only [spread, List.length_append, List.length_cons]
    omega

theorem pairs_spread {rows : List (List Char × String × String)} {last : List Char} (h : Layout rows last) :
    pairs (spread rows last) = .ok (rows.map (·.2)) :=
  readEntries_spread h (length_le_spread rows last)

/-! ## Marks

A mark can stand in the text of an entry only inside the key or inside the value, because each character that
the syntax puts in between is none of the mark's. -/

theorem stripLead_escape {needle : List Char} (hquote : '\'' ∉ needle) (hbackslash : '\\' ∉ needle) (cs : List Char) :
    (Chars.stripLead needle (cs.flatMap escape)).isSome = (Chars.stripLead needle cs).isSome := by
  induction needle generalizing cs with
  | nil => simp [Chars.stripLead]
  | cons n needle ih =>
    obtain ⟨hnq, hquote⟩ : n ≠ '\'' ∧ '\'' ∉ needle := by simpa [eq_comm] using hquote
    obtain ⟨hnb, hbackslash⟩ : n ≠ '\\' ∧ '\\' ∉ needle := by simpa [eq_comm] using hbackslash
    cases cs with
    | nil => rfl
    | cons c cs =>
      by_cases hc : c = '\'' ∨ c = '\\'
      · have hnc : n ≠ c := by
          rcases hc with rfl | rfl
          · exact hnq
          · exact hnb
        simp [escape, hc, Chars.stripLead, hnb, hnc]
      · have := ih hquote hbackslash cs
        simp [escape, hc, Chars.stripLead, this, apply_ite Option.isSome]

structure Mark (needle : List Char) : Prop where
  ne_nil : needle ≠ []
  plain : ∀ c ∈ needle, c ≠ '=' ∧ c ≠ '\'' ∧ c ≠ '\\' ∧ isBlank c = false

namespace Mark

variable {needle : List Char} (h : Mark needle)
include h

theorem equals_not_mem : '=' ∉ needle := fun hc => (h.plain _ hc).1 rfl

theorem quote_not_mem : '\'' ∉ needle := fun hc => (h.plain _ hc).2.1 rfl

theorem backslash_not_mem : '\\' ∉ needle := fun hc => (h.plain _ hc).2.2.1 rfl

theorem blank_not_mem {c : Char} (hc : isBlank c = true) : c ∉ needle := by
  intro hmem
  have := (h.plain c hmem).2.2.2
  simp_all

theorem contains_escape (cs : List Char) :
    Chars.contains needle (cs.flatMap escape) = Chars.contains needle cs := by
  induction cs with
  | nil => rfl
  | cons c cs ih =>
    by_cases hc : c = '\'' ∨ c = '\\'
    -- Neither the character nor the backslash in front of it is one of the mark's.
    · have hmem : c ∉ needle := by
        rcases hc with rfl | rfl
        · exact h.quote_not_mem
        · exact h.backslash_not_mem
      have hescape : escape c = ['\\', c] := by simp [escape, hc]
      rw [List.flatMap_cons, hescape, List.cons_append, List.cons_append, List.nil_append,
        Chars.contains_cons h.ne_nil h.backslash_not_mem, Chars.contains_cons h.ne_nil hmem,
        Chars.contains_cons h.ne_nil hmem, ih]
    · have hescape : escape c = [c] := by simp [escape, hc]
      have hlead := stripLead_escape h.quote_not_mem h.backslash_not_mem (c :: cs)
      rw [List.flatMap_cons, hescape, List.singleton_append] at hlead ⊢
      rw [Chars.contains, Chars.contains, hlead, ih]

theorem contains_gap {gap : List Char} (hgap : Gap gap) (cs : List Char) :
    Chars.contains needle (gap ++ cs) = Chars.contains needle cs := by
  induction gap with
  | nil => rfl
  | cons c gap ih =>
    have hc := h.blank_not_mem (hgap c List.mem_cons_self)
    rw [List.cons_append, Chars.contains_cons h.ne_nil hc, ih fun c hc => hgap c (List.mem_cons_of_mem _ hc)]

theorem contains_ends {rest : List Char} (hends : Ends rest) (cs : List Char) :
    Chars.contains needle (cs ++ rest) = (Chars.contains needle cs || Chars.contains needle rest) := by
  cases rest with
  | nil => rw [List.append_nil, Chars.contains_nil h.ne_nil, Bool.or_false]
  | cons b rest =>
    have hb := h.blank_not_mem (hends b rfl)
    rw [Chars.contains_append_cons h.ne_nil hb, Chars.contains_cons h.ne_nil hb]

theorem contains_value {rest : List Char} (hends : Ends rest) (cs : List Char) :
    Chars.contains needle (value cs ++ rest) = (Chars.contains needle cs || Chars.contains needle rest) := by
  unfold value
  split
  · rw [List.append_assoc, List.cons_append, List.singleton_append, Chars.contains_cons h.ne_nil h.quote_not_mem,
      Chars.contains_append_cons h.ne_nil h.quote_not_mem, h.contains_escape]
  · exact h.contains_ends hends cs

theorem contains_spread {rows : List (List Char × String × String)} {last : List Char} (hrows : Layout rows last) :
    Chars.contains needle (spread rows last) = rows.any fun (_, key, v) =>
      Chars.contains needle key.toList || Chars.contains needle v.toList := by
  induction rows with
  | nil =>
    have hgap := h.contains_gap hrows.closing []
    rwa [List.append_nil, Chars.contains_nil h.ne_nil] at hgap
  | cons row rows ih =>
    have hends := hrows.ends
    have hgap := hrows.gaps row List.mem_cons_self
    obtain ⟨gap, key, v⟩ := row
    rw [spread, h.contains_gap hgap, Chars.contains_append_cons h.ne_nil h.equals_not_mem, h.contains_value hends,
      ih hrows.rest, List.any_cons, Bool.or_assoc]

end Mark

/-! ## One line -/

/-- Pairs as entries a space apart. -/
def spaced : List (String × String) → List (List Char × String × String)
  | [] => []
  | pair :: pairs => ([], pair) :: pairs.map fun pair => ([' '], pair)

theorem map_spaced (ps : List (String × String)) : (spaced ps).map (·.2) = ps := by
  cases ps <;> simp [spaced, Function.comp_def]

theorem layout_spaced {ps : List (String × String)} (hkeys : ∀ p ∈ ps, Bare p.1) : Layout (spaced ps) [] := by
  have hspace : Gap [' '] := by
    intro c hc
    obtain rfl := List.mem_singleton.mp hc
    decide
  cases ps with
  | nil => exact ⟨by simp [spaced], by simp [spaced], by simp [spaced], gap_nil⟩
  | cons p ps =>
    refine ⟨fun row hrow => ?_, fun row hrow => ?_, fun row hrow => ?_, gap_nil⟩
    · have hmem : row.2 ∈ (spaced (p :: ps)).map (·.2) := List.mem_map_of_mem hrow
      rw [map_spaced] at hmem
      exact hkeys row.2 hmem
    · rcases List.mem_cons.mp hrow with rfl | hrow
      · exact gap_nil
      · obtain ⟨pair, -, rfl⟩ := List.mem_map.mp hrow
        exact hspace
    · obtain ⟨pair, -, rfl⟩ := List.mem_map.mp hrow
      exact List.cons_ne_nil _ _

theorem toList_join_entries (ps : List (String × String)) :
    (Text.join " " (ps.map fun (key, v) => entry key v)).toList = spread (spaced ps) [] := by
  cases ps with
  | nil => rfl
  | cons p ps =>
    induction ps generalizing p with
    | nil => simp [Text.join, entry, spaced, spread]
    | cons q ps ih =>
      -- Put first, `q` has no gap; here the joining space is its gap.
      have hrest := ih q
      simp only [Text.join, List.map_cons, spaced, spread] at hrest ⊢
      rw [String.intercalate_cons_cons, String.toList_append, hrest]
      simp [entry]

theorem getLast_value (cs : List Char) : ∃ c, (value cs).getLast? = some c ∧ isBlank c = false := by
  unfold value
  split
  · exact ⟨'\'', List.getLast?_concat, by decide⟩
  · next hq =>
    obtain ⟨hne, hplain⟩ := needsQuotes_eq_false.mp (Bool.not_eq_true _ ▸ hq)
    exact ⟨cs.getLast hne, List.getLast?_eq_some_getLast hne, (hplain _ (List.getLast_mem hne)).1⟩

theorem getLast_spread (row : List Char × String × String) (rows : List (List Char × String × String)) :
    ∃ c, (spread (row :: rows) []).getLast? = some c ∧ isBlank c = false := by
  induction rows generalizing row with
  | nil =>
    obtain ⟨gap, key, v⟩ := row
    obtain ⟨c, hlast, hc⟩ := getLast_value v.toList
    exact ⟨c, by simp [spread, List.getLast?_append, List.getLast?_cons, hlast], hc⟩
  | cons next rows ih =>
    obtain ⟨gap, key, v⟩ := row
    obtain ⟨c, hlast, hc⟩ := ih next
    refine ⟨c, ?_, hc⟩
    rw [spread]
    simp [List.getLast?_append, List.getLast?_cons, hlast]

/-- A line of entries begins with a key and ends with a value, so it has nothing to trim. -/
theorem trimmed_spaced {ps : List (String × String)} (hkeys : ∀ p ∈ ps, Bare p.1) :
    Chars.Trimmed (spread (spaced ps) []) := by
  have hlayout := layout_spaced hkeys
  cases ps with
  | nil => exact ⟨by simp [spaced, spread], by simp [spaced, spread]⟩
  | cons p ps =>
    obtain ⟨key, v⟩ := p
    refine ⟨fun c hc => ?_, fun c hc => ?_⟩
    · have hstart := trimStart_entry (hlayout.gaps _ List.mem_cons_self) (hkeys _ List.mem_cons_self)
        (value v.toList ++ spread (ps.map fun pair => ([' '], pair)) [])
      apply Chars.head_dropWhile (spread (spaced ((key, v) :: ps)) [])
      rw [spaced, spread, ← Chars.trimStart, hstart]
      exact hc
    · obtain ⟨b, hlast, hb⟩ := getLast_spread ([], key, v) (ps.map fun pair => ([' '], pair))
      rw [spaced, hlast] at hc
      obtain rfl : b = c := Option.some.inj hc
      exact hb

theorem pairs_spaced {ps : List (String × String)} (hkeys : ∀ p ∈ ps, Bare p.1) :
    pairs (spread (spaced ps) []) = .ok ps := by
  rw [pairs_spread (layout_spaced hkeys), map_spaced]

theorem Mark.contains_spaced {needle : List Char} (h : Mark needle) {ps : List (String × String)}
    (hkeys : ∀ p ∈ ps, Bare p.1) :
    Chars.contains needle (spread (spaced ps) []) = ps.any fun p =>
      Chars.contains needle p.1.toList || Chars.contains needle p.2.toList := by
  rw [h.contains_spread (layout_spaced hkeys)]
  conv_rhs => rw [← map_spaced ps]
  simp [List.any_map, Function.comp_def]

end Conninfo

end SqlComposer
