/-
  SqlComposer.Proofs.LiteralReading — string literals as the engines read them.

  (1) in every literal two quotes stand for one, and a single quote ends it;
  (2) MySQL, in its default mode, reads backslash escapes in every literal; Postgres,
      with conforming strings, only in one marked by an E;
  (3) a Postgres text holds no NUL, so none is read there.

  Proved: a quoted text is read back whole and nothing behind it is taken for a part of
  it, whatever the text holds (`readLiteral_quoteLiteral`); for Postgres the text comes
  back without its NULs, which it cannot hold.
-/

import SqlComposer.Dialect

namespace SqlComposer

namespace Literal

/-! ## Reading -/

/-- What stands for what inside a literal: characters that may stand for themselves, and what a backslash
makes of the next character where it is special at all. -/
structure Grammar where
  allows : Char → Bool
  escapes : Option (Char → Option (List Char))

/-- A letter or zero behind a backslash may name a control; in front of a wildcard of LIKE the backslash stays,
and any other character stands for itself. -/
def mysqlEscape : Char → Option (List Char)
  | '0' => some ['\x00']
  | 'b' => some ['\x08']
  | 'n' => some ['\n']
  | 'r' => some ['\r']
  | 't' => some ['\t']
  | 'Z' => some ['\x1a']
  | '%' => some ['\\', '%']
  | '_' => some ['\\', '_']
  | c => some [c]

/-- Escapes that give a character by its number are not read. -/
def postgresEscape : Char → Option (List Char)
  | 'b' => some ['\x08']
  | 'f' => some ['\x0c']
  | 'n' => some ['\n']
  | 'r' => some ['\r']
  | 't' => some ['\t']
  | c => if c.isDigit || ['x', 'u', 'U', '\x00'].contains c then none else some [c]

def Grammar.mysql : Grammar := ⟨fun _ => true, some mysqlEscape⟩

def Grammar.postgres : Grammar := ⟨(· != '\x00'), none⟩

def Grammar.postgresMarked : Grammar := ⟨(· != '\x00'), some postgresEscape⟩

/-- Puts characters in front of a text that was read. -/
def prepend (cs : List Char) (read : Option (List Char × List Char)) : Option (List Char × List Char) :=
  read.map fun (text, rest) => (cs ++ text, rest)

/-- The text of a literal whose opening quote was read, with what stands behind its closing quote. -/
def readBody (g : Grammar) : List Char → Option (List Char × List Char)
  | [] => none
  | '\'' :: '\'' :: cs => prepend ['\''] (readBody g cs)
  | '\'' :: cs => some ([], cs)
  | '\\' :: c :: cs =>
    match g.escapes with
    | some value => (value c).bind fun text => prepend text (readBody g cs)
    | none => prepend ['\\'] (readBody g (c :: cs))
  | c :: cs => if g.allows c then prepend [c] (readBody g cs) else none

end Literal

/-- Reads one literal from the front of a text. -/
def Engine.readLiteral (e : Engine) (text : String) : Option (String × String) :=
  let read := match e, text.toList with
    | .mysql, '\'' :: cs => Literal.readBody .mysql cs
    | .postgres, '\'' :: cs => Literal.readBody .postgres cs
    | .postgres, 'E' :: '\'' :: cs => Literal.readBody .postgresMarked cs
    | .postgres, 'e' :: '\'' :: cs => Literal.readBody .postgresMarked cs
    | _, _ => none
  read.map fun (text, rest) => (String.ofList text, String.ofList rest)

/-- The part of a text that an engine's literals can hold. -/
def Engine.storable : Engine → String → String
  | .mysql, s => s
  | .postgres, s => String.ofList (s.toList.filter (· != '\x00'))

namespace Literal

/-! ## One character at a time -/

variable (g : Grammar) {c : Char} {cs rest : List Char}

theorem readBody_close (h : rest.head? ≠ some '\'') : readBody g ('\'' :: rest) = some ([], rest) := by
  rw [readBody]
  rintro cs rfl
  exact h rfl

theorem readBody_plain (hq : c ≠ '\'') (hb : c ≠ '\\') (ha : g.allows c = true) :
    readBody g (c :: cs) = prepend [c] (readBody g cs) := by
  rw [readBody, if_pos ha] <;> simp [hq, hb]

/-- The MySQL escape of a character is read as that character. -/
theorem readBody_mysqlChar (c : Char) (cs : List Char) :
    readBody .mysql (mysqlChar c ++ cs) = prepend [c] (readBody .mysql cs) := by
  unfold mysqlChar
  split
  case h_8 c _ _ _ hb hq _ _ => exact readBody_plain .mysql hq hb rfl
  all_goals rfl

/-- So is the Postgres one, in a marked literal or, but for a backslash, in an unmarked one. -/
theorem readBody_postgresChar (hg : g = .postgresMarked ∨ g = .postgres ∧ c ≠ '\\') :
    readBody g (postgresChar c ++ cs) = prepend ([c].filter (· != '\x00')) (readBody g cs) := by
  have allows : c ≠ '\x00' → g.allows c = true := by
    intro hn
    rcases hg with rfl | ⟨rfl, _⟩ <;> simpa [Grammar.postgresMarked, Grammar.postgres] using hn
  unfold postgresChar
  split
  · rw [List.cons_append, List.cons_append, List.nil_append, readBody]; rfl
  · rcases hg with rfl | ⟨_, hb⟩
    · rfl
    · exact absurd rfl hb
  · show readBody g cs = prepend [] (readBody g cs)
    cases readBody g cs <;> rfl
  · rename_i hq hb hn
    have kept : [c].filter (· != '\x00') = [c] := List.filter_eq_self.mpr (by simpa using hn)
    rw [kept]
    exact readBody_plain g hq hb (allows hn)

/-! ## Whole texts -/

theorem readBody_mysql (s : List Char) (h : rest.head? ≠ some '\'') :
    readBody .mysql (s.flatMap mysqlChar ++ '\'' :: rest) = some (s, rest) := by
  induction s with
  | nil => exact readBody_close .mysql h
  | cons c s ih => rw [List.flatMap_cons, List.append_assoc, readBody_mysqlChar, ih]; rfl

theorem readBody_postgres (s : List Char) (hg : g = .postgresMarked ∨ g = .postgres ∧ '\\' ∉ s)
    (h : rest.head? ≠ some '\'') :
    readBody g (s.flatMap postgresChar ++ '\'' :: rest) = some (s.filter (· != '\x00'), rest) := by
  induction s with
  | nil => exact readBody_close g h
  | cons c s ih =>
    have head : g = .postgresMarked ∨ g = .postgres ∧ c ≠ '\\' :=
      hg.imp_right fun ⟨hg, hs⟩ => ⟨hg, fun hc => hs (hc ▸ List.mem_cons_self)⟩
    have tail : g = .postgresMarked ∨ g = .postgres ∧ '\\' ∉ s :=
      hg.imp_right fun ⟨hg, hs⟩ => ⟨hg, fun hc => hs (List.mem_cons_of_mem _ hc)⟩
    rw [List.flatMap_cons, List.append_assoc, readBody_postgresChar g head, ih tail]
    simp only [prepend, Option.map_some, ← List.filter_append, List.singleton_append]

end Literal

/-- Reading a quoted text gives what the engine can hold of it and leaves what stands behind. -/
theorem readLiteral_quoteLiteral (e : Engine) (hook : String → String) (s r : String)
    (h : r.toList.head? ≠ some '\'') :
    e.readLiteral ((⟨e, e.escape, hook⟩ : Dialect).quoteLiteral s ++ r) = some (e.storable s, r) := by
  cases e with
  | mysql =>
    have text : ((⟨.mysql, Engine.mysql.escape, hook⟩ : Dialect).quoteLiteral s ++ r).toList =
        '\'' :: (s.toList.flatMap Literal.mysqlChar ++ '\'' :: r.toList) := by
      simp [Dialect.quoteLiteral, Engine.escape, Literal.mysql]
    simp only [Engine.readLiteral, text, Literal.readBody_mysql s.toList h, Option.map_some, String.ofList_toList,
      Engine.storable]
  | postgres =>
    by_cases hs : '\\' ∈ s.toList
    · have text : ((⟨.postgres, Engine.postgres.escape, hook⟩ : Dialect).quoteLiteral s ++ r).toList =
          'E' :: '\'' :: (s.toList.flatMap Literal.postgresChar ++ '\'' :: r.toList) := by
        simp [Dialect.quoteLiteral, Engine.escape, Literal.postgres, Literal.needsEscapeMark, hs]
      simp only [Engine.readLiteral, text, Literal.readBody_postgres _ s.toList (.inl rfl) h, Option.map_some,
        String.ofList_toList, Engine.storable]
    · have text : ((⟨.postgres, Engine.postgres.escape, hook⟩ : Dialect).quoteLiteral s ++ r).toList =
          '\'' :: (s.toList.flatMap Literal.postgresChar ++ '\'' :: r.toList) := by
        simp [Dialect.quoteLiteral, Engine.escape, Literal.postgres, Literal.needsEscapeMark, hs]
      simp only [Engine.readLiteral, text, Literal.readBody_postgres _ s.toList (.inr ⟨rfl, hs⟩) h, Option.map_some,
        String.ofList_toList, Engine.storable]

/-- A trailing backslash does not take the closing quote with it. -/
theorem readLiteral_quoteLiteral_trailing_backslash :
    (" OR 1 = 1".toList.head? ≠ some '\'') ∧
    Engine.postgres.readLiteral ((Dialect.offline .postgres).quoteLiteral "\x00it's\\" ++ " OR 1 = 1") =
      some ("it's\\", " OR 1 = 1") :=
  ⟨by decide, readLiteral_quoteLiteral .postgres id "\x00it's\\" " OR 1 = 1" (by decide)⟩

end SqlComposer
