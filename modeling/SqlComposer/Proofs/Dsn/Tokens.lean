/-
  SqlComposer.Proofs.Dsn.Tokens — what any text of `key=value` entries is read as.

  Reading goes from entry to entry. A word ends at white space; quotes end where they are
  closed, and the next entry may follow them at once. Reading stops at the end of the text,
  at a key without an equals sign, and at quotes that nothing closes.

  Proved: every text is read in just one such way (`exists_reading`, `pairs_of_reading`), so
  reading ends with the entries or with the fault of the first bad one; and entries that
  are written with their values quoted where they must be are read back as they were given
  (`reads_entries`).
-/

import SqlComposer.Proofs.Dsn.Entries

namespace SqlComposer

namespace Conninfo

/-- No quote closes the text: all those in it stand behind a backslash. -/
def Unclosed (cs : List Char) : Prop := ∀ inner v rest, Inside inner v → cs ≠ inner ++ '\'' :: rest

/-- A text, and the entries it is read as or the fault of the first bad one. -/
inductive Reading : List Char → Except ConfigFault (List (String × String)) → Prop
  | done {gap : List Char} (hgap : Gap gap) : Reading gap (.ok [])
  | word {gap v rest : List Char} {key : String} {outcome : Except ConfigFault (List (String × String))} (hgap : Gap gap)
      (hkey : Bare key) (hv : Word v) (hends : Ends rest) (h : Reading rest outcome) :
      Reading (gap ++ (key.toList ++ '=' :: (v ++ rest))) (outcome.map ((key, String.ofList v) :: ·))
  | quoted {gap cs v rest : List Char} {key : String} {outcome : Except ConfigFault (List (String × String))}
      (hgap : Gap gap) (hkey : Bare key) (hv : Inside cs v) (h : Reading rest outcome) :
      Reading (gap ++ (key.toList ++ '=' :: '\'' :: (cs ++ '\'' :: rest))) (outcome.map ((key, String.ofList v) :: ·))
  | malformed {gap rest : List Char} {key : String} (hgap : Gap gap) (hkey : Bare key) (hne : key ≠ "") (hends : Ends rest) :
      Reading (gap ++ (key.toList ++ rest)) (.error (.malformedEntry key))
  | unterminated {gap cs : List Char} {key : String} (hgap : Gap gap) (hkey : Bare key) (hopen : Unclosed cs) :
      Reading (gap ++ (key.toList ++ '=' :: '\'' :: cs)) (.error (.unterminatedValue key))

/-! ## Each way of reading is what is read -/

theorem readQuoted_eq_none {cs : List Char} : readQuoted cs = none ↔ Unclosed cs := by
  constructor
  · rintro h inner v rest hinner rfl
    rw [readQuoted_inside hinner] at h
    cases h
  · intro h
    cases hread : readQuoted cs with
    | none => rfl
    | some read =>
      obtain ⟨v, rest⟩ := read
      obtain ⟨inner, hinner, hsplit⟩ := inside_of_readQuoted hread
      exact absurd hsplit (h inner v rest hinner)

theorem readEntry_malformed {key : String} (hkey : Bare key) {rest : List Char} (hends : Ends rest) :
    readEntry (key.toList ++ rest) = .error (.malformedEntry key) := by
  have hspan := span_key hkey fun c hc => .inr (hends c hc)
  unfold readEntry
  rw [hspan]
  simp only [String.ofList_toList]
  cases rest with
  | nil => rfl
  | cons b rest =>
    have hb : b ≠ '=' := by
      rintro rfl
      exact absurd (hends '=' rfl) (by decide)
    simp [hb]

theorem readEntries_malformed {gap : List Char} (hgap : Gap gap) {key : String} (hkey : Bare key) (hne : key ≠ "")
    {rest : List Char} (hends : Ends rest) (fuel : Nat) :
    readEntries (fuel + 1) (gap ++ (key.toList ++ rest)) = .error (.malformedEntry key) := by
  have hentry := readEntry_malformed hkey hends
  rw [readEntries_gap hgap, readEntries, Chars.trimStart]
  cases hk : key.toList with
  | nil => exact absurd (String.toList_eq_nil_iff.mp hk) hne
  | cons c cs =>
    have hc : isBlank c = false := (hkey c (by simp [hk])).2
    rw [hk, List.cons_append] at hentry
    simp [hc, hentry, bind, Except.bind]

/-- An entry takes one unit of fuel and one character at least, the equals sign, so the characters
are fuel enough. -/
theorem readEntries_of_reading {cs : List Char} {outcome : Except ConfigFault (List (String × String))}
    (h : Reading cs outcome) {fuel : Nat} (hfuel : cs.length ≤ fuel) : readEntries fuel cs = outcome := by
  induction h generalizing fuel with
  | done hgap =>
    have hend := readEntries_gap hgap fuel []
    rwa [List.append_nil, readEntries_nil] at hend
  | @word gap v rest key outcome hgap hkey hv hends _ ih =>
    simp only [List.length_append, List.length_cons] at hfuel
    obtain ⟨fuel, rfl⟩ : ∃ more, fuel = more + 1 := ⟨fuel - 1, by omega⟩
    have hrest : readEntries fuel rest = outcome := ih (by omega)
    rw [readEntries_entry hgap hkey, readEntry_spelled hkey (.word hv) hends]
    simp only [bind, Except.bind, hrest]
    cases outcome <;> rfl
  | @quoted gap cs v rest key outcome hgap hkey hv _ ih =>
    simp only [List.length_append, List.length_cons] at hfuel
    obtain ⟨fuel, rfl⟩ : ∃ more, fuel = more + 1 := ⟨fuel - 1, by omega⟩
    have hrest : readEntries fuel rest = outcome := ih (by omega)
    rw [readEntries_entry hgap hkey, readEntry_quoted hkey, readQuoted_inside hv, Option.elim_some]
    simp only [bind, Except.bind, hrest]
    cases outcome <;> rfl
  | @malformed gap rest key hgap hkey hne hends =>
    have hpos : 0 < key.toList.length := List.length_pos_iff.mpr fun hnil => hne (String.toList_eq_nil_iff.mp hnil)
    simp only [List.length_append] at hfuel
    obtain ⟨fuel, rfl⟩ : ∃ more, fuel = more + 1 := ⟨fuel - 1, by omega⟩
    exact readEntries_malformed hgap hkey hne hends fuel
  | @unterminated gap cs key hgap hkey hopen =>
    simp only [List.length_append, List.length_cons] at hfuel
    obtain ⟨fuel, rfl⟩ : ∃ more, fuel = more + 1 := ⟨fuel - 1, by omega⟩
    rw [readEntries_entry hgap hkey, readEntry_quoted hkey, readQuoted_eq_none.mpr hopen]
    rfl

theorem pairs_of_reading {cs : List Char} {outcome : Except ConfigFault (List (String × String))} (h : Reading cs outcome) :
    pairs cs = outcome :=
  readEntries_of_reading h (Nat.le_refl _)

/-! ## Every text is read -/

/-- What is not blank in front begins an entry, and this is what comes of it. -/
theorem exists_reading_entry {gap : List Char} (hgap : Gap gap) {key : String} (hkey : Bare key) (value : List Char)
    (ih : ∀ rest : List Char, rest.length ≤ value.length → ∃ outcome, Reading rest outcome) :
    ∃ outcome, Reading (gap ++ (key.toList ++ '=' :: value)) outcome := by
  by_cases hquote : value.head? = some '\''
  · obtain ⟨cs, rfl⟩ := List.head?_eq_some_iff.mp hquote
    cases hread : readQuoted cs with
    | none => exact ⟨_, .unterminated hgap hkey (readQuoted_eq_none.mp hread)⟩
    | some read =>
      obtain ⟨v, rest⟩ := read
      obtain ⟨inner, hinner, rfl⟩ := inside_of_readQuoted hread
      obtain ⟨outcome, hrest⟩ := ih rest (by simp; omega)
      exact ⟨_, .quoted hgap hkey hinner hrest⟩
  · obtain ⟨v, rest, rfl, hv, hstop⟩ := Chars.exists_span (!isBlank ·) value
    have hends : Ends rest := fun c hc => by simpa using hstop c hc
    have hword : Word v := by
      refine ⟨fun c hc => by simpa using hv c hc, fun hhead => hquote ?_⟩
      rw [List.head?_append, hhead]
      rfl
    obtain ⟨outcome, hrest⟩ := ih rest (by simp)
    exact ⟨_, .word hgap hkey hword hends hrest⟩

theorem exists_reading (cs : List Char) : ∃ outcome, Reading cs outcome := by
  induction hlength : cs.length using Nat.strong_induction_on generalizing cs with
  | _ length ih =>
    subst hlength
    obtain ⟨gap, entry, rfl, hgap, hentry⟩ := Chars.exists_span isBlank cs
    by_cases hend : entry = []
    · subst hend
      rw [List.append_nil]
      exact ⟨_, .done hgap⟩
    · obtain ⟨key, rest, rfl, hplain, hstop⟩ := Chars.exists_span (fun c => !(c == '=' || isBlank c)) entry
      have hkey : Bare (String.ofList key) := by
        intro c hc
        rw [String.toList_ofList] at hc
        simpa using hplain c hc
      rw [← String.toList_ofList (l := key)]
      by_cases hequals : rest.head? = some '='
      · obtain ⟨value, rfl⟩ := List.head?_eq_some_iff.mp hequals
        refine exists_reading_entry hgap hkey value fun rest hrest => ih rest.length ?_ rest rfl
        simp only [List.length_append, List.length_cons]
        omega
      · have hends : Ends rest := by
          intro c hc
          have hc' : c ≠ '=' := fun heq => hequals (heq ▸ hc)
          simpa [hc'] using hstop c hc
        -- Without a key the entry would begin with a blank, or with an equals sign.
        have hne : String.ofList key ≠ "" := by
          intro hnil
          obtain rfl : key = [] := by simpa using hnil
          obtain ⟨b, rest, rfl⟩ := List.exists_cons_of_ne_nil hend
          have hb := hentry b rfl
          rw [hends b rfl] at hb
          cases hb
        exact ⟨_, .malformed hgap hkey hne hends⟩

/-- Entries are read back as they were given, whatever their values hold, and every text is read to its end or up to
the first entry that is none. -/
theorem reads_entries :
    (∀ rows last, Layout rows last → pairs (spread rows last) = .ok (rows.map (·.2))) ∧
      ∀ cs outcome, pairs cs = outcome ↔ Reading cs outcome := by
  refine ⟨fun rows last h => pairs_spread h, fun cs outcome => ⟨fun h => ?_, pairs_of_reading⟩⟩
  obtain ⟨outcome', hreading⟩ := exists_reading cs
  rwa [← h, pairs_of_reading hreading]

/-- Rows with no key, with no value, and with a value that holds everything that is syntax elsewhere. -/
def sampleRows : List (List Char × String × String) :=
  [(['\n'], "", "a://b"), ([' ', '\t'], "empty", ""), (['\u00a0'], "all", "it's = \\ '")]

theorem reads_entries_of_sample :
    Layout sampleRows [' '] ∧ pairs (spread sampleRows [' ']) = .ok [("", "a://b"), ("empty", ""), ("all", "it's = \\ '")] := by
  have hlayout : Layout sampleRows [' '] := by
    constructor <;> simp [sampleRows, Bare, Gap, isBlank]
  exact ⟨hlayout, reads_entries.1 sampleRows [' '] hlayout⟩

end Conninfo

end SqlComposer
