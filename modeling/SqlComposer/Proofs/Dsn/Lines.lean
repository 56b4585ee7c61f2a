/-
  SqlComposer.Proofs.Dsn.Lines — lines of entries whose last value is open.

  The front of a line is any number of entries with known keys, each written in any way
  and with a blank behind it. Then comes the last entry, and whatever stands in the place
  of its value.

  Proved: when such a line gives a name, its last value was read as it stands exactly when
  it is a word, and then the entries of the front and this value are what the name was
  made of (`parse_line`).
-/

import SqlComposer.Proofs.Dsn.RoundTrip

namespace SqlComposer

namespace Conninfo

/-! ## Reading the front -/

/-- Entries in front of the last one, and their pairs. -/
inductive Front : List Char → List (String × String) → Prop
  | done {gap : List Char} (hgap : Gap gap) : Front gap []
  | entry {gap cs v front : List Char} {key : String} {b : Char} {entries : List (String × String)} (hgap : Gap gap)
      (hkey : Key key) (hv : Spelled cs v) (hb : isBlank b = true) (h : Front front entries) :
      Front (gap ++ (key.toList ++ '=' :: (cs ++ b :: front))) ((key, String.ofList v) :: entries)

/-- An entry of one word with a space behind it. -/
theorem Front.word {front : List Char} {entries : List (String × String)} (h : Front front entries) {key v : String}
    (hkey : Key key) (hv : Word v.toList) : Front (key.toList ++ '=' :: (v.toList ++ ' ' :: front)) ((key, v) :: entries) := by
  have := Front.entry gap_nil hkey (.word hv) (b := ' ') (by decide) h
  rwa [String.ofList_toList] at this

/-- The entries of the front take one unit of fuel each. -/
theorem readEntries_front {front : List Char} {entries : List (String × String)} (h : Front front entries) (fuel : Nat)
    (rest : List Char) :
    readEntries (entries.length + fuel) (front ++ rest) = (readEntries fuel rest).map (entries ++ ·) := by
  induction h with
  | done hgap =>
    rw [readEntries_gap hgap, List.length_nil, Nat.zero_add]
    cases readEntries fuel rest <;> rfl
  | @entry gap cs v front key b entries hgap hkey hv hb _ ih =>
    have hends : Ends (b :: (front ++ rest)) := by
      intro c hc
      obtain rfl := Option.some.inj hc
      exact hb
    have hblank : Gap [b] := by
      intro c hc
      obtain rfl := List.mem_singleton.mp hc
      exact hb
    have hentry := readEntry_spelled hkey.bare hv hends
    have hrest := readEntries_gap hblank (entries.length + fuel) (front ++ rest)
    have htext : gap ++ (key.toList ++ '=' :: (cs ++ b :: front)) ++ rest =
        gap ++ (key.toList ++ '=' :: (cs ++ b :: (front ++ rest))) := by simp
    rw [List.length_cons, Nat.add_right_comm, htext, readEntries_entry hgap hkey.bare, hentry]
    simp only [bind, Except.bind]
    rw [List.singleton_append] at hrest
    rw [hrest, ih]
    cases readEntries fuel rest <;> rfl

theorem Front.length_le {front : List Char} {entries : List (String × String)} (h : Front front entries) :
    entries.length ≤ front.length := by
  induction h with
  | done => exact Nat.zero_le _
  | entry _ _ _ _ _ ih =>
    simp only [List.length_append, List.length_cons]
    omega

/-- Behind its leading gap the line begins with a key. -/
theorem Front.trimStart {front : List Char} {entries : List (String × String)} (h : Front front entries) {key : String}
    (hkey : Key key) :
    ∃ front', Front front' entries ∧ ∀ rest,
      Chars.trimStart (front ++ (key.toList ++ '=' :: rest)) = front' ++ (key.toList ++ '=' :: rest) ∧
      ∃ key' rest', Key key' ∧ front' ++ (key.toList ++ '=' :: rest) = key'.toList ++ '=' :: rest' := by
  cases h with
  | done hgap => exact ⟨[], .done gap_nil, fun rest => ⟨trimStart_entry hgap hkey.bare rest, key, rest, hkey, rfl⟩⟩
  | @entry gap cs v front key' b entries hgap hkey' hv hb h =>
    refine ⟨_, .entry gap_nil hkey' hv hb h, fun rest => ?_⟩
    have htrim := trimStart_entry hgap hkey'.bare (cs ++ b :: (front ++ (key.toList ++ '=' :: rest)))
    exact ⟨by simpa using htrim, key', cs ++ b :: (front ++ (key.toList ++ '=' :: rest)), hkey', by simp⟩

/-! ## The open value -/

theorem readEntry_key {key k v : String} (hkey : Bare key) {cs rest : List Char}
    (h : readEntry (key.toList ++ '=' :: cs) = .ok ((k, v), rest)) : k = key := by
  by_cases hhead : cs.head? = some '\''
  · obtain ⟨cs, rfl⟩ := List.head?_eq_some_iff.mp hhead
    rw [readEntry_quoted hkey] at h
    cases hread : readQuoted cs with
    | none => simp [hread] at h
    | some read =>
      rw [hread] at h
      cases h
      rfl
  · rw [readEntry_word hkey hhead] at h
    cases h
    rfl

/-- The last entry is read behind the front, and what it leaves is read for more. -/
theorem pairs_front {front : List Char} {entries ps : List (String × String)} (h : Front front entries) {key : String}
    (hkey : Key key) {cs : List Char} (hpairs : pairs (front ++ (key.toList ++ '=' :: cs)) = .ok ps) :
    ∃ v rest fuel more, readEntry (key.toList ++ '=' :: cs) = .ok ((key, v), rest) ∧
      readEntries fuel rest = .ok more ∧ ps = entries ++ (key, v) :: more := by
  -- There is fuel for the entries of the front, and one unit more for the last one.
  obtain ⟨fuel, hfuel⟩ : ∃ fuel, (front ++ (key.toList ++ '=' :: cs)).length = entries.length + (fuel + 1) := by
    have hlength := h.length_le
    refine ⟨front.length - entries.length + key.toList.length + cs.length, ?_⟩
    simp only [List.length_append, List.length_cons]
    omega
  have hlast := readEntries_entry gap_nil hkey.bare fuel cs
  rw [List.nil_append] at hlast
  rw [pairs, hfuel, readEntries_front h, hlast] at hpairs
  obtain ⟨after, hafter, rfl⟩ := map_ok hpairs
  obtain ⟨⟨⟨k, v⟩, rest⟩, hentry, hafter⟩ := bind_ok hafter
  obtain ⟨more, hmore, hafter⟩ := bind_ok hafter
  obtain rfl := Except.ok.inj hafter
  obtain rfl := readEntry_key hkey.bare hentry
  exact ⟨v, rest, fuel, more, hentry, hmore, rfl⟩

theorem readEntry_of_word {key : String} (hkey : Key key) {v : List Char} (h : Word v) :
    readEntry (key.toList ++ '=' :: Chars.trimEnd v) = .ok ((key, String.ofList v), []) := by
  have hread := readEntry_spelled hkey.bare (.word h) ends_nil
  have htrim := Chars.trimEnd_of_finish fun c hc => h.plain c (List.mem_of_mem_getLast? hc)
  rw [List.append_nil] at hread
  rw [htrim, hread]

/-- A value that is read as it stands is a word. -/
theorem word_of_readEntry {key : String} (hkey : Key key) {v rest : List Char}
    (h : readEntry (key.toList ++ '=' :: Chars.trimEnd v) = .ok ((key, String.ofList v), rest)) : Word v := by
  have hprefix := Chars.trimEnd_prefix v
  by_cases hhead : (Chars.trimEnd v).head? = some '\''
  -- Between quotes there is less than the text has, for the quotes are gone.
  · obtain ⟨cs, hcs⟩ := List.head?_eq_some_iff.mp hhead
    rw [hcs, readEntry_quoted hkey.bare] at h
    cases hread : readQuoted cs with
    | none => simp [hread] at h
    | some read =>
      obtain ⟨v', rest'⟩ := read
      have hv : v' = v := by
        simp only [hread, Option.elim_some, Except.ok.injEq, Prod.mk.injEq, String.ofList_inj] at h
        exact h.1.2
      obtain ⟨inner, hinner, hsplit⟩ := inside_of_readQuoted hread
      have hshort := hinner.length_le
      have hlength := hprefix.length_le
      rw [hcs, hsplit] at hlength
      simp only [List.length_cons, List.length_append, hv] at hshort hlength
      omega
  · rw [readEntry_word hkey.bare hhead] at h
    have hv : (Chars.trimEnd v).takeWhile (!isBlank ·) = v := by
      simp only [Chars.takeWord, List.span_eq_takeWhile_dropWhile, Except.ok.injEq, Prod.mk.injEq, String.ofList_inj] at h
      exact h.1.2
    refine ⟨fun c hc => ?_, fun hquote => hhead ?_⟩
    · rw [← hv] at hc
      simpa using List.mem_takeWhile_imp hc
    · rw [← hv, List.head?_takeWhile] at hquote
      exact (Option.filter_eq_some_iff.mp hquote).1

end Conninfo

namespace Dsn

open Conninfo

/-- A line is trimmed at both ends and read as entries. -/
theorem parse_front {front : List Char} {entries : List (String × String)} (h : Front front entries) {key : String}
    (hkey : Key key) {value : List Char} {d : Dsn}
    (hparse : parse (String.ofList (front ++ (key.toList ++ '=' :: value))) = .ok d) :
    ∃ front' ps, Front front' entries ∧ pairs (front' ++ (key.toList ++ '=' :: Chars.trimEnd value)) = .ok ps ∧
      ofPairs ps = .ok d := by
  have hequals : isBlank '=' = false := by decide
  obtain ⟨front', hfront, htrim⟩ := h.trimStart hkey
  have htext : Text.trim (String.ofList (front ++ (key.toList ++ '=' :: value))) =
      String.ofList (front' ++ (key.toList ++ '=' :: Chars.trimEnd value)) := by
    rw [Text.trim, String.toList_ofList, Chars.trim, (htrim value).1, ← List.append_assoc,
      Chars.trimEnd_append_cons hequals, List.append_assoc]
  obtain ⟨-, key', rest', hkey', hlead⟩ := htrim (Chars.trimEnd value)
  have hurl := ofUrl_entry hkey' rest'
  rw [← hlead] at hurl
  simp only [parse, htext, hurl, String.toList_ofList] at hparse
  split at hparse
  · cases hparse
  split at hparse
  · cases hparse
  obtain ⟨ps, hpairs, hd⟩ := bind_ok hparse
  exact ⟨front', ps, hfront, hpairs, hd⟩

/-- When a line gives a name, its last value was read as it stands exactly when it is a word; and then
the name is made of the entries of the front and of this one. -/
theorem parse_line {front : List Char} {entries : List (String × String)} (h : Front front entries) {v gap : List Char}
    (hgap : Gap gap) {d : Dsn} (hparse : parse (String.ofList (front ++ ("password".toList ++ '=' :: (v ++ gap)))) = .ok d) :
    (d.password = String.ofList v ↔ Word v) ∧
      (Word v → ofPairs (entries ++ [("password", String.ofList v)]) = .ok d) := by
  have hof : DsnKey.ofText "password" = some .password := by decide
  have hkey : Key "password" := ⟨by simp [Bare, isBlank], by rw [hof]; rfl⟩
  obtain ⟨front', ps, hfront, hpairs, hd⟩ := parse_front h hkey hparse
  rw [Chars.trimEnd_append_blank hgap] at hpairs
  obtain ⟨w, rest, fuel, more, hentry, hmore, rfl⟩ := pairs_front hfront hkey hpairs
  have hpassword : d.password = w := by
    obtain ⟨k, hk, hgiven⟩ := given_of_mem hd (p := ("password", w)) (by simp)
    rw [hof] at hk
    obtain rfl := Option.some.inj hk
    exact Option.some.inj ((gives_of_ofPairs hd).password.symm.trans hgiven)
  have hword : Word v → w = String.ofList v ∧ more = [] := by
    intro hv
    rw [readEntry_of_word hkey hv] at hentry
    obtain ⟨⟨-, rfl⟩, rfl⟩ : (("password" = "password") ∧ String.ofList v = w) ∧ [] = rest := by
      simpa using hentry
    rw [readEntries_nil] at hmore
    exact ⟨rfl, (Except.ok.inj hmore).symm⟩
  refine ⟨⟨fun heq => ?_, fun hv => ?_⟩, fun hv => ?_⟩
  · rw [hpassword] at heq
    exact word_of_readEntry hkey (heq ▸ hentry)
  · rw [hpassword, (hword hv).1]
  · obtain ⟨rfl, rfl⟩ := hword hv
    exact hd

end Dsn

end SqlComposer
