/-
  SqlComposer.Proofs.Composing.TableRefs — table references as words.

  A table reference is one word, the table; or two, the table and its alias; or three,
  with the word AS between them. The alias is a name.

  Proved (`TableRef.parse_words`): exactly these are read, each as what its words say, and
  any other text is refused, a blank one as empty and the rest as malformed.
-/

import SqlComposer.Proofs.Text.Words

namespace SqlComposer

namespace TableRef

/-- What the words of a table reference say. -/
inductive Spelled : List String → TableRef → Prop
  | bare (table : String) : Spelled [table] ⟨.name table, none⟩
  | plain (table : String) {aliasName : String} (h : Text.IsName aliasName) :
      Spelled [table, aliasName] ⟨.name table, some aliasName⟩
  | keyword (table : String) {word aliasName : String} (hword : Text.fold word = "as") (h : Text.IsName aliasName) :
      Spelled [table, word, aliasName] ⟨.name table, some aliasName⟩

/-! ## The alias -/

/-- The alias in what follows the table. -/
inductive Aliased : List (List Char) → List Char → Prop
  | plain {a : List Char} (h : Chars.isIdentifier a = true) : Aliased [a] a
  | keyword {k a : List Char} (hk : k.map Chars.fold = ['a', 's']) (h : Chars.isIdentifier a = true) : Aliased [k, a] a

theorem word_of_isIdentifier {cs : List Char} (h : Chars.isIdentifier cs = true) : ∀ c ∈ cs, isBlank c = false := by
  have hname : Text.IsName (String.ofList cs) := Text.isIdentifier_iff.mp (by rwa [String.toList_ofList])
  simpa using hname.word

theorem readAlias_word {w a : List Char} (hw : ∀ c ∈ w, isBlank c = false) :
    readAlias w = some a ↔ Chars.isIdentifier w = true ∧ w = a := by
  rw [readAlias, Chars.stripAs_of_word hw, Option.filter_none]
  dsimp only
  rw [Option.ite_none_right_eq_some, Option.some.injEq]

/-- A text of several words is no name, so the alias has to stand behind the word AS. -/
theorem readAlias_words {k rest a : List Char} {b : Char} (hk : ∀ c ∈ k, isBlank c = false) (hb : isBlank b = true) :
    readAlias (k ++ b :: rest) = some a ↔
      k.map Chars.fold = ['a', 's'] ∧ Chars.isIdentifier a = true ∧ Chars.trimStart (b :: rest) = a := by
  have hseveral : Chars.isIdentifier (k ++ b :: rest) = false := by
    refine eq_false_of_ne_true fun hname => ?_
    rw [word_of_isIdentifier hname b (by simp)] at hb
    cases hb
  rw [readAlias, Chars.stripAs_word hk hb, hseveral]
  by_cases hword : k.map Chars.fold = ['a', 's']
  · rw [if_pos hword]
    by_cases hname : Chars.isIdentifier (Chars.trimStart (b :: rest)) = true
    · rw [Option.filter_some, if_pos hname]
      constructor
      · rintro h
        obtain rfl := Option.some.inj h
        exact ⟨hword, hname, rfl⟩
      · rintro ⟨-, -, rfl⟩
        rfl
    · rw [Option.filter_some, if_neg hname]
      refine iff_of_false (by simp) ?_
      rintro ⟨-, ha, rfl⟩
      exact hname ha
  · rw [if_neg hword]
    exact iff_of_false (by simp) fun h => hword h.1

theorem readAlias_eq_some {cs a : List Char} (hne : cs ≠ []) (hcs : Chars.Trimmed cs) :
    readAlias cs = some a ↔ Aliased (Chars.words cs) a := by
  obtain ⟨k, rest, -, rfl, hk, hword, hrest, hwords⟩ := Chars.exists_word hne hcs.start
  rw [hwords]
  cases rest with
  | nil =>
    rw [List.append_nil, readAlias_word hword]
    constructor
    · rintro ⟨hname, rfl⟩
      exact .plain hname
    · intro h
      cases h with
      | plain hname => exact ⟨hname, rfl⟩
  | cons b rest =>
    have hfinish := Chars.finish_of_suffix (List.suffix_append k (b :: rest)) hcs.finish
    have hmore : Chars.words (b :: rest) ≠ [] := Chars.words_ne_nil (by simp) hfinish
    rw [readAlias_words hword (hrest b rfl)]
    constructor
    · rintro ⟨hkey, hname, rfl⟩
      rw [← Chars.words_trimStart, Chars.words_of_word (by rintro h; rw [h] at hname; cases hname)
        (word_of_isIdentifier hname)]
      exact .keyword hkey hname
    · intro h
      generalize hws : Chars.words (b :: rest) = ws at h
      cases h with
      | plain hname => exact absurd hws hmore
      | keyword hkey hname =>
        refine ⟨hkey, hname, ?_⟩
        rw [← Chars.trim_of_words hws, Chars.trim, Chars.trimEnd_of_finish]
        exact Chars.finish_of_suffix (List.dropWhile_suffix _) hfinish

/-- Behind the table the alias is read from the words that are left. -/
theorem readAlias_trimStart {rest a : List Char} (hmore : Chars.words rest ≠ [])
    (hfinish : ∀ c ∈ rest.getLast?, isBlank c = false) :
    readAlias (Chars.trimStart rest) = some a ↔ Aliased (Chars.words rest) a := by
  have hne : Chars.trimStart rest ≠ [] := by
    intro hnil
    rw [← Chars.words_trimStart, hnil] at hmore
    exact hmore rfl
  have htrimmed : Chars.Trimmed (Chars.trimStart rest) :=
    ⟨Chars.head_dropWhile rest, Chars.finish_of_suffix (List.dropWhile_suffix _) hfinish⟩
  rw [readAlias_eq_some hne htrimmed, Chars.words_trimStart]

/-! ## The table and its alias -/

theorem spelled_cons {w : List Char} {ws : List (List Char)} {t : TableRef} :
    Spelled ((w :: ws).map String.ofList) t ↔
      (ws = [] ∧ t = ⟨.name (String.ofList w), none⟩) ∨
        ∃ a, Aliased ws a ∧ t = ⟨.name (String.ofList w), some (String.ofList a)⟩ := by
  have hname {a : List Char} : Text.IsName (String.ofList a) ↔ Chars.isIdentifier a = true := by
    rw [← Text.isIdentifier_iff, String.toList_ofList]
  have hword {k : List Char} : Text.fold (String.ofList k) = "as" ↔ k.map Chars.fold = ['a', 's'] := by
    rw [Text.fold_eq_as, String.toList_ofList]
  constructor
  · intro h
    match ws, h with
    | [], .bare _ => exact .inl ⟨rfl, rfl⟩
    | [a], .plain _ ha => exact .inr ⟨a, .plain (hname.mp ha), rfl⟩
    | [k, a], .keyword _ hk ha => exact .inr ⟨a, .keyword (hword.mp hk) (hname.mp ha), rfl⟩
  · rintro (⟨rfl, rfl⟩ | ⟨a, h, rfl⟩)
    · exact .bare _
    · cases h with
      | plain ha => exact .plain _ (hname.mpr ha)
      | keyword hk ha => exact .keyword _ (hword.mpr hk) (hname.mpr ha)

theorem named_word {w : List Char} (hw : ∀ c ∈ w, isBlank c = false) :
    named (String.ofList w) = ⟨.name (String.ofList w), none⟩ := by
  rw [named, Text.trim_word hw]

theorem aliased_words {w a : List Char} (hw : ∀ c ∈ w, isBlank c = false) (ha : ∀ c ∈ a, isBlank c = false) :
    aliased (String.ofList w) (String.ofList a) = ⟨.name (String.ofList w), some (String.ofList a)⟩ := by
  rw [aliased, Text.trim_word hw, Text.trim_word ha]

theorem Aliased.word {ws : List (List Char)} {a : List Char} (h : Aliased ws a) : ∀ c ∈ a, isBlank c = false := by
  cases h with
  | plain ha => exact word_of_isIdentifier ha
  | keyword _ ha => exact word_of_isIdentifier ha

theorem parse_of_blank {spec : String} (h : Chars.trim spec.toList = []) : parse spec = .error .emptyTableRef := by
  rw [parse]
  dsimp only
  rw [h]
  rfl

theorem parse_of_word {spec : String} {w rest : List Char} (hne : Chars.trim spec.toList ≠ [])
    (h : Chars.takeWord (Chars.trim spec.toList) = (w, rest)) :
    parse spec =
      if rest.isEmpty then .ok (named (String.ofList w))
      else match readAlias (Chars.trimStart rest) with
        | some a => .ok (aliased (String.ofList w) (String.ofList a))
        | none => .error (.malformedTableRef (Text.trim spec)) := by
  rw [parse]
  dsimp only
  rw [h, if_neg (by simpa using hne)]
  rfl

/-- What is read is what the words spell, and a text that is not blank is refused as malformed. -/
theorem parse_spelled {spec : String} (hne : Chars.trim spec.toList ≠ []) :
    (∀ t, parse spec = .ok t ↔ Spelled (Text.words spec) t) ∧
      ∀ f, parse spec = .error f → f = .malformedTableRef (Text.trim spec) := by
  have htrimmed := Chars.trimmed_trim spec.toList
  obtain ⟨w, rest, htake, hsplit, -, hw, hrest, hwords⟩ := Chars.exists_word hne htrimmed.start
  rw [parse_of_word hne htake, Text.words, ← Chars.words_trim, hwords]
  simp only [spelled_cons]
  cases rest with
  | nil =>
    rw [List.isEmpty_nil, if_pos rfl, named_word hw]
    refine ⟨fun t => ?_, fun f h => by cases h⟩
    constructor
    · intro h
      exact .inl ⟨rfl, (Except.ok.inj h).symm⟩
    · rintro (⟨-, rfl⟩ | ⟨a, h, -⟩)
      · rfl
      · cases h
  | cons b rest =>
    have hfinish := Chars.finish_of_suffix ⟨w, hsplit.symm⟩ htrimmed.finish
    have hmore : Chars.words (b :: rest) ≠ [] := Chars.words_ne_nil (by simp) hfinish
    have hread (a : List Char) := readAlias_trimStart (a := a) hmore hfinish
    rw [List.isEmpty_cons, if_neg Bool.false_ne_true]
    cases halias : readAlias (Chars.trimStart (b :: rest)) with
    | some a =>
      have ha := (hread a).mp halias
      dsimp only
      rw [aliased_words hw ha.word]
      refine ⟨fun t => ?_, fun f h => by cases h⟩
      constructor
      · intro h
        exact .inr ⟨a, ha, (Except.ok.inj h).symm⟩
      · rintro (⟨hnil, -⟩ | ⟨a', ha', rfl⟩)
        · exact absurd hnil hmore
        · obtain rfl := Option.some.inj (halias.symm.trans ((hread a').mpr ha'))
          rfl
    | none =>
      refine ⟨fun t => iff_of_false (by simp) ?_, fun f h => (Except.error.inj h).symm⟩
      rintro (⟨hnil, -⟩ | ⟨a', ha', -⟩)
      · exact absurd hnil hmore
      · rw [(hread a').mpr ha'] at halias
        cases halias

/-- A text is read as a table reference exactly when its words spell one, and as that one. Any other text is refused. -/
theorem parse_words (spec : String) :
    (∀ t, parse spec = .ok t ↔ Spelled (Text.words spec) t) ∧
      ∀ f, parse spec = .error f ↔ (∀ t, ¬ Spelled (Text.words spec) t) ∧
        f = if Text.words spec = [] then .emptyTableRef else .malformedTableRef (Text.trim spec) := by
  have hwords : Text.words spec = [] ↔ Chars.trim spec.toList = [] := by
    rw [Text.words, List.map_eq_nil_iff, Chars.words_eq_nil]
  by_cases hne : Chars.trim spec.toList = []
  · have hnot (t : TableRef) : ¬ Spelled [] t := fun h => by cases h
    rw [parse_of_blank hne, hwords.mpr hne, if_pos rfl]
    refine ⟨fun t => iff_of_false (by simp) (hnot t), fun f => ?_⟩
    rw [Except.error.injEq, eq_comm]
    exact (and_iff_right hnot).symm
  · obtain ⟨hok, herror⟩ := parse_spelled hne
    rw [if_neg (mt hwords.mp hne)]
    refine ⟨hok, fun f => ?_⟩
    constructor
    · intro h
      refine ⟨fun t ht => ?_, herror f h⟩
      rw [(hok t).mpr ht] at h
      cases h
    · rintro ⟨hnot, rfl⟩
      cases hparse : parse spec with
      | ok t => exact absurd ((hok t).mp hparse) (hnot t)
      | error f => rw [herror f hparse]

example : TableRef.parse " app.users\tA\u017f  u " = .ok ⟨.name "app.users", some "u"⟩ := by rfl

end TableRef

end SqlComposer
