/-
  SqlComposer.Proofs.CommandLine.Reading — what a command does with its words, one after
  another.

  An option with a value behind it takes two words, every other word stands alone. After
  each of them either nothing that follows matters any more, because help is asked for or a
  fault was found, or reading goes on with what has been read so far.

  Proved: one equation for each kind of word (`parseQuery_config`, `parseQuery_server`,
  `parseQuery_plain` and their like for the second spelling and for pings); words that end
  where an option may be read lead to one place of the two (`Place.settles`), so what reads
  alike from everywhere reads alike behind them (`Settles.congr`).
-/

import SqlComposer.CommandLine.Arguments

namespace SqlComposer.CommandLine

/-! ## One word -/

/-- A word with an inline value is no other word of the command line. -/
theorem ne_of_inlineValue {option word value : String} (h : inlineValue option word = some value) {fixed : String}
    (hfixed : inlineValue option fixed = none) : (word == fixed) = false := by
  refine beq_eq_false_iff_ne.mpr ?_
  rintro rfl
  rw [hfixed] at h
  cases h

theorem isHelp_of_inlineValue {option word value : String} (h : inlineValue option word = some value)
    (hshort : inlineValue option "-h" = none) (hlong : inlineValue option "--help" = none) : isHelp word = false := by
  rw [isHelp, ne_of_inlineValue h hshort, ne_of_inlineValue h hlong]
  rfl

theorem parseQuery_config (a : QueryArguments) (words : List String) (value : String) (rest : List String) :
    parseQuery a words ("--config" :: value :: rest) = parseQuery { a with config := value } words rest := by
  rfl

theorem parseQuery_server (a : QueryArguments) (words : List String) (value : String) (rest : List String) :
    parseQuery a words ("--server" :: value :: rest) =
      (parseServer value).bind fun server => parseQuery { a with server := some server } words rest := by
  rw [parseQuery]
  cases parseServer value <;> rfl

theorem parseQuery_config_inline {word value : String} (h : inlineValue "--config" word = some value) (a : QueryArguments)
    (words rest : List String) :
    parseQuery a words (word :: rest) = parseQuery { a with config := value } words rest := by
  have hhelp := isHelp_of_inlineValue h (by decide) (by decide)
  have hself : (word == "--config") = false := ne_of_inlineValue h (by decide)
  rw [parseQuery.eq_def]
  simp [hhelp, hself, h]

theorem parseQuery_server_inline {word value : String} (h : inlineValue "--server" word = some value)
    (hconfig : inlineValue "--config" word = none) (a : QueryArguments) (words rest : List String) :
    parseQuery a words (word :: rest) =
      (parseServer value).bind fun server => parseQuery { a with server := some server } words rest := by
  have hhelp := isHelp_of_inlineValue h (by decide) (by decide)
  have hself : (word == "--server") = false := ne_of_inlineValue h (by decide)
  have hother : (word == "--config") = false := ne_of_inlineValue h (by decide)
  rw [parseQuery.eq_def]
  simp only [hhelp, hself, hother, h, hconfig]
  cases parseServer value <;> rfl

theorem parseQuery_help {word : String} (h : isHelp word = true) (a : QueryArguments) (words rest : List String) :
    parseQuery a words (word :: rest) = .ok (.help .query) := by
  rw [parseQuery.eq_def]
  exact if_pos h

/-- A word without a value: a switch, the double dash, or a word of the SQL. -/
theorem parseQuery_plain {word : String} (hhelp : isHelp word = false) (hconfig : word ≠ "--config")
    (hserver : word ≠ "--server") (hc : inlineValue "--config" word = none) (hs : inlineValue "--server" word = none)
    (a : QueryArguments) (words rest : List String) :
    parseQuery a words (word :: rest) =
      if word == "--json" then parseQuery { a with json := true } words rest
      else if isVerbose word then parseQuery { a with verbose := true } words rest
      else if word == "--" then finishQuery a (words ++ rest)
      else if word.toList.head? == some '-' && words.isEmpty then .error (.unknownOption word)
      else parseQuery a (words ++ [word]) rest := by
  rw [parseQuery.eq_def]
  simp [hhelp, hconfig, hserver, hc, hs]

theorem parsePing_config (a : PingArguments) (value : String) (rest : List String) :
    parsePing a ("--config" :: value :: rest) = parsePing { a with config := value } rest := by
  rfl

theorem parsePing_config_inline {word value : String} (h : inlineValue "--config" word = some value) (a : PingArguments)
    (rest : List String) : parsePing a (word :: rest) = parsePing { a with config := value } rest := by
  have hhelp := isHelp_of_inlineValue h (by decide) (by decide)
  have hself : (word == "--config") = false := ne_of_inlineValue h (by decide)
  rw [parsePing.eq_def]
  simp [hhelp, hself, h]

/-! ## Places -/

/-- The options of a command that take a value. -/
def valueOptions (command : String) : List String :=
  if command == "query" then ["--config", "--server"] else if command == "ping" then ["--config"] else []

theorem mem_valueOptions {command option : String} :
    option ∈ valueOptions command ↔
      command = "query" ∧ (option = "--config" ∨ option = "--server") ∨ command = "ping" ∧ option = "--config" := by
  unfold valueOptions
  by_cases hquery : command = "query"
  · simp [hquery]
  · by_cases hping : command = "ping" <;> simp [hquery, hping]

/-- Words behind which an option is read: each option with a value stands there with its value, and no other
word is a double dash. -/
inductive Place (options : List String) : List String → Prop
  | start : Place options []
  | word {word : String} {front : List String} (hword : word ∉ options) (hdash : word ≠ "--") (h : Place options front) :
      Place options (word :: front)
  | option {option : String} {front : List String} (hoption : option ∈ options) (value : String) (h : Place options front) :
      Place options (option :: value :: front)

section

variable {σ : Type} {next : σ → List String → Except UsageFault Command}

/-- Behind `front` either nothing matters any more, or reading goes on from where `front` has led to. -/
def Settles (next : σ → List String → Except UsageFault Command) (front : List String) : Prop :=
  ∀ s, (∃ result, ∀ rest, next s (front ++ rest) = result) ∨ ∃ s', ∀ rest, next s (front ++ rest) = next s' rest

theorem Settles.append {xs ys : List String} (hxs : Settles next xs) (hys : Settles next ys) : Settles next (xs ++ ys) := by
  intro s
  rcases hxs s with ⟨result, h⟩ | ⟨s', h⟩
  · exact .inl ⟨result, fun rest => by rw [List.append_assoc, h]⟩
  · rcases hys s' with ⟨result, h'⟩ | ⟨s'', h'⟩
    · exact .inl ⟨result, fun rest => by rw [List.append_assoc, h, h']⟩
    · exact .inr ⟨s'', fun rest => by rw [List.append_assoc, h, h']⟩

theorem Place.settles {options front : List String} (h : Place options front)
    (hword : ∀ word, word ∉ options → word ≠ "--" → Settles next [word])
    (hoption : ∀ option ∈ options, ∀ value, Settles next [option, value]) : Settles next front := by
  induction h with
  | start => exact fun s => .inr ⟨s, fun rest => rfl⟩
  | word hw hdash _ ih => exact (hword _ hw hdash).append ih
  | option ho value _ ih => exact (hoption _ ho value).append ih

/-- What reads alike from everywhere reads alike behind `front`. -/
theorem Settles.congr {front xs ys : List String} (h : Settles next front) (hsame : ∀ s, next s xs = next s ys) (s : σ) :
    next s (front ++ xs) = next s (front ++ ys) := by
  rcases h s with ⟨result, h⟩ | ⟨s', h⟩
  · rw [h, h]
  · rw [h, h, hsame]

end

/-- Reading a query, with the options and the words of SQL read so far. -/
def readQuery (s : QueryArguments × List String) (rest : List String) : Except UsageFault Command := parseQuery s.1 s.2 rest

theorem settles_query_word {word : String} (hword : word ∉ valueOptions "query") (hdash : word ≠ "--") :
    Settles readQuery [word] := by
  rintro ⟨a, words⟩
  simp only [List.singleton_append, readQuery]
  obtain ⟨hconfig, hserver⟩ : word ≠ "--config" ∧ word ≠ "--server" := by simpa [mem_valueOptions] using hword
  -- Which branch is taken depends on the word and on what has been read, and never on what follows.
  by_cases hhelp : isHelp word = true
  · exact .inl ⟨_, parseQuery_help hhelp a words⟩
  have hhelp : isHelp word = false := eq_false_of_ne_true hhelp
  cases hc : inlineValue "--config" word with
  | some value => exact .inr ⟨({ a with config := value }, words), parseQuery_config_inline hc a words⟩
  | none =>
    cases hs : inlineValue "--server" word with
    | some value =>
      have hread := parseQuery_server_inline hs hc a words
      cases hparse : parseServer value with
      | error f => exact .inl ⟨.error f, fun rest => by rw [hread, hparse]; rfl⟩
      | ok server => exact .inr ⟨({ a with server := some server }, words), fun rest => by rw [hread, hparse]; rfl⟩
    | none =>
      have hread := parseQuery_plain hhelp hconfig hserver hc hs a words
      by_cases hjson : (word == "--json") = true
      · exact .inr ⟨({ a with json := true }, words), fun rest => by rw [hread, if_pos hjson]⟩
      by_cases hverbose : isVerbose word = true
      · exact .inr ⟨({ a with verbose := true }, words), fun rest => by simp [hread, hjson, hverbose]⟩
      by_cases hunknown : (word.toList.head? == some '-' && words.isEmpty) = true
      · exact .inl ⟨.error (.unknownOption word), fun rest => by simp [hread, hjson, hverbose, hdash, hunknown]⟩
      · exact .inr ⟨(a, words ++ [word]), fun rest => by simp [hread, hjson, hverbose, hdash, hunknown]⟩

theorem settles_query_option {option : String} (hoption : option ∈ valueOptions "query") (value : String) :
    Settles readQuery [option, value] := by
  rintro ⟨a, words⟩
  obtain rfl | rfl : option = "--config" ∨ option = "--server" := by simpa [mem_valueOptions] using hoption
  · exact .inr ⟨({ a with config := value }, words), parseQuery_config a words value⟩
  · have hread := parseQuery_server a words value
    cases hparse : parseServer value with
    | error f =>
      refine .inl ⟨.error f, fun rest => ?_⟩
      rw [List.cons_append, List.singleton_append, readQuery, hread, hparse]
      rfl
    | ok server =>
      refine .inr ⟨({ a with server := some server }, words), fun rest => ?_⟩
      rw [List.cons_append, List.singleton_append, readQuery, hread, hparse]
      rfl

theorem settles_ping_word {word : String} (hword : word ∉ valueOptions "ping") : Settles parsePing [word] := by
  intro a
  simp only [List.singleton_append]
  have hconfig : word ≠ "--config" := by simpa [mem_valueOptions] using hword
  by_cases hhelp : isHelp word = true
  · exact .inl ⟨.ok (.help .ping), fun rest => by rw [parsePing.eq_def]; simp [hhelp]⟩
  cases hc : inlineValue "--config" word with
  | some value => exact .inr ⟨{ a with config := value }, parsePing_config_inline hc a⟩
  | none =>
    by_cases hverbose : isVerbose word = true
    · exact .inr ⟨{ a with verbose := true }, fun rest => by rw [parsePing.eq_def]; simp [hhelp, hconfig, hc, hverbose]⟩
    · refine .inl ⟨.error (.unexpectedArgument word), fun rest => ?_⟩
      rw [parsePing.eq_def]
      simp [hhelp, hconfig, hc, hverbose]

theorem settles_ping_option {option : String} (hoption : option ∈ valueOptions "ping") (value : String) :
    Settles parsePing [option, value] := by
  intro a
  obtain rfl : option = "--config" := by simpa [mem_valueOptions] using hoption
  exact .inr ⟨{ a with config := value }, parsePing_config a value⟩

end SqlComposer.CommandLine
