/-
  SqlComposer.Proofs.CommandLine.Spellings — an option with its value behind it, and with
  its value behind an equals sign.

  The value behind an option is the next word as it is. Of a word that begins with the
  option and an equals sign the value is what is left when this lead has been taken off as
  often as it stands in front.

  Proved: at every place where a command reads an option, the second spelling of a value
  means what the first means of this value without leads; so both spellings of a value mean
  the same everywhere exactly when the value does not begin with the option's own lead
  (`parse_spellings`). One that does is a closed scenario (`parse_repeated_lead`).
-/

import SqlComposer.Proofs.CommandLine.Reading
import SqlComposer.Proofs.Succeeding
import SqlComposer.Proofs.Text.Splitting

namespace SqlComposer.CommandLine

/-! ## Leads -/

/-- The option and its equals sign stand in front of the value. -/
def Leads (option value : String) : Prop := (option ++ "=").toList <+: value.toList

/-- A value behind the option and its equals sign, which stand there `n` times. -/
def led (option : String) : Nat → String → String
  | 0, value => value
  | n + 1, value => option ++ "=" ++ led option n value

theorem toList_led_succ (option : String) (n : Nat) (value : String) :
    (led option (n + 1) value).toList = (option ++ "=").toList ++ (led option n value).toList := by
  rw [led, String.toList_append]

theorem length_led (option : String) (n : Nat) (value : String) :
    (led option n value).toList.length = n * (option.toList.length + 1) + value.toList.length := by
  induction n with
  | zero => simp [led]
  | succ n ih =>
    have hequals : "=".toList.length = 1 := rfl
    simp only [toList_led_succ, String.toList_append, List.length_append, ih, Nat.succ_mul, hequals]
    omega

theorem eq_zero_of_led_eq {option value : String} {n : Nat} (h : led option n value = value) : n = 0 := by
  have hlength := length_led option n value
  rw [h] at hlength
  have hzero : n * (option.toList.length + 1) = 0 := by omega
  exact (Nat.mul_eq_zero.mp hzero).resolve_right (Nat.succ_ne_zero _)

/-- Every value stands behind some number of leads. -/
theorem exists_led (option value : String) : ∃ n bare, value = led option n bare ∧ ¬Leads option bare := by
  induction hlength : value.toList.length using Nat.strong_induction_on generalizing value with
  | _ length ih =>
    by_cases h : Leads option value
    · obtain ⟨rest, hrest⟩ := h
      have hvalue : value = option ++ "=" ++ String.ofList rest := by
        rw [← String.toList_inj, String.toList_append, String.toList_ofList, hrest]
      have hshorter : (String.ofList rest).toList.length < length := by
        rw [← hlength, ← hrest]
        simp
        omega
      obtain ⟨n, bare, hbare, hleads⟩ := ih _ hshorter _ rfl
      exact ⟨n + 1, bare, by rw [led, ← hbare, hvalue], hleads⟩
    · exact ⟨0, value, rfl, h⟩

theorem stripLeads_led {option bare : String} (hbare : ¬Leads option bare) {n fuel : Nat} (hfuel : n ≤ fuel) :
    stripLeads (option ++ "=").toList fuel (led option n bare).toList = bare.toList := by
  induction n generalizing fuel with
  | zero =>
    cases fuel with
    | zero => rfl
    | succ fuel =>
      cases hstrip : Chars.stripLead (option ++ "=").toList bare.toList with
      | none => rw [led, stripLeads, hstrip]
      | some rest => exact absurd ⟨rest, (Chars.stripLead_eq_some.mp hstrip).symm⟩ hbare
  | succ n ih =>
    obtain ⟨fuel, rfl⟩ : ∃ more, fuel = more + 1 := ⟨fuel - 1, by omega⟩
    have hstrip : Chars.stripLead (option ++ "=").toList (led option (n + 1) bare).toList = some (led option n bare).toList :=
      Chars.stripLead_eq_some.mpr (toList_led_succ option n bare)
    rw [stripLeads, hstrip]
    exact ih (Nat.le_of_succ_le_succ hfuel)

theorem inlineValue_led {option bare : String} (hbare : ¬Leads option bare) (n : Nat) :
    inlineValue option (led option (n + 1) bare) = some bare := by
  have hstrip : Chars.stripLead (option ++ "=").toList (led option (n + 1) bare).toList = some (led option n bare).toList :=
    Chars.stripLead_eq_some.mpr (toList_led_succ option n bare)
  have hfuel : n ≤ (led option n bare).toList.length := by
    rw [length_led]
    exact Nat.le_add_right_of_le (Nat.le_mul_of_pos_right n (Nat.succ_pos _))
  simp only [inlineValue, hstrip]
  rw [stripLeads_led hbare hfuel, String.ofList_toList]

/-! ## Both spellings -/

theorem server_not_config {n : Nat} {bare : String} : inlineValue "--config" (led "--server" (n + 1) bare) = none := by
  simp [inlineValue, led, Chars.stripLead]

theorem readQuery_led {option : String} (hoption : option ∈ valueOptions "query") {bare : String} (hbare : ¬Leads option bare)
    (n : Nat) (rest : List String) (s : QueryArguments × List String) :
    readQuery s (led option (n + 1) bare :: rest) = readQuery s (option :: bare :: rest) := by
  have hinline := inlineValue_led hbare n
  obtain rfl | rfl : option = "--config" ∨ option = "--server" := by simpa [mem_valueOptions] using hoption
  · rw [readQuery, readQuery, parseQuery_config_inline hinline, parseQuery_config]
  · rw [readQuery, readQuery, parseQuery_server_inline hinline server_not_config, parseQuery_server]

theorem parsePing_led {bare : String} (hbare : ¬Leads "--config" bare) (n : Nat) (rest : List String) (a : PingArguments) :
    parsePing a (led "--config" (n + 1) bare :: rest) = parsePing a ("--config" :: bare :: rest) := by
  rw [parsePing_config_inline (inlineValue_led hbare n), parsePing_config]

theorem parse_led {command option : String} (hoption : option ∈ valueOptions command) {bare : String}
    (hbare : ¬Leads option bare) (n : Nat) {front : List String} (hfront : Place (valueOptions command) front)
    (rest : List String) :
    parse (command :: (front ++ led option (n + 1) bare :: rest)) = parse (command :: (front ++ option :: bare :: rest)) := by
  rcases mem_valueOptions.mp hoption with ⟨rfl, -⟩ | ⟨rfl, rfl⟩
  · have hsettles : Settles readQuery front :=
      hfront.settles (fun _ => settles_query_word) fun _ => settles_query_option
    exact hsettles.congr (readQuery_led hoption hbare n rest) ({}, [])
  · have hsettles : Settles parsePing front :=
      hfront.settles (fun _ hword _ => settles_ping_word hword) fun _ => settles_ping_option
    exact hsettles.congr (parsePing_led hbare n rest) {}

/-! ## Values with leads

A server with its own lead in front is refused, whatever the server without it is, for no engine's name begins
with a dash; and the fault quotes it. -/

theorem suffix_led (option : String) (n : Nat) (value : String) : value.toList <:+ (led option n value).toList := by
  induction n with
  | zero => exact List.suffix_rfl
  | succ n ih =>
    rw [toList_led_succ]
    exact ih.trans (List.suffix_append _ _)

theorem splitFirst_led {option : String} (h : ':' ∉ (option ++ "=").toList) (n : Nat) (value : String) :
    Chars.splitFirst ':' (led option n value).toList = (Chars.splitFirst ':' value.toList).map fun (before, after) =>
      ((led option n (String.ofList before)).toList, after) := by
  induction n with
  | zero => cases hsplit : Chars.splitFirst ':' value.toList <;> simp [led, hsplit]
  | succ n ih =>
    rw [toList_led_succ, Chars.splitFirst_append h, ih, Option.map_map]
    simp [toList_led_succ, Function.comp_def]

theorem trim_led (n : Nat) (value : String) :
    Chars.trim (led "--server" (n + 1) value).toList =
      "--server".toList ++ '=' :: Chars.trimEnd (led "--server" n value).toList := by
  have htext : (led "--server" (n + 1) value).toList = "--server".toList ++ '=' :: (led "--server" n value).toList := by
    simp [led]
  have hstart : ∀ c ∈ (led "--server" (n + 1) value).toList.head?, isBlank c = false := by
    rw [htext]
    intro c hc
    obtain rfl : '-' = c := Option.some.inj hc
    decide
  rw [Chars.trim, Chars.trimStart, Chars.dropWhile_of_head hstart, htext, Chars.trimEnd_append_cons (by decide)]

theorem length_trim_led (n : Nat) (value : String) :
    (Chars.trim value.toList).length < (Chars.trim (led "--server" (n + 1) value).toList).length := by
  have hsuffix : Chars.trimStart value.toList <:+ (led "--server" n value).toList :=
    (List.dropWhile_suffix _).trans (suffix_led _ n value)
  have hlength := Chars.length_trimEnd_le hsuffix
  rw [trim_led, List.length_append, List.length_cons]
  exact Nat.lt_of_le_of_lt hlength (by omega)

theorem length_lower_trim (s : String) : (Text.lower (Text.trim s)).toList.length = (Chars.trim s.toList).length := by
  simp [Text.lower, Text.trim]

theorem ofText_led (n : Nat) (value : String) :
    Engine.ofText (led "--server" (n + 1) value) =
      .error (.unknownEngine (Text.lower (Text.trim (led "--server" (n + 1) value)))) := by
  have hdash : (Text.lower (Text.trim (led "--server" (n + 1) value))).toList.head? = some '-' := by
    simp [Text.lower, Text.trim, trim_led]
  have hne : ∀ name : String, name.toList.head? ≠ some '-' →
      (Text.lower (Text.trim (led "--server" (n + 1) value)) == name) = false := by
    intro name hname
    refine beq_eq_false_iff_ne.mpr fun heq => hname ?_
    rw [← heq, hdash]
  have hempty : (Text.lower (Text.trim (led "--server" (n + 1) value))).isEmpty = false := by
    refine eq_false_of_ne_true fun h => ?_
    rw [String.isEmpty_iff.mp h] at hdash
    cases hdash
  simp only [Engine.ofText]
  rw [hne "mysql" (by decide), hne "mariadb" (by decide), hne "postgres" (by decide), hne "postgresql" (by decide),
    hne "pgsql" (by decide), hne "pg" (by decide), hempty]
  rfl

theorem word_of_unknownEngine {s word : String} (h : Engine.ofText s = .error (.unknownEngine word)) :
    word = Text.lower (Text.trim s) := by
  simp only [Engine.ofText] at h
  split at h
  · cases h
  split at h
  · cases h
  split at h
  · cases h
  exact (ConfigFault.unknownEngine.inj (Except.error.inj h)).symm

theorem ofText_led_ne (n : Nat) (value : String) : Engine.ofText (led "--server" (n + 1) value) ≠ Engine.ofText value := by
  intro h
  rw [ofText_led] at h
  have hword := word_of_unknownEngine h.symm
  have hlength := congrArg (fun s => s.toList.length) hword
  simp only [length_lower_trim] at hlength
  exact absurd hlength (Nat.ne_of_gt (length_trim_led n value))

theorem parseServer_led_ne (n : Nat) (value : String) : parseServer (led "--server" (n + 1) value) ≠ parseServer value := by
  intro h
  have hself : led "--server" (n + 1) value ≠ value := fun heq => Nat.succ_ne_zero n (eq_zero_of_led_eq heq)
  unfold parseServer at h
  rw [splitFirst_led (by decide)] at h
  cases hsplit : Chars.splitFirst ':' value.toList with
  | none =>
    rw [hsplit] at h
    exact hself (UsageFault.malformedServer.inj (Except.error.inj h))
  | some split =>
    obtain ⟨before, host⟩ := split
    rw [hsplit] at h
    dsimp only [Option.map_some] at h
    split at h
    · exact hself (UsageFault.malformedServer.inj (Except.error.inj h))
    · rw [String.ofList_toList] at h
      have hengine := ofText_led_ne n (String.ofList before)
      cases hled : Engine.ofText (led "--server" (n + 1) (String.ofList before)) with
      | ok engine =>
        rw [ofText_led] at hled
        cases hled
      | error fault =>
        cases hbare : Engine.ofText (String.ofList before) with
        | ok engine =>
          rw [hled, hbare] at h
          cases h
        | error fault' =>
          rw [hled, hbare] at h
          obtain rfl := UsageFault.badEngine.inj (Except.error.inj h)
          exact hengine (hled.trans hbare.symm)

/-- Some words behind it make the value and the one with leads read differently. -/
theorem parse_led_ne {command option : String} (hoption : option ∈ valueOptions command) (n : Nat) (value : String) :
    ∃ rest, parse (command :: option :: led option (n + 1) value :: rest) ≠ parse (command :: option :: value :: rest) := by
  have hself : led option (n + 1) value ≠ value := fun heq => Nat.succ_ne_zero n (eq_zero_of_led_eq heq)
  rcases mem_valueOptions.mp hoption with ⟨rfl, rfl | rfl⟩ | ⟨rfl, rfl⟩
  · have hread (v : String) : parse ["query", "--config", v, "SELECT 1"] = .ok (.query { config := v, sql := "SELECT 1" }) := rfl
    refine ⟨["SELECT 1"], fun h => hself ?_⟩
    rw [hread, hread] at h
    simpa using h
  · have hread (v : String) : parse ["query", "--server", v, "SELECT 1"] =
        (parseServer v).map fun server => .query { server := some server, sql := "SELECT 1" } := by
      have hserver := parseQuery_server {} [] v ["SELECT 1"]
      rw [show parse ["query", "--server", v, "SELECT 1"] = _ from hserver]
      cases parseServer v <;> rfl
    refine ⟨["SELECT 1"], fun h => parseServer_led_ne n value (map_injective ?_ ((hread _).symm.trans (h.trans (hread _))))⟩
    intro server server' heq
    simpa using heq
  · have hread (v : String) : parse ["ping", "--config", v] = .ok (.ping { config := v }) := rfl
    refine ⟨[], fun h => hself ?_⟩
    rw [hread, hread] at h
    simpa using h

/-- The second spelling of a value means what the first means of the value without its leads, so both mean
the same exactly when it has none. -/
theorem parse_spellings {command option : String} (hoption : option ∈ valueOptions command) (value : String) :
    ∃ n bare, value = led option n bare ∧ ¬Leads option bare ∧
      (∀ front, Place (valueOptions command) front → ∀ rest,
        parse (command :: (front ++ (option ++ "=" ++ value) :: rest)) =
          parse (command :: (front ++ option :: bare :: rest))) ∧
      ((∀ front, Place (valueOptions command) front → ∀ rest,
        parse (command :: (front ++ (option ++ "=" ++ value) :: rest)) =
          parse (command :: (front ++ option :: value :: rest))) ↔ ¬Leads option value) := by
  obtain ⟨n, bare, rfl, hbare⟩ := exists_led option value
  have hinline (front : List String) (hfront : Place (valueOptions command) front) (rest : List String) :=
    parse_led hoption hbare n hfront rest
  refine ⟨n, bare, rfl, hbare, hinline, ?_⟩
  cases n with
  | zero => exact ⟨fun _ => hbare, fun _ => hinline⟩
  | succ n =>
    have hleads : Leads option (led option (n + 1) bare) := ⟨(led option n bare).toList, (toList_led_succ option n bare).symm⟩
    refine ⟨fun hsame => ?_, fun hnot => absurd hleads hnot⟩
    obtain ⟨rest, hne⟩ := parse_led_ne hoption n bare
    exact absurd ((hsame [] .start rest).symm.trans (hinline [] .start rest)) hne

/-- A value with colons and brackets, behind an option whose value is a double dash and behind a word of the SQL. -/
theorem parse_spellings_of_server :
    "--server" ∈ valueOptions "query" ∧
      parse ["query", "--config", "--", "-v", "SELECT", "--server=pg:[::1]", "1"] =
        parse ["query", "--config", "--", "-v", "SELECT", "--server", "pg:[::1]", "1"] := by
  have hoption : "--server" ∈ valueOptions "query" := by decide
  have hfront : Place (valueOptions "query") ["--config", "--", "-v", "SELECT"] :=
    .option (by decide) "--" (.word (by decide) (by decide) (.word (by decide) (by decide) .start))
  have hleads : ¬Leads "--server" "pg:[::1]" := by simp [Leads]
  obtain ⟨n, bare, -, -, -, hsame⟩ := parse_spellings hoption "pg:[::1]"
  exact ⟨hoption, hsame.mpr hleads _ hfront ["1"]⟩

/-- A file whose name begins with the option's lead is another file behind the equals sign. -/
theorem parse_repeated_lead :
    parse ["query", "--config", "--config=x", "SELECT 1"] = .ok (.query { config := "--config=x", sql := "SELECT 1" }) ∧
      parse ["query", "--config=--config=x", "SELECT 1"] = .ok (.query { config := "x", sql := "SELECT 1" }) ∧
      parse ["query", "--config=--config=x", "SELECT 1"] ≠ parse ["query", "--config", "--config=x", "SELECT 1"] := by
  have hread (v : String) : parse ["query", "--config", v, "SELECT 1"] = .ok (.query { config := v, sql := "SELECT 1" }) := rfl
  have hword : "--config=--config=x" = led "--config" 2 "x" := by decide
  have hoption : "--config" ∈ valueOptions "query" := by decide
  have hleads : ¬Leads "--config" "x" := by simp [Leads]
  have hinline := parse_led hoption hleads 1 .start ["SELECT 1"]
  rw [List.nil_append, List.nil_append, hread, ← hword] at hinline
  refine ⟨hread _, hinline, ?_⟩
  rw [hinline, hread]
  simp

end SqlComposer.CommandLine
