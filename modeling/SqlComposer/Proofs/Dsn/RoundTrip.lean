/-
  SqlComposer.Proofs.Dsn.RoundTrip — data source names written as entries and read back.

  A data source name is normal when its server is trimmed and none of its texts is blank.

  Proved: the names that lists of pairs give are the normal ones (`normal_iff_ofPairs`).
  A normal name is written as a text that is read back to the same name, unless one of
  its texts holds `://`: that mark stands in the written text too, which is then taken
  for a URL and, as it has no scheme, refused (`parse_conninfo`).
-/

import SqlComposer.Dsn.Source
import SqlComposer.Proofs.Dsn.Entries
import SqlComposer.Proofs.Dsn.Given
import SqlComposer.Proofs.Dsn.Keys
import SqlComposer.Proofs.Number.Integers

namespace SqlComposer

namespace Dsn

/-! ## Ports -/

theorem readPort_toString (p : UInt16) : readPort (toString p.toNat) = .ok p := by
  have hhighest : (IntegerRange.unsigned 16).highest = 65535 := by decide
  have hhigh : (p.toNat : Int) ≤ (IntegerRange.unsigned 16).highest := by
    have := p.toNat_lt
    omega
  rw [readPort, trim_toString, Integer.read_toString (by decide) hhigh]
  simp

/-- A port is written without quotes. -/
theorem entry_port (p : UInt16) : Conninfo.entry "port" (toString p.toNat) = "port=" ++ toString p.toNat := by
  have hplain : Conninfo.needsQuotes (toString p.toNat).toList = false := by
    refine Conninfo.needsQuotes_eq_false.mpr ⟨toList_toString_ne_nil _, fun c hc => ?_⟩
    have hdigit := isDigit_toString c hc
    exact ⟨isBlank_of_isDigit hdigit, ne_of_isDigit hdigit (by decide), ne_of_isDigit hdigit (by decide)⟩
  rw [Conninfo.entry, Conninfo.value, hplain, if_neg Bool.false_ne_true, String.ofList_toList]
  rfl

/-! ## Normal names -/

structure Normal (d : Dsn) : Prop where
  server_trimmed : Chars.Trimmed d.server.toList
  server : Text.isBlank d.server = false
  database : Text.isBlank d.database = false
  username : Text.isBlank d.username = false
  password : Text.isBlank d.password = false
  options : ∀ o ∈ d.options, Text.isBlank o = false

/-- The pairs a name is written as. -/
def entries (d : Dsn) : List (String × String) :=
  [("host", d.server)] ++ (d.port.map fun p => ("port", toString p.toNat)).toList ++
    [("dbname", d.database), ("user", d.username), ("password", d.password)] ++
    (d.options.map fun o => ("options", o)).toList

/-- The fields those pairs give. -/
def fields (d : Dsn) : List (DsnKey × String) :=
  [(.server, d.server)] ++ (d.port.map fun p => (.port, toString p.toNat)).toList ++
    [(.database, d.database), (.username, d.username), (.password, d.password)] ++
    (d.options.map fun o => (.options, o)).toList

theorem fieldsOf_entries (d : Dsn) : fieldsOf [] d.entries = .ok d.fields := by
  have hhost : DsnKey.ofText "host" = some .server := by decide
  have hport : DsnKey.ofText "port" = some .port := by decide
  have hdbname : DsnKey.ofText "dbname" = some .database := by decide
  have huser : DsnKey.ofText "user" = some .username := by decide
  have hpassword : DsnKey.ofText "password" = some .password := by decide
  have hoptions : DsnKey.ofText "options" = some .options := by decide
  obtain ⟨server, port, database, username, password, options⟩ := d
  cases port <;> cases options <;>
    simp [entries, fields, fieldsOf, value?, hhost, hport, hdbname, huser, hpassword, hoptions]

/-- The text a name has under a key. -/
def value (d : Dsn) : DsnKey → Option String
  | .server => some d.server
  | .database => some d.database
  | .username => some d.username
  | .password => some d.password
  | .port => d.port.map fun p => toString p.toNat
  | .options => d.options

theorem value?_fields (d : Dsn) (k : DsnKey) : value? d.fields k = d.value k := by
  obtain ⟨server, port, database, username, password, options⟩ := d
  cases port <;> cases options <;> cases k <;> rfl

theorem required_fields {d : Dsn} {k : DsnKey} {fault : ConfigFault} {v : String} (hv : d.value k = some v)
    (hblank : Text.isBlank v = false) : required d.fields k fault = .ok v := by
  rw [required, value?_fields, hv]
  simp [hblank]

theorem Normal.trim_server {d : Dsn} (h : d.Normal) : Text.trim d.server = d.server := by
  rw [Text.trim, Chars.trim_of_trimmed h.server_trimmed, String.ofList_toList]

theorem ofFields_fields {d : Dsn} (h : d.Normal) : ofFields d.fields = .ok d := by
  have hserver : Text.trim d.server = d.server := h.trim_server
  have hoptions : d.options.filter (!Text.isBlank ·) = d.options := by
    cases ho : d.options with
    | none => rfl
    | some o => simp [h.options o ho]
  rw [ofFields, required_fields rfl h.database, required_fields rfl h.server, required_fields rfl h.username,
    required_fields rfl h.password, value?_fields, value?_fields]
  obtain ⟨server, port, database, username, password, options⟩ := d
  cases port with
  | none => simp [value, bind, Except.bind, pure, Except.pure, hserver, hoptions]
  | some p =>
    simp only [value, Option.map_some, readPort_toString]
    simp [bind, Except.bind, pure, Except.pure, Except.map, hserver, hoptions]

theorem ofPairs_entries {d : Dsn} (h : d.Normal) : ofPairs d.entries = .ok d := by
  rw [ofPairs, fieldsOf_entries]
  exact ofFields_fields h

/-- Trimming changes nothing about a text being blank. -/
theorem isBlank_trim (s : String) : Text.isBlank (Text.trim s) = Text.isBlank s := by
  rw [Text.isBlank, Text.trim, String.toList_ofList, Chars.trim_of_trimmed (Chars.trimmed_trim _), Text.isBlank]

theorem normal_of_ofFields {fields : List (DsnKey × String)} {d : Dsn} (h : ofFields fields = .ok d) : d.Normal := by
  obtain ⟨server, hserver, htrim, hdatabase, husername, hpassword, -, hoptions⟩ := ofFields_ok h
  exact {
    server_trimmed := by
      rw [htrim, Text.trim, String.toList_ofList]
      exact Chars.trimmed_trim _
    server := by rw [htrim, isBlank_trim, required_ok hserver]
    database := required_ok hdatabase
    username := required_ok husername
    password := required_ok hpassword
    options := by
      intro o ho
      rw [← hoptions] at ho
      have := (Option.filter_eq_some_iff.mp ho).2
      simpa using this }

/-- The names that lists of pairs give are the normal ones. -/
theorem normal_iff_ofPairs (d : Dsn) : d.Normal ↔ ∃ pairs, ofPairs pairs = .ok d := by
  constructor
  · intro h
    exact ⟨d.entries, ofPairs_entries h⟩
  · rintro ⟨pairs, h⟩
    obtain ⟨fields, -, hfields⟩ := ofPairs_ok h
    exact normal_of_ofFields hfields

/-- A name that was read, in one way or another. -/
inductive Parsed (d : Dsn) : Prop
  | text {s : String} (h : parse s = .ok d)
  | url {s : String} (h : ofUrl s = .ok d)
  | pairs {ps : List (String × String)} (h : ofPairs ps = .ok d)

theorem ofPairs_of_ofUrl {s : String} {d : Dsn} (h : ofUrl s = .ok d) : ∃ pairs, ofPairs pairs = .ok d := by
  unfold ofUrl at h
  split at h
  · cases h
  · split at h
    · exact ⟨_, h⟩
    · cases h

theorem ofPairs_of_parse {s : String} {d : Dsn} (h : parse s = .ok d) : ∃ pairs, ofPairs pairs = .ok d := by
  unfold parse at h
  dsimp only at h
  split at h
  · cases h
  · split at h
    · exact ofPairs_of_ofUrl h
    · cases hp : Conninfo.pairs (Text.trim s).toList with
      | error f => rw [hp] at h; cases h
      | ok pairs => rw [hp] at h; exact ⟨pairs, h⟩

theorem Parsed.normal {d : Dsn} (h : d.Parsed) : d.Normal :=
  (normal_iff_ofPairs d).mpr <| match h with
    | .text h => ofPairs_of_parse h
    | .url h => ofPairs_of_ofUrl h
    | .pairs h => ⟨_, h⟩

/-! ## The written text -/

theorem toList_conninfo (d : Dsn) : d.conninfo.toList = Conninfo.spread (Conninfo.spaced d.entries) [] := by
  rw [← Conninfo.toList_join_entries]
  obtain ⟨server, port, database, username, password, options⟩ := d
  cases port <;> cases options <;> simp only [conninfo, entries, Option.map_some, Option.map_none, Option.toList_some,
    Option.toList_none, List.map_append, List.map_cons, List.map_nil, entry_port]

theorem lead_conninfo (d : Dsn) : ∃ rest, d.conninfo.toList = "host=".toList ++ rest := by
  rw [toList_conninfo]
  exact ⟨_, rfl⟩

def keys : List String := ["host", "port", "dbname", "user", "password", "options"]

theorem mem_keys_of_mem_entries {d : Dsn} {p : String × String} (hp : p ∈ d.entries) : p.1 ∈ keys := by
  revert p
  obtain ⟨server, port, database, username, password, options⟩ := d
  cases port <;> cases options <;> simp [entries, keys]

theorem bare_entries (d : Dsn) : ∀ p ∈ d.entries, Conninfo.Bare p.1 := by
  have hbare : ∀ key ∈ keys, Conninfo.Bare key := by simp [keys, Conninfo.Bare, isBlank]
  exact fun p hp => hbare p.1 (mem_keys_of_mem_entries hp)

/-- What in a name is text: all of it but the port. -/
def texts (d : Dsn) : List String := [d.server, d.database, d.username, d.password] ++ d.options.toList

theorem contains_conninfo (d : Dsn) : Text.contains d.conninfo "://" = d.texts.any (Text.contains · "://") := by
  have hmark : Conninfo.Mark "://".toList := ⟨by decide, by simp [isBlank]⟩
  have hkeys : ∀ key ∈ keys, Text.contains key "://" = false := by
    simp [keys, Text.contains, Chars.contains, Chars.stripLead]
  have hport (p : UInt16) : Text.contains (toString p.toNat) "://" = false := by
    have hcolon : ':' ∉ (toString p.toNat).toList := fun h => ne_of_isDigit (isDigit_toString ':' h) (by decide) rfl
    exact Chars.not_contains (by decide) hcolon
  have hentries : Text.contains d.conninfo "://" = d.entries.any fun p =>
      Text.contains p.1 "://" || Text.contains p.2 "://" := by
    rw [Text.contains, toList_conninfo, hmark.contains_spaced d.bare_entries]
    rfl
  rw [hentries]
  obtain ⟨server, port, database, username, password, options⟩ := d
  simp only [keys, List.forall_mem_cons] at hkeys
  cases port <;> cases options <;> simp only [entries, texts, Option.map_some, Option.map_none, Option.toList_some,
    Option.toList_none, List.any_append, List.any_cons, List.any_nil, hkeys, hport, Bool.false_or, Bool.or_false, Bool.or_assoc]

/-- As a URL the written text has no scheme, for it begins with a key. -/
theorem ofUrl_conninfo (d : Dsn) : ofUrl d.conninfo = .error (.badUrl .noBase) := by
  have hhost : Conninfo.Key "host" := ⟨by simp [Conninfo.Bare, isBlank], by decide⟩
  obtain ⟨rest, hrest⟩ := d.lead_conninfo
  have htext : d.conninfo = String.ofList ("host".toList ++ '=' :: rest) := by
    rw [← String.ofList_toList (s := d.conninfo), hrest]
    rfl
  rw [htext, ofUrl_entry hhost]

/-! ## Reading the written text -/

/-- A written name is neither trimmed nor empty, so only the mark of a URL decides how it is read. -/
theorem parse_written (d : Dsn) :
    parse d.conninfo =
      if d.texts.any (Text.contains · "://") then ofUrl d.conninfo else (Conninfo.pairs d.conninfo.toList).bind ofPairs := by
  have htrim : Text.trim d.conninfo = d.conninfo := by
    rw [Text.trim, toList_conninfo, Chars.trim_of_trimmed (Conninfo.trimmed_spaced d.bare_entries), ← toList_conninfo,
      String.ofList_toList]
  have hne : d.conninfo.isEmpty = false := by
    obtain ⟨rest, hrest⟩ := d.lead_conninfo
    rw [String.isEmpty_eq_false_iff]
    intro hempty
    rw [hempty] at hrest
    cases hrest
  simp only [parse, htrim, hne, Bool.false_eq_true, if_false, contains_conninfo]
  rfl

theorem pairs_conninfo (d : Dsn) : Conninfo.pairs d.conninfo.toList = .ok d.entries := by
  rw [toList_conninfo, Conninfo.pairs_spaced d.bare_entries]

/-- A name is read back from the text it is written as, unless one of its texts makes that text a URL. -/
theorem parse_conninfo {pairs : List (String × String)} {d : Dsn} (h : ofPairs pairs = .ok d) :
    parse d.conninfo = if d.texts.any (Text.contains · "://") then .error (.badUrl .noBase) else .ok d := by
  have hnormal : d.Normal := (normal_iff_ofPairs d).mpr ⟨pairs, h⟩
  have hback : (Conninfo.pairs d.conninfo.toList).bind ofPairs = .ok d := by
    rw [pairs_conninfo]
    exact ofPairs_entries hnormal
  rw [parse_written, ofUrl_conninfo, hback]

theorem parse_conninfo_quoted :
    ofPairs [("Server", " db 1 "), ("database", "shop"), ("user", "o'hara"), ("password", "a b\\"), ("port", "5433")] =
        .ok ⟨"db 1", some 5433, "shop", "o'hara", "a b\\", none⟩ ∧
      parse "host='db 1' port=5433 dbname=shop user='o\\'hara' password='a b\\\\'" =
        .ok ⟨"db 1", some 5433, "shop", "o'hara", "a b\\", none⟩ := by
  have h : ofPairs [("Server", " db 1 "), ("database", "shop"), ("user", "o'hara"), ("password", "a b\\"),
      ("port", "5433")] = .ok ⟨"db 1", some 5433, "shop", "o'hara", "a b\\", none⟩ := rfl
  exact ⟨h, (parse_conninfo h).trans (if_neg (by decide))⟩

/-- With the mark of a URL in its password a name is lost. -/
theorem parse_conninfo_marked :
    ∃ d, ofPairs [("host", "db1"), ("dbname", "app"), ("user", "u"), ("password", "a://b")] = .ok d ∧
      d.conninfo = "host=db1 dbname=app user=u password=a://b" ∧ parse d.conninfo = .error (.badUrl .noBase) := by
  refine ⟨⟨"db1", none, "app", "u", "a://b", none⟩, rfl, rfl, ?_⟩
  rw [parse_written, if_pos (by decide), ofUrl_conninfo]

end Dsn

end SqlComposer
