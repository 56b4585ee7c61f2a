/-
  SqlComposer.Proofs.Settings.Expanding — references to variables inside configured texts.

  A value takes the place of its reference before the text is read as anything, so what
  the value holds is read with the text around it.

  Proved: a data source name whose password is a reference is read with the value as its
  password, and with all else as it is written, exactly when the value is a word that no
  quote opens (`Settings.read_password`).
-/

import SqlComposer.Proofs.Dsn.Lines
import SqlComposer.Proofs.Session.Starting
import SqlComposer.Proofs.Settings.References
import SqlComposer.Settings.Document

namespace SqlComposer

/-! ## Expanded settings -/

namespace Settings

def expandConnection (env : Environment) (c : ConnectionSettings) : Except ConfigFault ConnectionSettings := do
  return { c with source := ← c.source.expand env }

theorem connections_of_expand {env : Environment} {raw settings : Settings} (h : raw.expand env = .ok settings) :
    raw.connections.mapM (expandConnection env) = .ok settings.connections := by
  obtain ⟨connections, hconnections, h⟩ := bind_ok h
  obtain ⟨tablePrefix, -, h⟩ := bind_ok h
  cases hd : raw.preferred with
  | none =>
    rw [hd] at h
    obtain rfl := Except.ok.inj h
    exact hconnections
  | some d =>
    rw [hd] at h
    obtain ⟨server, -, h⟩ := bind_ok h
    obtain rfl := Except.ok.inj h
    exact hconnections

theorem read_eq {document : String} {raw : Settings} (hraw : (Toml.parse document).bind ofMembers = some raw)
    (env : Environment) : read env document = (do
      let settings ← raw.expand env
      settings.validate
      return settings) := by
  simp only [read, hraw]

theorem read_ok {env : Environment} {document : String} {raw settings : Settings}
    (hraw : (Toml.parse document).bind ofMembers = some raw) (h : read env document = .ok settings) :
    raw.expand env = .ok settings ∧ settings.validate = .ok () := by
  rw [read_eq hraw] at h
  obtain ⟨expanded, hexpand, h⟩ := bind_ok h
  obtain ⟨_, hvalid, h⟩ := bind_ok h
  obtain rfl := Except.ok.inj h
  exact ⟨hexpand, hvalid⟩

/-- The names of valid settings are all readable. -/
theorem dsn_of_validate {s : Settings} (h : s.validate = .ok ()) {i : Nat} {c : ConnectionSettings}
    (hc : s.connections[i]? = some c) : ∃ d, c.source.dsn = .ok d := by
  obtain ⟨-, ⟨known, hknown, -⟩, -⟩ := validate_ok h
  obtain ⟨pairs, hpairs, -⟩ := checkConnections_ok hknown
  have hread : (c.engine, c.source.dsn) ∈ Registry.asked pairs := by
    rw [← hpairs]
    exact List.mem_map_of_mem (List.mem_of_getElem? hc)
  obtain ⟨p, -, hp⟩ := List.mem_map.mp hread
  exact ⟨p.2, (Prod.mk.inj hp).2.symm⟩

/-! ## Passwords from variables -/

/-- A line whose last entry is `password` with a reference to a variable as its value, all before it literal. -/
inductive PasswordLine (entries : List (String × String)) (name : String) : String → Prop
  | line {front gap : List Char} (hfront : Conninfo.Front front entries)
      (hliteral : Chars.contains ['$', '\x7b'] front = false) (hname : '\x7d' ∉ name.toList) (hgap : Conninfo.Gap gap) :
      PasswordLine entries name
        (String.ofList (front ++ ("password".toList ++ '=' :: '$' :: '\x7b' :: (name.toList ++ '\x7d' :: gap))))

/-- A line in a document with one connection. -/
def sampleLine : String := "host=db1 dbname=app user=app password=$\x7bAPP_DB_PASSWORD\x7d"

def sampleDocument : String := "[[connections]]\nengine = \"mysql\"\ndsn = \"" ++ sampleLine ++ "\"\n"

theorem passwordLine_sample :
    PasswordLine [("host", "db1"), ("dbname", "app"), ("user", "app")] "APP_DB_PASSWORD" sampleLine := by
  have hhost : Conninfo.Key "host" := ⟨by simp [Conninfo.Bare, isBlank], by decide⟩
  have hdbname : Conninfo.Key "dbname" := ⟨by simp [Conninfo.Bare, isBlank], by decide⟩
  have huser : Conninfo.Key "user" := ⟨by simp [Conninfo.Bare, isBlank], by decide⟩
  have hdb : Conninfo.Word "db1".toList := ⟨by simp [isBlank], by simp⟩
  have happ : Conninfo.Word "app".toList := ⟨by simp [isBlank], by simp⟩
  have hfront := (((Conninfo.Front.done Conninfo.gap_nil).word huser happ).word hdbname happ).word hhost hdb
  exact .line hfront (by decide) (by decide) Conninfo.gap_nil

theorem parse_sample :
    (Toml.parse sampleDocument).bind ofMembers = some ⟨[⟨.mysql, .text sampleLine⟩], none, none, {}⟩ := by
  decide +kernel +revert

/-- In the line the value of the variable stands in the place of the reference. -/
theorem PasswordLine.expand_ok {entries : List (String × String)} {name text : String} (h : PasswordLine entries name text)
    {env : Environment} {v s : String} (hv : env name = some v) (hs : env.expand text = .ok s) :
    ∃ front gap, Conninfo.Front front entries ∧ Conninfo.Gap gap ∧
      s = String.ofList (front ++ ("password".toList ++ '=' :: (v.toList ++ gap))) := by
  obtain @⟨front, gap, hfront, hliteral, hname, hgap⟩ := h
  have hlit : Environment.Literal (front ++ "password=".toList) := {
    without := by
      have hp : 'p' ∉ ['$', '\x7b'] := by decide
      have hsplit := Chars.contains_append_cons (List.cons_ne_nil _ _) hp front "assword=".toList
      have hrest : Chars.contains ['$', '\x7b'] "assword=".toList = false := by decide
      rw [hliteral, hrest] at hsplit
      exact hsplit
    closed := by simp [List.getLast?_append] }
  have htail : Environment.Literal gap := by
    have hdollar : '$' ∉ gap := fun hmem => absurd (hgap '$' hmem) (by decide)
    exact ⟨Chars.not_contains List.mem_cons_self hdollar, fun hlast => hdollar (List.mem_of_mem_getLast? hlast)⟩
  have hexpand : env.expand _ = _ := Environment.expand_reference hlit htail hname
  rw [List.append_assoc] at hexpand
  obtain ⟨w, hw, rfl⟩ := map_ok (hexpand.symm.trans hs)
  obtain rfl := Environment.value_ok hv hw
  exact ⟨front, gap, hfront, hgap, by rw [List.append_assoc]; rfl⟩

/-- A data source name whose password comes from a variable is the written one with the variable's value as its
password, exactly when that value is a word. -/
theorem read_password {env : Environment} {document : String} {raw settings : Settings} {i : Nat} {engine : Engine}
    {text : String} {entries : List (String × String)} {name v : String}
    (hraw : (Toml.parse document).bind ofMembers = some raw) (h : read env document = .ok settings)
    (hconnection : raw.connections[i]? = some ⟨engine, .text text⟩) (hline : PasswordLine entries name text)
    (hv : env name = some v) :
    ∃ source d, settings.connections[i]? = some ⟨engine, source⟩ ∧ source.dsn = .ok d ∧
      (d.password = v ↔ Conninfo.Word v.toList) ∧
      (Conninfo.Word v.toList → Dsn.Gives (entries ++ [("password", v)]) d) := by
  obtain ⟨hexpand, hvalid⟩ := read_ok hraw h
  obtain ⟨c, hc, hconnection⟩ := getElem?_of_mapM (connections_of_expand hexpand) hconnection
  obtain ⟨source, hsource, hconnection⟩ := bind_ok hconnection
  obtain rfl := Except.ok.inj hconnection
  obtain ⟨s, hs, rfl⟩ := map_ok hsource
  obtain ⟨d, hd⟩ := dsn_of_validate hvalid hc
  have hparse : Dsn.parse s = .ok d := hd
  obtain ⟨front, gap, hfront, hgap, htext⟩ := hline.expand_ok hv hs
  rw [htext] at hparse
  obtain ⟨hpassword, hwhole⟩ := Dsn.parse_line hfront hgap hparse
  rw [String.ofList_toList] at hpassword hwhole
  exact ⟨.text s, d, hc, hd, hpassword, fun hword => Dsn.gives_of_ofPairs (hwhole hword)⟩

/-- A value that is a word is the password, whatever its characters mean elsewhere. -/
theorem read_password_of_word :
    ∃ settings source d,
      read (fun _ => some "s3=cr'et") sampleDocument = .ok settings ∧
      settings.connections[0]? = some ⟨.mysql, source⟩ ∧ source.dsn = .ok d ∧ d.password = "s3=cr'et" ∧
      Dsn.Gives [("host", "db1"), ("dbname", "app"), ("user", "app"), ("password", "s3=cr'et")] d := by
  have hword : Conninfo.Word "s3=cr'et".toList := ⟨by simp [isBlank], by simp⟩
  have hread : read (fun _ => some "s3=cr'et") sampleDocument =
      .ok ⟨[⟨.mysql, .text "host=db1 dbname=app user=app password=s3=cr'et"⟩], none, none, {}⟩ :=
    (read_eq parse_sample _).trans rfl
  have hfirst {c : ConnectionSettings} : ([c] : List ConnectionSettings)[0]? = some c := rfl
  obtain ⟨source, d, hsource, hd, hpassword, hgives⟩ := read_password parse_sample hread hfirst passwordLine_sample rfl
  exact ⟨_, source, d, hread, hsource, hd, hpassword.mpr hword, hgives hword⟩

/-- A value of two words is cut at the blank, and what stands behind it is an entry of its own. -/
theorem read_password_of_two_words :
    PasswordLine [("host", "db1"), ("dbname", "app"), ("user", "app")] "APP_DB_PASSWORD" sampleLine ∧
      (Toml.parse sampleDocument).bind ofMembers = some ⟨[⟨.mysql, .text sampleLine⟩], none, none, {}⟩ ∧
      ∃ source,
        read (fun _ => some "s3cret port=3307") sampleDocument = .ok ⟨[⟨.mysql, source⟩], none, none, {}⟩ ∧
        source.dsn = .ok ⟨"db1", some 3307, "app", "app", "s3cret", none⟩ := by
  have hread : read (fun _ => some "s3cret port=3307") sampleDocument =
      .ok ⟨[⟨.mysql, .text "host=db1 dbname=app user=app password=s3cret port=3307"⟩], none, none, {}⟩ :=
    (read_eq parse_sample _).trans rfl
  exact ⟨passwordLine_sample, parse_sample, .text _, hread, rfl⟩

end Settings

end SqlComposer
