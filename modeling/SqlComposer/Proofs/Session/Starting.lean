/-
  SqlComposer.Proofs.Session.Starting — sessions that begin from valid settings.

  Valid settings name connections with distinct keys whose names fit their engines, and a
  default among them. So only the drivers can refuse to begin.

  Proved:
  (1) what valid settings have passed (`Settings.validate_ok`, `Settings.checkConnections_ok`);
  (2) among registered connections the default one is found and switched to
      (`Registry.prefer_found`);
  (3) a session begins exactly when the drivers accept all connections in order; it then
      has those connections in that order, the default one current, and the engine, the
      prefix and the tracer of the settings; else the fault is the first refusal, and all
      connections are closed, each once (`Session.begins_as_configured`).
-/

import SqlComposer.Proofs.Connection.Accepting
import SqlComposer.Proofs.Dsn.RoundTrip
import SqlComposer.Proofs.Succeeding
import SqlComposer.Session.Settings

namespace SqlComposer

/-! ## Valid settings -/

theorem DsnSource.parsed {source : DsnSource} {d : Dsn} (h : source.dsn = .ok d) : d.Parsed := by
  cases source with
  | text s =>
    rw [DsnSource.dsn] at h
    exact .text h
  | table entries =>
    rw [DsnSource.dsn] at h
    exact .pairs h

namespace Settings

/-- Checked connections have names that fit, and no two of them engine and server in common. -/
theorem checkConnections_ok {seen known : List (Engine × String)} {cs : List ConnectionSettings}
    (h : checkConnections seen cs = .ok known) :
    ∃ pairs : List (Engine × Dsn), (cs.map fun c => (c.engine, c.source.dsn)) = Registry.asked pairs ∧
      (∀ p ∈ pairs, p.2.validate p.1 = .ok () ∧ p.2.Parsed) ∧
      known = seen ++ pairs.map (fun p => (p.1, p.2.server)) ∧ (seen.Nodup → known.Nodup) := by
  induction cs generalizing seen with
  | nil =>
    cases h
    exact ⟨[], rfl, fun _ hp => (by cases hp), (List.append_nil _).symm, id⟩
  | cons c rest ih =>
    rw [checkConnections] at h
    obtain ⟨d, hd, h⟩ := bind_ok h
    obtain ⟨_, hv, h⟩ := bind_ok h
    split at h
    · cases h
    next hnew =>
    obtain ⟨pairs, hpairs, hfit, hknown, hnodup⟩ := ih h
    have hnew : (c.engine, d.server) ∉ seen := by simpa using hnew
    refine ⟨(c.engine, d) :: pairs, ?_, List.forall_mem_cons.mpr ⟨⟨hv, DsnSource.parsed hd⟩, hfit⟩, ?_, ?_⟩
    · rw [List.map_cons, hpairs, hd]
      rfl
    · rw [hknown, List.append_assoc]
      rfl
    · exact fun hn => hnodup ((List.perm_append_singleton _ _).nodup_iff.mpr (List.nodup_cons.mpr ⟨hnew, hn⟩))

theorem validate_ok {s : Settings} (h : s.validate = .ok ()) :
    s.connections ≠ [] ∧ (∃ known, checkConnections [] s.connections = .ok known ∧
      checkPreferred known s.preferred = .ok ()) ∧ ∃ tracer, s.log.tracer = .ok tracer := by
  unfold validate at h
  cases hc : s.connections.isEmpty with
  | true => rw [hc] at h; cases h
  | false =>
    rw [hc] at h
    obtain ⟨known, hknown, h⟩ := bind_ok h
    obtain ⟨_, hpreferred, h⟩ := bind_ok h
    obtain ⟨_, -, h⟩ := bind_ok h
    obtain ⟨tracer, htracer, -⟩ := bind_ok h
    exact ⟨by simpa using hc, ⟨known, hknown, hpreferred⟩, tracer, htracer⟩

/-- The connections that settings ask for have distinct keys, each the engine and the server as they are written, and
names that fit; and a default is one of them. -/
structure Names (s : Settings) (pairs : List (Engine × Dsn)) : Prop where
  wanted : s.wanted = Registry.asked pairs
  nonempty : pairs ≠ []
  valid : ∀ p ∈ pairs, p.2.validate p.1 = .ok ()
  keys : pairs.map Registry.keyOf = pairs.map fun (engine, d) => ⟨engine, d.server⟩
  trimmed : ∀ k ∈ pairs.map Registry.keyOf, ConnectionKey.make k.engine k.server = k
  distinct : (pairs.map Registry.keyOf).Nodup
  preferred : checkPreferred (pairs.map fun p => (p.1, p.2.server)) s.preferred = .ok ()

theorem names_of_validate {s : Settings} (h : s.validate = .ok ()) : ∃ pairs, s.Names pairs := by
  obtain ⟨hne, ⟨known, hknown, hpreferred⟩, _⟩ := validate_ok h
  obtain ⟨pairs, hpairs, hfit, rfl, hnodup⟩ := checkConnections_ok hknown
  rw [List.nil_append] at hpreferred hnodup
  have hkey : ∀ p ∈ pairs, Registry.keyOf p = ⟨p.1, p.2.server⟩ := fun p hp => by
    rw [Registry.keyOf, ConnectionKey.make, (hfit p hp).2.normal.trim_server]
  have hkeys : pairs.map Registry.keyOf = pairs.map (fun (engine, d) => ⟨engine, d.server⟩) := List.map_congr_left hkey
  refine ⟨pairs, hpairs, ?_, fun p hp => (hfit p hp).1, hkeys, ?_, ?_, hpreferred⟩
  · rintro rfl
    exact hne (List.map_eq_nil_iff.mp hpairs)
  · intro k hk
    obtain ⟨p, hp, rfl⟩ := List.mem_map.mp hk
    rw [hkey p hp, ConnectionKey.make, (hfit p hp).2.normal.trim_server]
  · have hinjective : Function.Injective fun known : Engine × String => (⟨known.1, known.2⟩ : ConnectionKey) := by
      rintro ⟨_, _⟩ ⟨_, _⟩ heq
      cases heq
      rfl
    have hmapped := (hnodup List.nodup_nil).map hinjective
    rw [List.map_map] at hmapped
    rwa [hkeys]

/-! ## The default connection -/

/-- The key a session begins with, of those registered in this order. -/
def firstKey (s : Settings) (keys : List ConnectionKey) : Option ConnectionKey :=
  match s.preferred with
  | none => keys.getLast?
  | some ⟨engine, some server⟩ => some ⟨engine, server⟩
  | some ⟨engine, none⟩ => keys.find? (·.engine == engine)

theorem Names.default_found {s : Settings} {pairs : List (Engine × Dsn)} (hn : s.Names pairs) {d : DefaultConnection}
    (hd : s.preferred = some d) :
    ∃ k ∈ pairs.map Registry.keyOf, s.firstKey (pairs.map Registry.keyOf) = some k ∧ k.engine = d.engine ∧
      d.server.or (((pairs.map Registry.keyOf).find? (·.engine == d.engine)).map (·.server)) = some k.server := by
  have hpreferred := hn.preferred
  obtain ⟨engine, server⟩ := d
  rw [hd] at hpreferred
  cases server with
  | some server =>
    simp only [checkPreferred] at hpreferred
    split at hpreferred
    · rename_i hfound
      obtain ⟨p, hp, heq⟩ := List.mem_map.mp (List.contains_iff_mem.mp hfound)
      cases heq
      refine ⟨⟨p.1, p.2.server⟩, ?_, by rw [firstKey, hd], rfl, rfl⟩
      rw [hn.keys]
      exact List.mem_map_of_mem hp
    · cases hpreferred
  | none =>
    simp only [checkPreferred] at hpreferred
    split at hpreferred
    · rename_i hfound
      obtain ⟨known, hknown, hengine⟩ := List.any_eq_true.mp hfound
      obtain ⟨p, hp, rfl⟩ := List.mem_map.mp hknown
      have hsome : ((pairs.map Registry.keyOf).find? (·.engine == engine)).isSome :=
        List.find?_isSome.mpr ⟨Registry.keyOf p, List.mem_map_of_mem hp, hengine⟩
      obtain ⟨k, hk⟩ := Option.isSome_iff_exists.mp hsome
      refine ⟨k, List.mem_of_find?_eq_some hk, by rw [firstKey, hd]; exact hk, ?_, by rw [hk]; rfl⟩
      simpa using List.find?_some hk
    · cases hpreferred

end Settings

namespace Registry

/-- A default that is among the keys is switched to. -/
theorem prefer_found {d : DefaultConnection} {r : Registry} {k : ConnectionKey}
    (hkeys : ∀ k ∈ Entries.keys r.entries, ConnectionKey.make k.engine k.server = k)
    (hk : k ∈ Entries.keys r.entries) (hengine : k.engine = d.engine)
    (hserver : d.server.or (((Entries.keys r.entries).find? (·.engine == d.engine)).map (·.server)) = some k.server) :
    r.prefer d = (.ok (), { { r with defaultEngine := d.engine }.note (.switched k) with current := some k }) := by
  have hpreferred : { r with defaultEngine := d.engine }.preferredServer d = some k.server := by
    rw [← hserver]
    unfold preferredServer
    cases d.server <;> rfl
  have hmake : ConnectionKey.make d.engine k.server = k := hengine ▸ hkeys k hk
  simp only [prefer, hpreferred, switchServer, hmake, Entries.has_iff.mpr hk, if_true]

/-! ## Configuring -/

/-- The registry with the tracer, and with the prefix of the settings if they have one. -/
def equip (s : Settings) (tracer : Tracer) (r : Registry) : Registry :=
  { r with tracer, tableHook := (s.tablePrefix.map fun tablePrefix name => tablePrefix ++ name).or r.tableHook }

theorem configure_eq {s : Settings} {tracer : Tracer} (hv : s.validate = .ok ()) (ht : s.log.tracer = .ok tracer)
    (r : Registry) :
    r.configure s = match (r.equip s tracer).setupMany s.wanted with
      | (.error e, r) => (.error e, r)
      | (.ok (), r) =>
        match s.preferred with
        | some d => r.prefer d
        | none => (.ok (), r) := by
  simp only [configure, hv, ht, equip]
  cases s.tablePrefix <;> rfl

variable {s : Settings} {pairs : List (Engine × Dsn)} {r : Registry} {tracer : Tracer}

theorem Sound.equip (hr : r.Sound) (s : Settings) (tracer : Tracer) : (r.equip s tracer).Sound :=
  ⟨hr.balanced, hr.distinct, hr.current⟩

/-- What is accepted is configured, and the default becomes current without fail. -/
theorem configure_accepted (hr : r.Sound) (hempty : r.entries = []) (hv : s.validate = .ok ())
    (ht : s.log.tracer = .ok tracer) (hn : s.Names pairs) (hdriven : ∀ p ∈ pairs, (r.drivers p.1).isSome)
    (haccept : AcceptAll r.drivers r.journal.attempts pairs) :
    ∃ left, r.configure s = (.ok (), left) ∧ Entries.keys left.entries = pairs.map keyOf ∧
      (∃ k ∈ pairs.map keyOf, left.current = some k ∧ s.firstKey (pairs.map keyOf) = some k) ∧
      left.defaultEngine = (s.preferred.map (·.engine)).getD r.defaultEngine ∧
      left.tableHook = (r.equip s tracer).tableHook ∧ left.tracer = tracer := by
  obtain ⟨left, hm, hkeys, hcurrent, hengine, hhook, htracer⟩ :=
    (hr.equip s tracer).setupMany_accepted hempty ⟨hn.valid, hdriven⟩ hn.distinct haccept
  cases hp : s.preferred with
  | none =>
    have hne : pairs.map keyOf ≠ [] := fun h => hn.nonempty (List.map_eq_nil_iff.mp h)
    refine ⟨left, by simp only [configure_eq hv ht, hn.wanted, hm, hp], hkeys, ?_, hengine, hhook, htracer⟩
    refine ⟨(pairs.map keyOf).getLast hne, List.getLast_mem hne, ?_, ?_⟩
    · rw [hcurrent, List.getLast?_eq_some_getLast hne]
    · rw [Settings.firstKey, hp]
      exact List.getLast?_eq_some_getLast hne
  | some d =>
    obtain ⟨k, hk, hfirst, hkengine, hserver⟩ := hn.default_found hp
    rw [← hkeys] at hk hserver
    have hprefer := prefer_found (hkeys ▸ hn.trimmed) hk hkengine hserver
    refine ⟨{ { left with defaultEngine := d.engine }.note (.switched k) with current := some k }, ?_, hkeys,
      ⟨k, hkeys ▸ hk, rfl, hfirst⟩, rfl, hhook, htracer⟩
    rw [configure_eq hv ht, hn.wanted, hm, hp]
    exact hprefer

/-- What is not accepted fails with the first refusal, on a sound registry. -/
theorem configure_refused (hr : r.Sound) (hv : s.validate = .ok ()) (ht : s.log.tracer = .ok tracer)
    (hn : s.Names pairs) (hdriven : ∀ p ∈ pairs, (r.drivers p.1).isSome)
    (haccept : ¬ AcceptAll r.drivers r.journal.attempts pairs) :
    ∃ e left before engine d rest driver fault, r.configure s = (.error e, left) ∧ left.Sound ∧
      pairs = before ++ (engine, d) :: rest ∧ AcceptAll r.drivers r.journal.attempts before ∧
      r.drivers engine = some driver ∧ driver.refusal (r.journal.attempts + before.length) d = some fault ∧
      e = .connection (.setup engine (Text.trim d.server) (refusalFault fault)) := by
  have hready : Ready (r.equip s tracer).drivers pairs := ⟨hn.valid, hdriven⟩
  have hsound := (hr.equip s tracer).setupMany (asked pairs)
  rcases hm : (r.equip s tracer).setupMany (asked pairs) with ⟨result, left⟩
  rw [hm] at hsound
  cases result with
  | ok _ => exact absurd ((setupMany_ok_iff_accepted hready).mp (by rw [hm])) haccept
  | error e =>
    obtain ⟨before, engine, d, rest, driver, fault, hfacts⟩ := setupMany_refused hready (congrArg Prod.fst hm)
    have hconfigured : r.configure s = (.error e, left) := by simp only [configure_eq hv ht, hn.wanted, hm]
    exact ⟨e, left, before, engine, d, rest, driver, fault, hconfigured, hsound, hfacts⟩

end Registry

/-! ## Beginning -/

/-- Valid settings begin a session exactly when the drivers accept their connections, in order. Then these are the
connections, in this order, the default one is current, or the last one without a default, and engine, prefix and
tracer are those of the settings; else the fault is that of the first refusal, and every connection ever opened is
closed, once. -/
theorem Session.begins_as_configured (drivers : List Driver) (calls : List Registry.Call) (s : Settings)
    (hv : s.validate = .ok ()) (hempty : ((Registry.ofDrivers drivers).after calls).entries = [])
    (hdriven : ∀ c ∈ s.connections, (((Registry.ofDrivers drivers).after calls).drivers c.engine).isSome) :
    let r := (Registry.ofDrivers drivers).after calls
    ∃ pairs : List (Engine × Dsn), s.wanted = pairs.map (fun (engine, d) => (engine, .ok d)) ∧
      ((∃ se, Session.ofSettings s r = .ok se) ↔ Registry.AcceptAll r.drivers r.journal.attempts pairs) ∧
      (∀ se, Session.ofSettings s r = .ok se →
        let keys := Entries.keys se.registry.entries
        keys = pairs.map (fun (engine, d) => ⟨engine, d.server⟩) ∧
        (∃ k ∈ keys, se.registry.current = some k ∧ s.firstKey keys = some k) ∧
        se.registry.defaultEngine = (s.preferred.map (·.engine)).getD r.defaultEngine ∧
        se.registry.tableHook = (s.tablePrefix.map fun tablePrefix name => tablePrefix ++ name).or r.tableHook ∧
        s.log.tracer = .ok se.registry.tracer ∧ se.statement = none) ∧
      ∀ e left, Session.ofSettings s r = .error (e, left) →
        (∃ before engine d rest driver fault, pairs = before ++ (engine, d) :: rest ∧
          Registry.AcceptAll r.drivers r.journal.attempts before ∧ r.drivers engine = some driver ∧
          driver.refusal (r.journal.attempts + before.length) d = some fault ∧
          e = .connection (.setup engine (Text.trim d.server) (Registry.refusalFault fault))) ∧
        left.entries = [] ∧ ∀ h ∈ openings left.journal.events, (closings left.journal.events).count h = 1 := by
  intro r
  have hr : r.Sound := Registry.sound_after drivers calls
  obtain ⟨_, _, tracer, ht⟩ := Settings.validate_ok hv
  obtain ⟨pairs, hn⟩ := Settings.names_of_validate hv
  have hpairs : ∀ p ∈ pairs, (r.drivers p.1).isSome := by
    intro p hp
    have hwanted : (p.1, .ok p.2) ∈ s.wanted := hn.wanted ▸ List.mem_map_of_mem hp
    obtain ⟨c, hc, heq⟩ := List.mem_map.mp hwanted
    have hengine : c.engine = p.1 := congrArg Prod.fst heq
    exact hengine ▸ hdriven c hc
  refine ⟨pairs, hn.wanted, ?_⟩
  by_cases haccept : Registry.AcceptAll r.drivers r.journal.attempts pairs
  · obtain ⟨left, hconfigured, hkeys, ⟨k, hk, hcurrent, hfirst⟩, hengine, hhook, htracer⟩ :=
      Registry.configure_accepted hr hempty hv ht hn hpairs haccept
    have hsession : Session.ofSettings s r = .ok { registry := left } := by rw [ofSettings, hconfigured]
    refine ⟨⟨fun _ => haccept, fun _ => ⟨_, hsession⟩⟩, fun se hse => ?_, fun e left he => ?_⟩
    · cases hsession.symm.trans hse
      refine ⟨hkeys.trans hn.keys, ⟨k, hkeys ▸ hk, hcurrent, hkeys ▸ hfirst⟩, hengine, hhook, htracer ▸ ht, rfl⟩
    · cases hsession.symm.trans he
  · obtain ⟨e, left, before, engine, d, rest, driver, fault, hconfigured, hsound, hfacts⟩ :=
      Registry.configure_refused hr hv ht hn hpairs haccept
    have hsession : Session.ofSettings s r = .error (e, left.retire) := by rw [ofSettings, hconfigured]
    refine ⟨⟨fun ⟨se, hse⟩ => ?_, fun h => absurd h haccept⟩, fun se hse => ?_, fun e' left' he => ?_⟩
    · cases hsession.symm.trans hse
    · cases hsession.symm.trans hse
    · cases hsession.symm.trans he
      exact ⟨⟨before, engine, d, rest, driver, fault, hfacts⟩, hsound.retired⟩

/-- Two servers and a default without a server: the first one of its engine is current, though connected before. -/
theorem Session.begins_as_configured_with_default :
    let connection (server : String) : ConnectionSettings :=
      ⟨.mysql, .text ("host=" ++ server ++ " dbname=app user=u password=p")⟩
    let s : Settings := ⟨[connection "db1", connection "db2"], some ⟨.mysql, none⟩, some "app_", {}⟩
    s.validate = .ok () ∧ ∃ se, Session.ofSettings s (Registry.ofDrivers [.simulated .mysql 0 []]) = .ok se ∧
      Entries.keys se.registry.entries = [⟨.mysql, "db1"⟩, ⟨.mysql, "db2"⟩] ∧
      se.registry.current = some ⟨.mysql, "db1"⟩ := by
  intro connection s
  have keys : (Session.ofSettings s (Registry.ofDrivers [.simulated .mysql 0 []])).toOption.map
      (fun se => Entries.keys se.registry.entries) = some [⟨.mysql, "db1"⟩, ⟨.mysql, "db2"⟩] := by
    decide +kernel +revert
  have valid : s.validate = .ok () := rfl
  refine ⟨valid, ?_⟩
  cases session : Session.ofSettings s (Registry.ofDrivers [.simulated .mysql 0 []]) with
  | error e => rw [session] at keys; cases keys
  | ok se =>
    rw [session] at keys
    have keys : Entries.keys se.registry.entries = [⟨.mysql, "db1"⟩, ⟨.mysql, "db2"⟩] := Option.some.inj keys
    have driven : ∀ c ∈ s.connections, ((Registry.ofDrivers [.simulated .mysql 0 []]).drivers c.engine).isSome := by
      simp [s, connection, Registry.ofDrivers, Registry.register, Driver.simulated]
    obtain ⟨_, _, _, started, _⟩ := begins_as_configured [.simulated .mysql 0 []] [] s valid rfl driven
    obtain ⟨_, ⟨k, _, current, first⟩, _⟩ := started se session
    rw [keys] at first
    cases first
    exact ⟨se, rfl, keys, current⟩

end SqlComposer
