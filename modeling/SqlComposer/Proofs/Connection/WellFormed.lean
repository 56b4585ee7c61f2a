/-
  SqlComposer.Proofs.Connection.WellFormed — what the entries of a registry in use are.

  The names that connections are opened with come from the parsers, so a server's name
  is trimmed and a key shows it as it is. A registry is well formed when its drivers
  are registered for their own engines and each entry was opened by such a driver under
  its own key, with a name that the engine takes.

  Proved:
  (1) every call with parsed names leaves a well-formed registry well formed
      (`WellFormed.apply`), so every registry in use is (`wellFormed_after`);
  (2) with a current connection a statement runs once, on the handle of the one entry
      under the current key, and without one it runs nowhere (`run_current`,
      `run_without_current`);
  (3) so whatever calls were made (`statements_run_on_current`).
-/

import SqlComposer.Proofs.Connection.Runs
import SqlComposer.Proofs.Dsn.RoundTrip

namespace SqlComposer

/-! ## Entries -/

/-- An entry as a driver for its engine left it: the key says engine and server, and the engine takes the name. -/
structure Entry.WellFormed (e : Entry) : Prop where
  key : e.key = ⟨e.handle.engine, e.dsn.server⟩
  server : e.handle.server = e.dsn.server
  valid : e.dsn.validate e.handle.engine = .ok ()

namespace Registry

/-! ## Calls with parsed names -/

/-- All names that a call gives came from a parser. -/
def Call.Parsed : Call → Prop
  | .connect _ dsn => ∀ d, dsn = .ok d → d.Parsed
  | .setupMany wanted => ∀ pair ∈ wanted, ∀ d, pair.2 = .ok d → d.Parsed
  | _ => True

structure WellFormed (r : Registry) : Prop where
  drivers : ∀ engine driver, r.drivers engine = some driver → driver.engine = engine
  entries : ∀ e ∈ r.entries, e.WellFormed

theorem wellFormed_empty : empty.WellFormed where
  drivers _ _ h := by cases h
  entries _ h := by cases h

namespace WellFormed

variable {r : Registry} (hr : r.WellFormed)

include hr

theorem register (driver : Driver) : (r.register driver).WellFormed where
  drivers engine found h := by
    simp only [Registry.register] at h
    split at h
    · rename_i he
      cases h
      exact (beq_iff_eq.mp he).symm
    · exact hr.drivers engine found h
  entries := hr.entries

theorem entryOf {engine : Engine} {d : Dsn} {driver : Driver} (number : Nat) (hp : d.Parsed)
    (hv : d.validate engine = .ok ()) (hd : r.drivers engine = some driver) :
    (Registry.entryOf driver engine d number).WellFormed := by
  have hengine : driver.engine = engine := hr.drivers engine driver hd
  have hserver : Text.trim d.server = d.server := hp.normal.trim_server
  subst hengine
  exact ⟨by rw [Registry.entryOf, ConnectionKey.make, hserver]; rfl, rfl, hv⟩

theorem adopt {e : Entry} (he : e.WellFormed) : (r.adopt e).WellFormed where
  drivers := hr.drivers
  entries x hx := by
    rcases Entries.mem_of_mem_put hx with rfl | hx
    · exact he
    · exact hr.entries x hx

/-! ### Connecting -/

theorem connect (engine : Engine) {dsn : Except ConfigFault Dsn} (hp : ∀ d, dsn = .ok d → d.Parsed) :
    (r.connect engine dsn).2.WellFormed := by
  cases dsn with
  | error f => exact hr
  | ok d =>
    rcases install_cases engine d r with ⟨driver, hv, hd, hacc⟩ | ⟨e, n, _, hi⟩
    · have hadopted := hr.adopt (hr.entryOf r.journal.attempts (hp d rfl) hv hd)
      simp only [Registry.connect, install_accepted hv hd hacc, installed, closeReplaced_eq]
      exact ⟨hadopted.drivers, hadopted.entries⟩
    · simp only [Registry.connect, hi]
      exact ⟨hr.drivers, hr.entries⟩

theorem setup (engine dsn : String) : (r.setup engine dsn).2.WellFormed := by
  unfold Registry.setup
  split
  · exact hr
  · split
    · exact hr
    · exact hr.connect _ fun _ h => .text h

theorem installAll {wanted : List (Engine × Except ConfigFault Dsn)}
    (hp : ∀ pair ∈ wanted, ∀ d, pair.2 = .ok d → d.Parsed) (opened : List Installed) :
    (Registry.installAll opened wanted r).2.2.WellFormed := by
  induction wanted generalizing opened r with
  | nil => exact hr
  | cons pair rest ih =>
    obtain ⟨hpair, hrest⟩ := List.forall_mem_cons.mp hp
    obtain ⟨engine, dsn⟩ := pair
    cases dsn with
    | error f => exact hr
    | ok d =>
      rcases install_cases engine d r with ⟨driver, hv, hd, hacc⟩ | ⟨e, n, _, hi⟩
      · simp only [Registry.installAll, install_accepted hv hd hacc]
        exact ih (hr.adopt (hr.entryOf _ (hpair d rfl) hv hd)) hrest _
      · simp only [Registry.installAll, hi]
        exact ⟨hr.drivers, hr.entries⟩

theorem setupMany (hs : r.Sound) {wanted : List (Engine × Except ConfigFault Dsn)}
    (hp : ∀ pair ∈ wanted, ∀ d, pair.2 = .ok d → d.Parsed) : (r.setupMany wanted).2.WellFormed := by
  rcases setupMany_cases wanted hs.balanced hs.current with ⟨e, j, _, h, _, _⟩ | ⟨opened, top, hi, _, h⟩
  · rw [h]
    exact ⟨hr.drivers, hr.entries⟩
  · have htop := hr.installAll hp []
    rw [hi] at htop
    rw [h]
    exact ⟨htop.drivers, htop.entries⟩

/-! ### All other calls -/

theorem switchServer (engine : Engine) (server : String) : (r.switchServer engine server).2.WellFormed := by
  unfold Registry.switchServer
  dsimp only
  split
  · exact ⟨hr.drivers, hr.entries⟩
  · exact hr

theorem disconnect (engine : Engine) (server : String) : (r.disconnect engine server).2.WellFormed := by
  cases ht : Entries.take (.make engine server) r.entries with
  | none => simpa only [Registry.disconnect, ht] using hr
  | some taken =>
    obtain ⟨e, entries⟩ := taken
    rw [disconnect_registered ht]
    exact ⟨hr.drivers, fun x hx => hr.entries x (Entries.mem_of_mem_take ht hx)⟩

theorem closeAll : r.closeAll.2.WellFormed := by
  rw [closeAll_eq]
  exact ⟨hr.drivers, fun _ h => by cases h⟩

theorem run (kind : RunKind) (sql : String) : (r.run kind sql).2.WellFormed := by
  unfold Registry.run
  split
  · exact hr
  · exact ⟨hr.drivers, hr.entries⟩

theorem apply (hs : r.Sound) {c : Call} (hc : c.Parsed) : (r.apply c).WellFormed := by
  cases c with
  | register driver => exact hr.register driver
  | setDefaultEngine engine => exact ⟨hr.drivers, hr.entries⟩
  | setTableHook hook => exact ⟨hr.drivers, hr.entries⟩
  | setTracer tracer => exact ⟨hr.drivers, hr.entries⟩
  | script site reply => exact ⟨hr.drivers, hr.entries⟩
  | setup engine dsn => exact hr.setup engine dsn
  | connect engine dsn => exact hr.connect engine hc
  | setupMany wanted => exact hr.setupMany hs hc
  | switchServer engine server => exact hr.switchServer engine server
  | disconnect engine server => exact hr.disconnect engine server
  | closeAll => exact hr.closeAll
  | execute sql => exact hr.run .execute sql
  | query sql => exact hr.run .query sql

end WellFormed

theorem wellFormed_ofDrivers (drivers : List Driver) : (ofDrivers drivers).WellFormed :=
  List.foldlRecOn drivers _ wellFormed_empty fun _ hr driver _ => hr.register driver

/-- Every registry in use is well formed. -/
theorem wellFormed_after (drivers : List Driver) {calls : List Call} (hc : ∀ c ∈ calls, c.Parsed) :
    ((ofDrivers drivers).after calls).WellFormed := by
  have key : ∀ r : Registry, r.Sound → r.WellFormed → (r.after calls).WellFormed := by
    induction calls with
    | nil => exact fun r _ hr => hr
    | cons c rest ih =>
      obtain ⟨hc, hrest⟩ := List.forall_mem_cons.mp hc
      exact fun r hs hr => ih hrest _ (hs.apply c) (hr.apply hs hc)
  exact key _ (sound_ofDrivers drivers) (wellFormed_ofDrivers drivers)

/-! ## Statements on the current connection -/

variable {r : Registry} {k : ConnectionKey} {e : Entry}

theorem run_without_current (hc : r.current = none) (kind : RunKind) (sql : String) :
    r.run kind sql = (.error (.connection .noCurrent), r) := by
  simp only [run, currentEntry, hc]

/-- A journal's reply to a statement is an outcome, none, or a failure of the execution. -/
theorem journal_run (h : Handle) (sql : String) (j : Journal) :
    (j.run h sql).2.events = j.events ++ [.ran h sql] ∧
      ∀ fault, (j.run h sql).1 = .error fault → ∃ text, fault = .execution text := by
  unfold Journal.run
  dsimp only
  split
  · exact ⟨rfl, fun _ h => by cases h⟩
  · exact ⟨rfl, fun _ h => by cases h⟩
  · exact ⟨rfl, fun _ h => by cases h; exact ⟨_, rfl⟩⟩

/-- With a current entry a statement is noticed and run there, and fails only where it is executed. -/
theorem run_current (hc : r.current = some k) (he : Entries.find? k r.entries = some e) (kind : RunKind) (sql : String) :
    (r.run kind sql).2.journal.events = r.journal.events ++
        [.noticed (.statement r.tracer.level k kind (r.tracer.shorten sql)), .ran e.handle sql] ∧
      ∀ fault, (r.run kind sql).1 = .error fault → ∃ text, fault = .execution text := by
  have hentry : r.currentEntry = .ok e := by simp only [currentEntry, hc, he]
  have hkey : e.key = k := (Entries.mem_of_find? he).2
  obtain ⟨hevents, hfault⟩ :=
    journal_run e.handle sql (r.note (.statement r.tracer.level e.key kind (r.tracer.shorten sql))).journal
  simp only [run, hentry]
  refine ⟨?_, hfault⟩
  rw [hevents, hkey]
  simp [note, Journal.notice, Journal.record, List.append_assoc]

/-- Whatever was done with parsed names, the keys of the entries are distinct, each shows the engine and the server of
an open connection whose name the engine takes, and the current key is that of one entry. A statement runs once, on the
connection of that entry, and fails only by what it was answered; without a current key it runs nowhere. -/
theorem statements_run_on_current (drivers : List Driver) {calls : List Call} (hc : ∀ c ∈ calls, c.Parsed) :
    let r := (ofDrivers drivers).after calls
    ((Entries.keys r.entries).Nodup ∧
      (∀ e ∈ r.entries, e.key = ⟨e.handle.engine, e.dsn.server⟩ ∧ e.dsn.validate e.handle.engine = .ok () ∧
        IsOpen e.handle r.journal.events) ∧
      ∀ k, r.current = some k → ∃! e, e ∈ r.entries ∧ e.key = k) ∧
    (r.current = none → ∀ sql, r.execute sql = (.error (.connection .noCurrent), r) ∧
      r.query sql = (.error (.connection .noCurrent), r)) ∧
    ∀ k e, r.current = some k → e ∈ r.entries → e.key = k → ∀ sql,
      ((r.execute sql).2.journal.events = r.journal.events ++
          [.noticed (.statement r.tracer.level k .execute (r.tracer.shorten sql)), .ran e.handle sql] ∧
        ∀ fault, (r.execute sql).1 = .error fault → ∃ text, fault = .execution text) ∧
      (r.query sql).2.journal.events = r.journal.events ++
          [.noticed (.statement r.tracer.level k .query (r.tracer.shorten sql)), .ran e.handle sql] ∧
        ∀ fault, (r.query sql).1 = .error fault → ∃ text, fault = .execution text := by
  intro r
  have hs : r.Sound := sound_after drivers calls
  have hr : r.WellFormed := wellFormed_after drivers hc
  refine ⟨⟨hs.distinct, fun e he => ?_, fun k hk => ?_⟩, fun hnone sql => ?_, fun k e hk he hkey sql => ?_⟩
  · exact ⟨(hr.entries e he).key, (hr.entries e he).valid, hs.balanced.isOpen (List.mem_map_of_mem he)⟩
  · obtain ⟨e, _, he, hkey, hone⟩ := Entries.find?_unique hs.distinct (hs.current k hk)
    exact ⟨e, ⟨he, hkey⟩, fun e' he' => hone e' he'.1 he'.2⟩
  · simp only [execute, query, run_without_current hnone]
    exact ⟨rfl, rfl⟩
  · obtain ⟨found, hfind, _, _, hone⟩ := Entries.find?_unique hs.distinct (hs.current k hk)
    cases hone e he hkey
    have hrun := run_current hk hfind
    have mapped {α : Type} (f : Option Outcome → α) (kind : RunKind) (fault : Error)
        (h : (r.run kind sql).1.map f = .error fault) : ∃ text, fault = .execution text := by
      refine (hrun kind sql).2 fault ?_
      cases hresult : (r.run kind sql).1 with
      | ok o => rw [hresult] at h; cases h
      | error cause => rw [hresult] at h; cases h; rfl
    exact ⟨⟨(hrun .execute sql).1, mapped _ .execute⟩, (hrun .query sql).1, mapped _ .query⟩

/-- A query after a connection to a named server runs there. -/
theorem statements_run_on_current_of_connect :
    let calls := [Call.connect .mysql (Dsn.parse "host=db1 dbname=app user=u password=p")]
    let r := (ofDrivers [.simulated .mysql 0 []]).after calls
    (∀ c ∈ calls, c.Parsed) ∧ r.current = some ⟨.mysql, "db1"⟩ ∧
      ∃ e ∈ r.entries, (r.query "SELECT 1").2.journal.events = r.journal.events ++
        [.noticed (.statement r.tracer.level ⟨.mysql, "db1"⟩ .query (r.tracer.shorten "SELECT 1")),
          .ran e.handle "SELECT 1"] := by
  intro calls r
  have current : r.current = some ⟨.mysql, "db1"⟩ := by decide +kernel +revert
  have parsed : ∀ c ∈ calls, c.Parsed := by
    intro c hc
    cases List.mem_singleton.mp hc
    exact fun d h => .text h
  obtain ⟨⟨_, _, one⟩, _, runs⟩ := statements_run_on_current [.simulated .mysql 0 []] parsed
  obtain ⟨e, ⟨he, hkey⟩, _⟩ := one _ current
  exact ⟨parsed, current, e, he, (runs _ e current he hkey "SELECT 1").2.1⟩

end Registry

end SqlComposer
