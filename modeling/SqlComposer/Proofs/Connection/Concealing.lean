/-
  SqlComposer.Proofs.Connection.Concealing — passwords that nobody gets to see.

  Two runs make the same calls, but the names that they connect with differ in their
  passwords; the drivers are blind to passwords. A masked registry is the registry with
  the names of its entries masked. What can be seen of a call is its answer, and of the
  registry it leaves the journal (all that the drivers saw, and all notices) and the
  description, in whatever order it lists the drivers.

  Proved:
  (1) every operation does the same to a registry and to the masked one
      (`install_masked`, `setupMany_masked`, `closeAll_masked`, ...), so a call is
      answered from the masked registry (`answer_masked`) and leaves there what it
      leaves, masked (`apply_masked`);
  (2) so runs that differ in passwords look the same, call by call
      (`passwords_unobservable`).
-/

import SqlComposer.Proofs.Connection.Runs
import SqlComposer.Proofs.Dsn.Passwords

namespace SqlComposer

/-- The driver takes no password into account. -/
def Driver.Blind (driver : Driver) : Prop :=
  ∀ number (d : Dsn) password, driver.refusal number { d with password } = driver.refusal number d

theorem Driver.blind_simulated (engine : Engine) (site : Nat) (refused : List String) :
    (simulated engine site refused).Blind := fun _ _ _ => rfl

theorem Driver.Blind.connect_masked {driver : Driver} (h : driver.Blind) (number : Nat) (d : Dsn) :
    driver.connect number d.masked = driver.connect number d := by
  rw [Driver.connect, Driver.connect, Dsn.masked, h]
  rfl

def Entry.masked (e : Entry) : Entry := { e with dsn := e.dsn.masked }

@[simp] theorem Entry.key_masked (e : Entry) : e.masked.key = e.key := rfl

@[simp] theorem Entry.masked_masked (e : Entry) : e.masked.masked = e.masked := rfl

/-! ## Entries -/

namespace Entries

def masked (es : Entries) : Entries := es.map Entry.masked

variable (key : ConnectionKey) (new : Entry) (es : Entries)

theorem masked_cons (e : Entry) : masked (e :: es) = e.masked :: masked es := rfl

@[simp] theorem masked_masked : masked (masked es) = masked es := by
  simp [masked, List.map_map, Function.comp_def]

theorem keys_masked : keys (masked es) = keys es := by
  simp [keys, masked, List.map_map, Function.comp_def]

theorem find?_masked : find? key (masked es) = (find? key es).map Entry.masked := by
  simp [find?, masked, List.find?_map, Function.comp_def]

theorem has_masked : has key (masked es) = has key es := by
  rw [has, has, find?_masked, Option.isSome_map]

theorem exchange_masked :
    exchange new.masked (masked es) = (exchange new es).map fun (old, es) => (old.masked, masked es) := by
  induction es with
  | nil => rfl
  | cons e es ih =>
    rw [masked_cons, exchange, exchange, Entry.key_masked, Entry.key_masked]
    split
    · rfl
    · rw [ih, Option.map_map, Option.map_map]
      rfl

theorem take_masked : take key (masked es) = (take key es).map fun (old, es) => (old.masked, masked es) := by
  induction es with
  | nil => rfl
  | cons e es ih =>
    rw [masked_cons, take, take, Entry.key_masked]
    split
    · rfl
    · rw [ih, Option.map_map, Option.map_map]
      rfl

theorem put_masked : put new.masked (masked es) = ((put new es).1.map Entry.masked, masked (put new es).2) := by
  rw [put, put, exchange_masked]
  cases exchange new es with
  | none => simp [masked]
  | some exchanged => rfl

end Entries

namespace Registry

/-! ## Registries under a mask -/

/-- The registry with all passwords masked. -/
def masked (r : Registry) : Registry := { r with entries := Entries.masked r.entries }

/-- What an opened connection replaced, masked. -/
def maskInstalled (i : Installed) : Installed := (i.1, i.2.map Entry.masked)

/-- A result as it is, with the registry masked. -/
def conceal {α : Type} (x : α × Registry) : α × Registry := (x.1, x.2.masked)

/-- All drivers are blind to passwords. -/
def Blind (r : Registry) : Prop := ∀ engine driver, r.drivers engine = some driver → driver.Blind

@[simp] theorem masked_masked (r : Registry) : r.masked.masked = r.masked := by
  rw [masked, masked, Entries.masked_masked]

section Fields

variable (r : Registry)

@[simp] theorem entries_masked : r.masked.entries = Entries.masked r.entries := rfl
@[simp] theorem drivers_masked : r.masked.drivers = r.drivers := rfl
@[simp] theorem current_masked : r.masked.current = r.current := rfl
@[simp] theorem journal_masked : r.masked.journal = r.journal := rfl

end Fields

/-- A description shows no more of the entries than their keys. -/
theorem inspect_congr {r r' : Registry} (hkeys : Entries.keys r.entries = Entries.keys r'.entries)
    (hdrivers : r.drivers = r'.drivers) (hcurrent : r.current = r'.current)
    (hengine : r.defaultEngine = r'.defaultEngine) (hhook : r.tableHook = r'.tableHook) (order : List Engine) :
    r.inspect order = r'.inspect order := by
  have hshown (es : Entries) : es.map (·.key.inspect) = (Entries.keys es).map (·.inspect) := by simp [Entries.keys]
  unfold inspect
  rw [hshown, hshown, hkeys, hdrivers, hcurrent, hengine, hhook]

theorem inspect_masked (r : Registry) (order : List Engine) : r.masked.inspect order = r.inspect order := by
  apply inspect_congr
  · exact Entries.keys_masked r.entries
  all_goals rfl

variable {r : Registry}

/-! ## Closing -/

theorem farewell_masked (occasion : CloseOccasion) (key : ConnectionKey) (e : Entry) :
    e.masked.farewell occasion key = e.farewell occasion key := rfl

theorem replacement_maskInstalled (i : Installed) : replacement (maskInstalled i) = replacement i := by
  obtain ⟨key, replaced⟩ := i
  cases replaced <;> rfl

theorem closeNoting_masked (occasion : CloseOccasion) (key : ConnectionKey) (e : Entry) (r : Registry) :
    r.masked.closeNoting occasion key e.masked = conceal (r.closeNoting occasion key e) := by
  rw [closeNoting_eq, closeNoting_eq, farewell_masked]
  rfl

theorem closeAll_masked (r : Registry) : r.masked.closeAll = conceal r.closeAll := by
  simp only [closeAll_eq, masked, Entries.masked, List.findSome?_map, List.flatMap_map]
  rfl

theorem disconnect_masked (engine : Engine) (server : String) (r : Registry) :
    r.masked.disconnect engine server = conceal (r.disconnect engine server) := by
  have htaken : Entries.take (.make engine server) r.masked.entries = _ := Entries.take_masked _ r.entries
  cases ht : Entries.take (.make engine server) r.entries with
  | none =>
    rw [ht] at htaken
    simp only [disconnect, ht, htaken]
    rfl
  | some taken =>
    rw [ht] at htaken
    rw [disconnect_registered ht, disconnect_registered htaken]
    rfl

/-! ## Connecting -/

/-- Wanted connections, with the names masked. -/
def maskWanted (wanted : List (Engine × Except ConfigFault Dsn)) : List (Engine × Except ConfigFault Dsn) :=
  wanted.map fun (engine, dsn) => (engine, dsn.map Dsn.masked)

theorem drivers_install (engine : Engine) (d : Dsn) (r : Registry) : (r.install engine d).2.drivers = r.drivers := by
  rcases install_cases engine d r with ⟨driver, hv, hd, hacc⟩ | ⟨e, n, _, hi⟩
  · rw [install_accepted hv hd hacc]
    rfl
  · rw [hi]

section Connecting

variable (hr : r.Blind)

include hr

theorem install_masked (engine : Engine) (d : Dsn) :
    r.masked.install engine d.masked = conceal (Prod.map (Except.map maskInstalled) id (r.install engine d)) := by
  have hdrivers : r.masked.drivers engine = r.drivers engine := rfl
  rw [install, install, Dsn.validate_masked, hdrivers]
  cases d.validate engine with
  | error f => rfl
  | ok _ =>
    cases hd : r.drivers engine with
    | none => rfl
    | some driver =>
      have hconnect : r.masked.journal.connect driver d.masked = r.journal.connect driver d := by
        rw [Journal.connect, Journal.connect, (hr engine driver hd).connect_masked]
        rfl
      dsimp only
      rw [hconnect]
      rcases r.journal.connect driver d with ⟨_ | handle, journal⟩
      · rfl
      · have hput : Entries.put ⟨.make engine d.masked.server, d.masked, handle, driver⟩ r.masked.entries = _ :=
          Entries.put_masked ⟨.make engine d.server, d, handle, driver⟩ r.entries
        dsimp only
        rw [hput]
        rfl

theorem connect_masked (engine : Engine) (dsn : Except ConfigFault Dsn) :
    r.masked.connect engine (dsn.map Dsn.masked) = conceal (r.connect engine dsn) := by
  cases dsn with
  | error f => rfl
  | ok d =>
    show r.masked.connect engine (.ok d.masked) = _
    rw [connect, connect, install_masked hr]
    rcases r.install engine d with ⟨_ | ⟨key, replaced⟩, r⟩
    · rfl
    · simp only [conceal, Prod.map, Except.map, maskInstalled, closeReplaced_eq]
      have hreplacement := replacement_maskInstalled (key, replaced)
      rw [maskInstalled] at hreplacement
      rw [hreplacement]
      rfl

/-- A password in a text is one more that is masked. -/
theorem setup_masked (engine dsn : String) : conceal (r.masked.setup engine dsn) = conceal (r.setup engine dsn) := by
  unfold setup
  split
  · simp only [conceal, masked_masked]
  · split
    · simp only [conceal, masked_masked]
    · rename_i e _
      have htwice : r.masked.masked.connect e ((Dsn.parse dsn).map Dsn.masked) = _ :=
        connect_masked (r := r.masked) hr e (Dsn.parse dsn)
      rw [← htwice, masked_masked, connect_masked hr]

theorem installAll_masked (opened : List Installed) (wanted : List (Engine × Except ConfigFault Dsn)) :
    installAll (opened.map maskInstalled) (maskWanted wanted) r.masked =
      match installAll opened wanted r with
      | (fault, opened, r) => (fault, opened.map maskInstalled, r.masked) := by
  induction wanted generalizing opened r with
  | nil => rfl
  | cons pair rest ih =>
    obtain ⟨engine, dsn⟩ := pair
    cases dsn with
    | error f => rfl
    | ok d =>
      show installAll (opened.map maskInstalled) ((engine, .ok d.masked) :: maskWanted rest) r.masked = _
      rw [installAll, installAll, install_masked hr]
      rcases hi : r.install engine d with ⟨_ | new, r'⟩
      · rfl
      · have hdrivers : r'.drivers = r.drivers := by simpa only [hi] using drivers_install engine d r
        exact ih (fun engine driver h => hr engine driver (hdrivers ▸ h)) (new :: opened)

end Connecting

/-! ## Connecting to many -/

theorem rollBack_masked (i : Installed) (r : Registry) : r.masked.rollBack (maskInstalled i) = (r.rollBack i).masked := by
  obtain ⟨key, replaced⟩ := i
  cases replaced with
  | none =>
    simp only [rollBack, maskInstalled, Option.map_none, entries_masked, Entries.take_masked]
    cases Entries.take key r.entries with
    | none => rfl
    | some taken => exact congrArg Prod.snd (closeNoting_masked .rollback key taken.1 { r with entries := taken.2 })
  | some old =>
    simp only [rollBack, maskInstalled, Option.map_some, entries_masked, Entries.exchange_masked]
    cases Entries.exchange old r.entries with
    | none => rfl
    | some taken => exact congrArg Prod.snd (closeNoting_masked .rollback key taken.1 { r with entries := taken.2 })

theorem setupMany_masked (hr : r.Blind) (wanted : List (Engine × Except ConfigFault Dsn)) :
    r.masked.setupMany (maskWanted wanted) = conceal (r.setupMany wanted) := by
  have hall := installAll_masked hr [] wanted
  rw [List.map_nil] at hall
  rw [setupMany, setupMany, hall]
  rcases installAll [] wanted r with ⟨_ | e, opened, top⟩
  · dsimp only
    have hreplacements : (opened.map maskInstalled).reverse.flatMap replacement = opened.reverse.flatMap replacement := by
      simp only [← List.map_reverse, List.flatMap_map, replacement_maskInstalled]
    rw [closeReplacedAll_eq, closeReplacedAll_eq, hreplacements]
    rfl
  · dsimp only
    have hback : (opened.map maskInstalled).foldl (fun r i => r.rollBack i) top.masked =
        (opened.foldl (fun r i => r.rollBack i) top).masked := by
      rw [List.foldl_map]
      exact List.foldl_hom masked fun r i => rollBack_masked i r
    rw [hback]
    simp only [conceal, entries_masked, Entries.has_masked]
    rfl

/-! ## Switching and running -/

theorem switchServer_masked (engine : Engine) (server : String) (r : Registry) :
    r.masked.switchServer engine server = conceal (r.switchServer engine server) := by
  simp only [switchServer, entries_masked, Entries.has_masked]
  split <;> rfl

theorem currentEntry_masked (r : Registry) : r.masked.currentEntry = r.currentEntry.map Entry.masked := by
  simp only [currentEntry, current_masked, entries_masked, Entries.find?_masked]
  cases r.current with
  | none => rfl
  | some k =>
    dsimp only
    cases Entries.find? k r.entries <;> rfl

theorem run_masked (kind : RunKind) (sql : String) (r : Registry) :
    r.masked.run kind sql = conceal (r.run kind sql) := by
  rw [run, run, currentEntry_masked]
  cases r.currentEntry <;> rfl

theorem execute_masked (sql : String) (r : Registry) : r.masked.execute sql = conceal (r.execute sql) := by
  rw [execute, execute, run_masked]
  rfl

theorem query_masked (sql : String) (r : Registry) : r.masked.query sql = conceal (r.query sql) := by
  rw [query, query, run_masked]
  rfl

/-! ## Calls -/

/-- What a call is answered. -/
inductive Answer where
  | done (result : Except Error Unit)
  | outcome (result : Except Error Outcome)
  | rows (result : Except Error (List Row))

def answer (r : Registry) : Call → Answer
  | .register _ | .setDefaultEngine _ | .setTableHook _ | .setTracer _ | .script _ _ => .done (.ok ())
  | .setup engine dsn => .done (r.setup engine dsn).1
  | .connect engine dsn => .done (r.connect engine dsn).1
  | .setupMany wanted => .done (r.setupMany wanted).1
  | .switchServer engine server => .done (r.switchServer engine server).1
  | .disconnect engine server => .done (r.disconnect engine server).1
  | .closeAll => .done r.closeAll.1
  | .execute sql => .outcome (r.execute sql).1
  | .query sql => .rows (r.query sql).1

/-- The call with the names that it gives masked; a text stays as it is. -/
def Call.masked : Call → Call
  | .connect engine dsn => .connect engine (dsn.map Dsn.masked)
  | .setupMany wanted => .setupMany (maskWanted wanted)
  | c => c

/-- A call that brings in no driver but blind ones. -/
def Call.Blind (c : Call) : Prop := ∀ driver, c = .register driver → driver.Blind

/-- A call is answered, and leaves, under the mask what it does without it. -/
theorem call_masked (hr : r.Blind) (c : Call) :
    r.masked.answer c.masked = r.answer c ∧ (r.masked.apply c.masked).masked = (r.apply c).masked := by
  have concealed {α : Type} {x y : α × Registry} (h : x = conceal y) (f : α → Answer) :
      f x.1 = f y.1 ∧ x.2.masked = y.2.masked := by
    rw [h]
    exact ⟨rfl, masked_masked _⟩
  cases c with
  | register driver => exact ⟨rfl, masked_masked (r.apply (.register driver))⟩
  | setDefaultEngine engine => exact ⟨rfl, masked_masked (r.apply (.setDefaultEngine engine))⟩
  | setTableHook hook => exact ⟨rfl, masked_masked (r.apply (.setTableHook hook))⟩
  | setTracer tracer => exact ⟨rfl, masked_masked (r.apply (.setTracer tracer))⟩
  | script site reply => exact ⟨rfl, masked_masked (r.apply (.script site reply))⟩
  | setup engine dsn =>
    obtain ⟨hresult, hleft⟩ := Prod.mk.inj (setup_masked hr engine dsn)
    exact ⟨congrArg Answer.done hresult, hleft⟩
  | connect engine dsn => exact concealed (connect_masked hr engine dsn) .done
  | setupMany wanted => exact concealed (setupMany_masked hr wanted) .done
  | switchServer engine server => exact concealed (switchServer_masked engine server r) .done
  | disconnect engine server => exact concealed (disconnect_masked engine server r) .done
  | closeAll => exact concealed (closeAll_masked r) .done
  | execute sql => exact concealed (execute_masked sql r) .outcome
  | query sql => exact concealed (query_masked sql r) .rows

/-- Only registering changes the drivers. -/
theorem drivers_apply (hs : r.Sound) {c : Call} (hc : ∀ driver, c ≠ .register driver) :
    (r.apply c).drivers = r.drivers := by
  have connected (engine : Engine) (dsn : Except ConfigFault Dsn) : (r.connect engine dsn).2.drivers = r.drivers := by
    cases dsn with
    | error f => rfl
    | ok d =>
      have hinstall := drivers_install engine d r
      rw [connect]
      cases hi : r.install engine d with
      | mk result left =>
        rw [hi] at hinstall
        cases result with
        | error e => exact hinstall
        | ok new =>
          simp only [closeReplaced_eq]
          exact hinstall
  have ran (kind : RunKind) (sql : String) : (r.run kind sql).2.drivers = r.drivers := by
    rw [run]
    cases r.currentEntry <;> rfl
  cases c with
  | register driver => exact absurd rfl (hc driver)
  | setDefaultEngine engine => rfl
  | setTableHook hook => rfl
  | setTracer tracer => rfl
  | script site reply => rfl
  | setup engine dsn =>
    show (r.setup engine dsn).2.drivers = r.drivers
    unfold setup
    split
    · rfl
    · split
      · rfl
      · exact connected _ _
  | connect engine dsn => exact connected engine dsn
  | setupMany wanted =>
    show (r.setupMany wanted).2.drivers = r.drivers
    rcases setupMany_cases wanted hs.balanced hs.current with ⟨_, _, _, hm, _, _⟩ | ⟨_, _, _, hstacked, hm⟩
    · rw [hm]
    · rw [hm]
      exact hstacked.same_drivers
  | switchServer engine server =>
    show (r.switchServer engine server).2.drivers = r.drivers
    simp only [switchServer]
    split <;> rfl
  | disconnect engine server =>
    show (r.disconnect engine server).2.drivers = r.drivers
    cases ht : Entries.take (.make engine server) r.entries with
    | none => simp only [disconnect, ht]
    | some taken => rw [disconnect_registered ht]
  | closeAll =>
    show r.closeAll.2.drivers = r.drivers
    rw [closeAll_eq]
  | execute sql => exact ran .execute sql
  | query sql => exact ran .query sql

theorem Blind.register (hr : r.Blind) {driver : Driver} (h : driver.Blind) : (r.register driver).Blind := by
  intro engine found hfound
  simp only [Registry.register] at hfound
  split at hfound
  · cases hfound
    exact h
  · exact hr engine found hfound

theorem Blind.apply (hr : r.Blind) (hs : r.Sound) {c : Call} (hc : c.Blind) : (r.apply c).Blind := by
  by_cases hregister : ∃ driver, c = .register driver
  · obtain ⟨driver, rfl⟩ := hregister
    exact hr.register (hc driver rfl)
  · intro engine driver hd
    rw [drivers_apply hs fun driver h => hregister ⟨driver, h⟩] at hd
    exact hr engine driver hd

theorem blind_empty : empty.Blind := fun _ _ h => by cases h

theorem blind_ofDrivers {drivers : List Driver} (h : ∀ driver ∈ drivers, driver.Blind) : (ofDrivers drivers).Blind :=
  List.foldlRecOn drivers _ blind_empty fun _ hr driver hmem => hr.register (h driver hmem)

/-! ## Runs -/

/-- What can be seen of a call: its answer, and of the registry it leaves the journal and the description. -/
structure Sight where
  answer : Answer
  journal : Journal
  description : String

/-- What can be seen of a run, call by call, of a registry that lists its drivers in this order. -/
def sights (order : List Engine) (r : Registry) : List Call → List Sight
  | [] => []
  | c :: rest => ⟨r.answer c, (r.apply c).journal, (r.apply c).inspect order⟩ :: (r.apply c).sights order rest

variable {r' : Registry}

/-- Calls that are the same under the mask have the same answer, and leave the same under the mask. -/
theorem call_alike (hr : r.Blind) (h : r.masked = r'.masked) {c c' : Call} (hc : c.masked = c'.masked) :
    r.answer c = r'.answer c' ∧ (r.apply c).masked = (r'.apply c').masked := by
  have hr' : r'.Blind := fun engine driver hd => by
    have hdrivers : r.drivers = r'.drivers := by simpa only [drivers_masked] using congrArg Registry.drivers h
    exact hr engine driver (hdrivers ▸ hd)
  obtain ⟨hanswer, hleft⟩ := call_masked hr c
  rw [← hanswer, ← hleft, h, hc]
  exact call_masked hr' c'

theorem sights_alike (hs : r.Sound) (hr : r.Blind) (h : r.masked = r'.masked) {calls calls' : List Call}
    (hcalls : List.Forall₂ (fun c c' => c.Blind ∧ c.masked = c'.masked) calls calls') :
    (∀ order, r.sights order calls = r'.sights order calls') ∧
      (r.after calls).masked = (r'.after calls').masked := by
  induction hcalls generalizing r r' with
  | nil => exact ⟨fun _ => rfl, h⟩
  | @cons c c' _ _ hcall _ ih =>
    obtain ⟨hblind, hmasked⟩ := hcall
    obtain ⟨hanswer, hleft⟩ := call_alike hr h hmasked
    have hjournal : (r.apply c).journal = (r'.apply c').journal := by
      simpa only [journal_masked] using congrArg Registry.journal hleft
    have hdescription (order : List Engine) : (r.apply c).inspect order = (r'.apply c').inspect order := by
      rw [← inspect_masked, hleft, inspect_masked]
    obtain ⟨hsights, hafter⟩ := ih (hs.apply c) (hr.apply hs hblind) hleft
    refine ⟨fun order => ?_, hafter⟩
    rw [sights, sights, hanswer, hjournal, hdescription, hsights]

/-! ## Runs that differ in passwords -/

/-- Connections that are wanted under names given as pairs. -/
def named (wanted : List (Engine × List (String × String))) : List (Engine × Except ConfigFault Dsn) :=
  wanted.map fun (engine, pairs) => (engine, Dsn.ofPairs pairs)

/-- The calls are the same but for passwords among the pairs of the names they connect with. -/
inductive Call.Alike : Call → Call → Prop
  | same {c : Call} : c.Blind → Alike c c
  | connect (engine : Engine) {pairs pairs' : List (String × String)} : Dsn.Alike pairs pairs' →
      Alike (.connect engine (Dsn.ofPairs pairs)) (.connect engine (Dsn.ofPairs pairs'))
  | setupMany {wanted wanted' : List (Engine × List (String × String))} :
      List.Forall₂ (fun w w' => w.1 = w'.1 ∧ Dsn.Alike w.2 w'.2) wanted wanted' →
      Alike (.setupMany (named wanted)) (.setupMany (named wanted'))

theorem Call.Alike.masked_eq {c c' : Call} (h : Alike c c') : c.Blind ∧ c.masked = c'.masked := by
  cases h with
  | same hblind => exact ⟨hblind, rfl⟩
  | connect engine hpairs => exact ⟨fun _ h => (nomatch h), congrArg (Call.connect engine) (Dsn.ofPairs_alike hpairs)⟩
  | setupMany hwanted =>
    refine ⟨fun _ h => (nomatch h), congrArg Call.setupMany ?_⟩
    induction hwanted with
    | nil => rfl
    | cons hpair _ ih =>
      obtain ⟨hengine, hpairs⟩ := hpair
      exact congrArg₂ List.cons (congrArg₂ Prod.mk hengine (Dsn.ofPairs_alike hpairs)) ih

/-- Pairs that differ in passwords give the same fault, or names that differ in their passwords, look the same and are
taken by the same engines. Runs of calls that differ in such pairs cannot be told apart, call by call, by the answers,
by the journal of all that the drivers saw and were noticed of, or by the description of the registry, in whatever
order it lists the drivers, as long as the drivers do not look at passwords; and the registries in the end differ in
the passwords of their entries alone. -/
theorem passwords_unobservable :
    (∀ pairs pairs', Dsn.Alike pairs pairs' →
      (∃ f, Dsn.ofPairs pairs = .error f ∧ Dsn.ofPairs pairs' = .error f) ∨
      ∃ d d', Dsn.ofPairs pairs = .ok d ∧ Dsn.ofPairs pairs' = .ok d' ∧ d' = { d with password := d'.password } ∧
        d.inspect = d'.inspect ∧ ∀ engine, d.validate engine = d'.validate engine) ∧
    ∀ drivers : List Driver, (∀ driver ∈ drivers, driver.Blind) →
      ∀ calls calls', List.Forall₂ Call.Alike calls calls' →
        (∀ order, (ofDrivers drivers).sights order calls = (ofDrivers drivers).sights order calls') ∧
        ((ofDrivers drivers).after calls).masked = ((ofDrivers drivers).after calls').masked := by
  refine ⟨fun pairs pairs' h => ?_, fun drivers hdrivers calls calls' h => ?_⟩
  · rcases map_eq_map (Dsn.ofPairs_alike h) with hfault | ⟨d, d', hd, hd', hmasked⟩
    · exact .inl hfault
    · refine .inr ⟨d, d', hd, hd', Dsn.masked_eq_iff.mp hmasked, ?_, fun engine => ?_⟩
      · rw [← Dsn.inspect_masked, hmasked, Dsn.inspect_masked]
      · rw [← Dsn.validate_masked, hmasked, Dsn.validate_masked]
  · exact sights_alike (sound_ofDrivers drivers) (blind_ofDrivers hdrivers) rfl (h.imp fun _ _ => Call.Alike.masked_eq)

/-- A setup whose second server is down, behind a connection that stays. The description shows in which order it lists
the two drivers, and neither password. -/
theorem passwords_unobservable_of_failed_setup :
    let pairs (server password : String) :=
      [("host", server), ("port", "5432"), ("dbname", "app"), ("user", "app"), ("Password", password)]
    let calls (password : String) := [Call.connect .mysql (Dsn.ofPairs (pairs "db1" password)),
      .setupMany (named [(.postgres, pairs "db2" password), (.mysql, pairs "down" password)]), .query "SELECT 1"]
    let registry := ofDrivers [.simulated .mysql 0 ["down"], .simulated .postgres 1 []]
    (∀ password password', Text.isBlank password = false → Text.isBlank password' = false →
      List.Forall₂ Call.Alike (calls password) (calls password')) ∧
    (∀ order, registry.sights order (calls "first") = registry.sights order (calls "se'cond")) ∧
    (registry.after (calls "first")).inspect [.mysql, .postgres] ≠
      (registry.after (calls "first")).inspect [.postgres, .mysql] ∧
    (registry.after (calls "first")).entries.map (·.dsn.password) = ["first"] ∧
    (registry.after (calls "se'cond")).entries.map (·.dsn.password) = ["se'cond"] ∧
    ∃ d d', Dsn.ofPairs (pairs "db1" "first") = .ok d ∧ Dsn.ofPairs (pairs "db1" "se'cond") = .ok d' ∧
      d.password ≠ d'.password ∧ d.inspect = d'.inspect := by
  intro pairs calls registry
  have hlisted : (registry.after (calls "first")).inspect [.mysql, .postgres] ≠
      (registry.after (calls "first")).inspect [.postgres, .mysql] := by decide +kernel +revert
  have hfirst : (registry.after (calls "first")).entries.map (·.dsn.password) = ["first"] := by decide +kernel +revert
  have hsecond : (registry.after (calls "se'cond")).entries.map (·.dsn.password) = ["se'cond"] := by
    decide +kernel +revert
  have hkey : DsnKey.ofText "Password" = some .password := by decide
  have hpairs (server password password' : String) (h : Text.isBlank password = false)
      (h' : Text.isBlank password' = false) : Dsn.Alike (pairs server password) (pairs server password') :=
    .cons (.inl rfl) (.cons (.inl rfl) (.cons (.inl rfl) (.cons (.inl rfl) (.cons (.inr ⟨rfl, hkey, h, h'⟩) .nil))))
  have hcalls (password password' : String) (h : Text.isBlank password = false) (h' : Text.isBlank password' = false) :
      List.Forall₂ Call.Alike (calls password) (calls password') :=
    .cons (.connect .mysql (hpairs "db1" _ _ h h'))
      (.cons (.setupMany (.cons ⟨rfl, hpairs "db2" _ _ h h'⟩ (.cons ⟨rfl, hpairs "down" _ _ h h'⟩ .nil)))
        (.cons (.same fun _ h => (nomatch h)) .nil))
  have hblind : ∀ driver ∈ [Driver.simulated .mysql 0 ["down"], .simulated .postgres 1 []], driver.Blind := by
    simp [Driver.blind_simulated]
  obtain ⟨hnames, hruns⟩ := passwords_unobservable
  obtain ⟨hsights, -⟩ := hruns _ hblind _ _ (hcalls "first" "se'cond" (by decide) (by decide))
  refine ⟨hcalls, hsights, hlisted, hfirst, hsecond, ?_⟩
  rcases hnames _ _ (hpairs "db1" "first" "se'cond" (by decide) (by decide)) with
    ⟨f, hf, -⟩ | ⟨d, d', hd, hd', -, hshown, -⟩
  · cases hf
  · refine ⟨d, d', hd, hd', ?_, hshown⟩
    cases hd
    cases hd'
    decide

end Registry

end SqlComposer
