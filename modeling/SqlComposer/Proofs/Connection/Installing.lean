/-
  SqlComposer.Proofs.Connection.Installing — opening connections, and taking them back.

  A connection that was opened is adopted: it is put among the entries and becomes
  current, and the entry it replaced stays open until it is closed or comes back. The
  connections that one call has opened are stacked on the registry it was called on.

  Proved:
  (1) an attempt either adopts a connection or changes nothing but the number of
      attempts (`install_cases`);
  (2) taking back the last adopted connection undoes it (`rollBack_adopt`), so a whole
      stack comes down to the registry below it (`Stacked.unwind`);
  (3) along a stack the journal balances with the entries and what they replaced
      (`Stacked.balanced`);
  (4) setting up many leaves the registry it was called on, or a stack on it
      (`setupMany_cases`).
-/

import SqlComposer.Proofs.Connection.Closing

namespace SqlComposer

namespace Registry

/-! ## Adopting -/

/-- The entry of the connection that a driver opens. -/
def entryOf (driver : Driver) (engine : Engine) (d : Dsn) (number : Nat) : Entry :=
  ⟨.make engine d.server, d, driver.handle number d, driver⟩

/-- Registers a newly opened connection and makes it current. -/
def adopt (e : Entry) (r : Registry) : Registry :=
  { r with
    entries := (Entries.put e r.entries).2
    current := some e.key
    journal := { r.journal with attempts := r.journal.attempts + 1 }.extend
      [.opened e.handle, .noticed (.connected e.key)] }

/-- What `adopt` has to be taken back with. -/
def installed (e : Entry) (r : Registry) : Installed := (e.key, (Entries.put e r.entries).1)

variable {engine : Engine} {d : Dsn} {driver : Driver} {r : Registry}

theorem install_accepted (hv : d.validate engine = .ok ()) (hd : r.drivers engine = some driver)
    (hr : driver.refusal r.journal.attempts d = none) :
    let e := entryOf driver engine d r.journal.attempts
    r.install engine d = (.ok (r.installed e), r.adopt e) := by
  simp only [install, hv, hd, Journal.connect, Driver.connect, hr]
  simp [installed, adopt, entryOf, Journal.extend, Journal.notice, Journal.record, List.append_assoc]

/-- What a driver's refusal is told as. -/
def refusalFault : Error → ConnectionFault
  | .connection f => f
  | e => .native e.display

theorem install_refused {fault : Error} (hv : d.validate engine = .ok ()) (hd : r.drivers engine = some driver)
    (hr : driver.refusal r.journal.attempts d = some fault) :
    r.install engine d = (.error (.connection (refusalFault fault)),
      { r with journal := { r.journal with attempts := r.journal.attempts + 1 } }) := by
  simp only [install, hv, hd, Journal.connect, Driver.connect, hr]
  cases fault <;> rfl

/-- An attempt adopts a connection, or else only counts. -/
theorem install_cases (engine : Engine) (d : Dsn) (r : Registry) :
    (∃ driver, d.validate engine = .ok () ∧ r.drivers engine = some driver ∧
      driver.refusal r.journal.attempts d = none) ∨
    ∃ e n, r.journal.attempts ≤ n ∧
      r.install engine d = (.error e, { r with journal := { r.journal with attempts := n } }) := by
  cases hv : d.validate engine with
  | error f => exact .inr ⟨.config f, _, Nat.le_refl _, by simp [install, hv]⟩
  | ok _ =>
    cases hd : r.drivers engine with
    | none => exact .inr ⟨.config (.noDriver engine), _, Nat.le_refl _, by simp [install, hv, hd]⟩
    | some driver =>
      cases hr : driver.refusal r.journal.attempts d with
      | none => exact .inl ⟨driver, rfl, rfl, hr⟩
      | some fault => exact .inr ⟨_, _, Nat.le_succ _, install_refused hv hd hr⟩

/-- Taking back the last adopted connection brings back what was there before it. -/
theorem rollBack_adopt (e : Entry) (r : Registry) (j : Journal) (c : Option ConnectionKey) :
    rollBack (r.installed e) { r.adopt e with journal := j, current := c } =
      { r with journal := j.extend (e.farewell .rollback e.key), current := c } := by
  unfold installed adopt rollBack
  cases hput : Entries.put e r.entries with
  | mk replaced es =>
    cases replaced with
    | none => simp only [Entries.take_put hput, closeNoting_eq]
    | some old => simp only [Entries.exchange_put hput, closeNoting_eq]

theorem balanced_adopt {e : Entry} {limbo : List Handle} (he : e.handle.number = r.journal.attempts)
    (hb : r.journal.Balanced (Entries.handles r.entries ++ limbo)) :
    (r.adopt e).journal.Balanced
      (Entries.handles (r.adopt e).entries ++ (Entries.handles (r.installed e).2.toList ++ limbo)) := by
  have hn := (hb.opened he).noticed (.connected e.key)
  have hj : (r.adopt e).journal =
      ({ r.journal with attempts := r.journal.attempts + 1 }.record (.opened e.handle)).notice (.connected e.key) := by
    simp [adopt, Journal.extend, Journal.notice, Journal.record, List.append_assoc]
  rw [hj]
  refine hn.perm ?_
  rw [← List.append_assoc, ← List.cons_append]
  exact (Entries.handles_put e r.entries).symm.append_right limbo

/-! ## Stacks -/

/-- `r` is `base` with the connections in `opened`, the last one first, adopted to it. -/
inductive Stacked (base : Registry) : List Installed → Registry → Prop
  | nil : Stacked base [] base
  | push {opened : List Installed} {r : Registry} (e : Entry) :
      e.handle.number = r.journal.attempts → Stacked base opened r → Stacked base (r.installed e :: opened) (r.adopt e)

namespace Stacked

variable {base r : Registry} {opened : List Installed}

theorem balanced (hs : Stacked base opened r) (hb : base.journal.Balanced (Entries.handles base.entries)) :
    r.journal.Balanced (Entries.handles r.entries ++ Entries.handles (displaced opened)) := by
  induction hs with
  | nil => simpa [displaced, Entries.handles] using hb
  | push e he _ ih =>
    rw [displaced_cons, Entries.handles, Entries.handles, List.map_append]
    exact balanced_adopt he ih

theorem same_drivers (hs : Stacked base opened r) : r.drivers = base.drivers := by
  induction hs with
  | nil => rfl
  | push _ _ _ ih => exact ih

theorem attempts (hs : Stacked base opened r) : r.journal.attempts = base.journal.attempts + opened.length := by
  induction hs with
  | nil => rfl
  | push _ _ _ ih => exact congrArg (· + 1) ih

theorem nodup_keys (hs : Stacked base opened r) (hn : (Entries.keys base.entries).Nodup) :
    (Entries.keys r.entries).Nodup := by
  induction hs with
  | nil => exact hn
  | push e _ _ ih => exact Entries.nodup_keys_put e _ ih

theorem current_mem (hs : Stacked base opened r) (hc : ∀ k ∈ base.current, k ∈ Entries.keys base.entries) :
    ∀ k ∈ r.current, k ∈ Entries.keys r.entries := by
  cases hs with
  | nil => exact hc
  | push e _ _ =>
    intro k hk
    exact (Entries.mem_keys_put e _).mpr (.inl (Option.mem_some_iff.mp hk).symm)

/-- A stack only adds events to the journal, and none of them closes a connection. -/
theorem events (hs : Stacked base opened r) :
    ∃ news, r.journal.events = base.journal.events ++ news ∧ closings news = [] := by
  induction hs with
  | nil => exact ⟨[], (List.append_nil _).symm, rfl⟩
  | push e _ _ ih =>
    obtain ⟨news, hnews, hclosed⟩ := ih
    refine ⟨news ++ [.opened e.handle, .noticed (.connected e.key)], ?_, by simp [hclosed]⟩
    rw [← List.append_assoc, ← hnews]
    rfl

/-- Taken down, a stack leaves the registry below it, with all its connections closed. -/
theorem unwind (hs : Stacked base opened r) (j : Journal) (c : Option ConnectionKey)
    (hb : j.Balanced (Entries.handles r.entries ++ Entries.handles (displaced opened))) :
    ∃ news, opened.foldl (fun r i => r.rollBack i) { r with journal := j, current := c } =
        { base with journal := j.extend news, current := c } ∧
      (j.extend news).Balanced (Entries.handles base.entries) := by
  -- for any journal and current key: each farewell changes the one, and the other comes back at the end only
  induction hs generalizing j with
  | nil => exact ⟨[], by simp [Journal.extend], by simpa [Journal.extend, displaced, Entries.handles] using hb⟩
  | push e _ _ ih =>
    rename_i opened r _ _
    have hput := Entries.handles_put e r.entries
    have hclosed : (j.extend (e.farewell .rollback e.key)).Balanced
        (Entries.handles r.entries ++ Entries.handles (displaced opened)) := by
      refine Journal.Balanced.farewell .rollback e.key (hb.perm ?_)
      rw [displaced_cons, Entries.handles, Entries.handles, List.map_append, ← List.append_assoc, ← List.cons_append]
      exact hput.append_right _
    obtain ⟨news, hfold, hbal⟩ := ih _ hclosed
    refine ⟨e.farewell .rollback e.key ++ news, ?_, by rwa [← Journal.extend_extend]⟩
    rw [List.foldl_cons, rollBack_adopt, hfold, Journal.extend_extend]

end Stacked

/-! ## Opening many -/

variable {base after : Registry} {opened opened' : List Installed} {fault : Option Error}
  {wanted : List (Engine × Except ConfigFault Dsn)}

/-- Opening many stacks them up; a failed attempt is counted on top of the stack. -/
theorem installAll_stacked (hs : Stacked base opened r) (h : installAll opened wanted r = (fault, opened', after)) :
    ∃ top n, Stacked base opened' top ∧ top.journal.attempts ≤ n ∧
      after = { top with journal := { top.journal with attempts := n } } ∧ (fault = none → after = top) := by
  induction wanted generalizing opened r with
  | nil =>
    cases h
    exact ⟨_, _, hs, Nat.le_refl _, rfl, fun _ => rfl⟩
  | cons pair rest ih =>
    obtain ⟨engine, dsn⟩ := pair
    cases dsn with
    | error f =>
      cases h
      exact ⟨_, _, hs, Nat.le_refl _, rfl, fun h => by cases h⟩
    | ok d =>
      rcases install_cases engine d r with ⟨driver, hv, hd, hr⟩ | ⟨e, n, hn, hi⟩
      · simp only [installAll, install_accepted hv hd hr] at h
        exact ih (.push _ rfl hs) h
      · simp only [installAll, hi] at h
        cases h
        exact ⟨r, n, hs, hn, rfl, fun h => by cases h⟩

/-- Setting up many fails with nothing but the journal changed, or puts a stack on the registry and closes what
it replaced. -/
theorem setupMany_cases (wanted : List (Engine × Except ConfigFault Dsn)) {r : Registry}
    (hb : r.journal.Balanced (Entries.handles r.entries)) (hc : ∀ k ∈ r.current, k ∈ Entries.keys r.entries) :
    (∃ e j news, r.setupMany wanted = (.error e, { r with journal := j }) ∧
      j.events = r.journal.events ++ news ∧ j.Balanced (Entries.handles r.entries)) ∨
    ∃ opened top, installAll [] wanted r = (none, opened, top) ∧ Stacked r opened top ∧ r.setupMany wanted =
      (.ok (), { top with journal := top.journal.extend (opened.reverse.flatMap replacement) }) := by
  rcases hi : installAll [] wanted r with ⟨fault, opened, after⟩
  obtain ⟨top, n, hs, hn, hafter, hnone⟩ := installAll_stacked .nil hi
  cases fault with
  | none =>
    cases hnone rfl
    refine .inr ⟨opened, after, rfl, hs, ?_⟩
    rw [setupMany, hi]
    exact congrArg (Prod.mk _) (closeReplacedAll_eq opened.reverse after)
  | some e =>
    obtain ⟨stacked, hstacked, _⟩ := hs.events
    obtain ⟨news, hfold, hbal⟩ :=
      hs.unwind { top.journal with attempts := n } top.current ((hs.balanced hb).asked hn _)
    refine .inl ⟨e, _, stacked ++ news, ?_, ?_, hbal⟩
    · -- no entry was lost on the way, so the current key still has one
      have hcurrent : r.current.filter (fun k => Entries.has k r.entries) = r.current := by
        cases hk : r.current with
        | none => rfl
        | some k => rw [Option.filter_some, if_pos (Entries.has_iff.mpr (hc k hk))]
      simp only [setupMany, hi, hafter, hfold, hcurrent]
    · rw [← List.append_assoc, ← hstacked]; rfl

end Registry

end SqlComposer
