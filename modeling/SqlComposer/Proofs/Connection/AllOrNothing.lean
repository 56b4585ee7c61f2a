/-
  SqlComposer.Proofs.Connection.AllOrNothing — setting up many connections, against
  connecting to them one by one.

  Proved, for every registry in use (`setupMany_all_or_nothing`):
  (1) when one connection fails, the registry is as it was, those opened on the way are
      closed, each once, and no other is; the fault is that of the first that fails, and
      a refusal is told with the engine and the server (`setupMany_failed`);
  (2) otherwise the registry is the one that single connects leave, and of all
      connections those are closed, once, that are registered no more (`setupMany_done`);
  (3) a single connect, setup or switch that fails changes nothing.
-/

import SqlComposer.Proofs.Connection.Runs

namespace SqlComposer

namespace Registry

variable {engine : Engine} {r after : Registry} {opened opened' : List Installed} {e : Error}
  {wanted before : List (Engine × Except ConfigFault Dsn)}

/-! ## Up to the first failure -/

theorem installAll_append (opened : List Installed) (before rest : List (Engine × Except ConfigFault Dsn))
    (r : Registry) :
    installAll opened (before ++ rest) r =
      match installAll opened before r with
      | (none, opened, r) => installAll opened rest r
      | stopped => stopped := by
  induction before generalizing opened r with
  | nil => rfl
  | cons pair before ih =>
    obtain ⟨engine, dsn⟩ := pair
    cases dsn with
    | error f => rfl
    | ok d =>
      simp only [List.cons_append, installAll]
      rcases r.install engine d with ⟨_ | new, r⟩
      · rfl
      · exact ih _ _

/-- Opening many stops at the first that fails. -/
theorem installAll_stopped (h : installAll opened wanted r = (some e, opened', after)) :
    ∃ before pair rest top between, wanted = before ++ pair :: rest ∧
      installAll opened before r = (none, between, top) ∧ installAll between [pair] top = (some e, opened', after) := by
  induction wanted generalizing opened r with
  | nil => cases h
  | cons pair rest ih =>
    obtain ⟨engine, dsn⟩ := pair
    cases dsn with
    | error f => exact ⟨[], _, rest, r, opened, rfl, rfl, h⟩
    | ok d =>
      cases hi : r.install engine d with
      | mk result r' =>
        cases result with
        | error cause =>
          refine ⟨[], _, rest, r, opened, rfl, rfl, ?_⟩
          simpa only [installAll, hi] using h
        | ok new =>
          simp only [installAll, hi] at h
          obtain ⟨before, pair, rest, top, between, rfl, hbefore, hpair⟩ := ih h
          refine ⟨(engine, .ok d) :: before, pair, rest, top, between, rfl, ?_, hpair⟩
          simpa only [installAll, hi] using hbefore

theorem length_installAll (h : installAll opened wanted r = (none, opened', after)) :
    opened'.length = opened.length + wanted.length := by
  induction wanted generalizing opened r with
  | nil => cases h; rfl
  | cons pair rest ih =>
    obtain ⟨engine, dsn⟩ := pair
    cases dsn with
    | error f => cases h
    | ok d =>
      cases hi : r.install engine d with
      | mk result r' =>
        cases result with
        | error cause => simp only [installAll, hi] at h; cases h
        | ok new =>
          simp only [installAll, hi] at h
          rw [ih h, List.length_cons, List.length_cons]
          omega

theorem setupMany_ok_iff : (r.setupMany wanted).1 = .ok () ↔ (installAll [] wanted r).1 = none := by
  unfold setupMany
  rcases installAll [] wanted r with ⟨_ | e, opened, after⟩ <;> simp

theorem setupMany_error_iff : (r.setupMany wanted).1 = .error e ↔ (installAll [] wanted r).1 = some e := by
  unfold setupMany
  rcases installAll [] wanted r with ⟨_ | e, opened, after⟩ <;> simp

/-- The fault of a failed setup is that of the first pair that fails; a refusal is told with the server. -/
theorem setupMany_first_failure (h : (r.setupMany wanted).1 = .error e) :
    ∃ before engine dsn rest, wanted = before ++ (engine, dsn) :: rest ∧ (r.setupMany before).1 = .ok () ∧
      (r.setupMany (before ++ [(engine, dsn)])).1 = .error e ∧
      ∀ d driver fault, dsn = .ok d → d.validate engine = .ok () → r.drivers engine = some driver →
        driver.refusal (r.journal.attempts + before.length) d = some fault →
        e = .connection (.setup engine (Text.trim d.server) (refusalFault fault)) := by
  rcases hi : installAll [] wanted r with ⟨stop, opened, after⟩
  rw [setupMany_error_iff, hi] at h
  cases h
  obtain ⟨before, ⟨engine, dsn⟩, rest, top, between, rfl, hbefore, hpair⟩ := installAll_stopped hi
  refine ⟨before, engine, dsn, rest, rfl, setupMany_ok_iff.mpr (by rw [hbefore]), ?_, ?_⟩
  · rw [setupMany_error_iff, installAll_append, hbefore]
    exact congrArg Prod.fst hpair
  · intro d driver fault hdsn hv hd hr
    obtain ⟨_, _, hs, _, _, hnone⟩ := installAll_stacked .nil hbefore
    cases hnone rfl
    have hattempts : top.journal.attempts = r.journal.attempts + before.length := by
      rw [hs.attempts, length_installAll hbefore, List.length_nil, Nat.zero_add]
    have hrefused := install_refused hv (hs.same_drivers ▸ hd) (hattempts ▸ hr)
    rw [hdsn] at hpair
    simp only [installAll, hrefused] at hpair
    cases hpair
    rfl

/-! ## One by one -/

/-- Connects to each in turn, whatever comes of it. -/
def connectEach (wanted : List (Engine × Except ConfigFault Dsn)) (r : Registry) : Registry :=
  wanted.foldl (fun r (engine, dsn) => (r.connect engine dsn).2) r

theorem connectEach_cons (dsn : Except ConfigFault Dsn) (rest : List (Engine × Except ConfigFault Dsn)) :
    r.connectEach ((engine, dsn) :: rest) = (r.connect engine dsn).2.connectEach rest := rfl

/-- The registry with other events in its journal. -/
def withEvents (es : List Event) (r : Registry) : Registry := { r with journal := { r.journal with events := es } }

/-- Where an attempt adopts a connection, connecting also closes what it replaced. -/
theorem connect_accepted {d : Dsn} {driver : Driver} (es : List Event) (hv : d.validate engine = .ok ())
    (hd : r.drivers engine = some driver) (hr : driver.refusal r.journal.attempts d = none) :
    let e := entryOf driver engine d r.journal.attempts
    (r.withEvents es).connect engine (.ok d) = (.ok (), (r.adopt e).withEvents
      (es ++ [.opened e.handle, .noticed (.connected e.key)] ++ replacement (r.installed e))) := by
  have hi := install_accepted (r := r.withEvents es) hv hd hr
  simp only [connect, hi, installed, closeReplaced_eq]
  rfl

/-- Single connects go as far as opening many does, and close what is replaced on the way. -/
theorem connectEach_of_installAll (h : installAll opened wanted r = (none, opened', after)) (es : List Event) :
    ∃ added es', opened' = added ++ opened ∧ (r.withEvents es).connectEach wanted = after.withEvents es' ∧
      closings es' = closings es ++ Entries.handles (displaced added.reverse) := by
  -- the two runs differ in their events alone, which no attempt looks at
  induction wanted generalizing opened r es with
  | nil =>
    cases h
    exact ⟨[], es, rfl, rfl, (List.append_nil _).symm⟩
  | cons pair rest ih =>
    obtain ⟨engine, dsn⟩ := pair
    cases dsn with
    | error f => cases h
    | ok d =>
      rcases install_cases engine d r with ⟨driver, hv, hd, hr⟩ | ⟨cause, n, _, hi⟩
      · simp only [installAll, install_accepted hv hd hr] at h
        let e := entryOf driver engine d r.journal.attempts
        obtain ⟨added, es', rfl, heach, hclosed⟩ := ih h
          (es ++ [.opened e.handle, .noticed (.connected e.key)] ++ replacement (r.installed e))
        refine ⟨added ++ [r.installed e], es', by simp [e], ?_, ?_⟩
        · rw [connectEach_cons, connect_accepted es hv hd hr]
          exact heach
        · have hone := closings_replacements [r.installed e]
          rw [List.flatMap_singleton] at hone
          rw [hclosed, closings_append, closings_append, hone, List.reverse_append, displaced, displaced, displaced,
            List.filterMap_append, Entries.handles, Entries.handles, Entries.handles, List.map_append]
          simp
      · simp only [installAll, hi] at h
        cases h

/-- When all of them are set up, so each of them is by connecting to one after another. -/
theorem connect_ok_of_setupMany (h : (r.setupMany wanted).1 = .ok ()) {dsn : Except ConfigFault Dsn}
    {rest : List (Engine × Except ConfigFault Dsn)} (hsplit : wanted = before ++ (engine, dsn) :: rest) :
    ((r.connectEach before).connect engine dsn).1 = .ok () := by
  subst hsplit
  rw [setupMany_ok_iff, installAll_append] at h
  rcases hi : installAll [] before r with ⟨_ | e, opened, top⟩
  · rw [hi] at h
    obtain ⟨_, es, _, heach, _⟩ := connectEach_of_installAll hi r.journal.events
    have heach : r.connectEach before = top.withEvents es := heach
    rw [heach]
    cases dsn with
    | error f => cases h
    | ok d =>
      rcases install_cases engine d top with ⟨driver, hv, hd, hr⟩ | ⟨cause, n, _, hrefused⟩
      · rw [connect_accepted es hv hd hr]
      · simp only [installAll, hrefused] at h
        cases h
  · rw [hi] at h
    cases h

/-! ## All or nothing -/

namespace Sound

variable (hr : r.Sound)

include hr

/-- A failed setup leaves the registry as it was and closes just what it opened. -/
theorem setupMany_failed (h : (r.setupMany wanted).1 = .error e) :
    (r.setupMany wanted).2 = { r with journal := (r.setupMany wanted).2.journal } ∧
    ∃ news, (r.setupMany wanted).2.journal.events = r.journal.events ++ news ∧
      (openings news).Nodup ∧ (closings news).Perm (openings news) ∧
      ∀ x ∈ openings news, x ∉ openings r.journal.events := by
  rcases setupMany_cases wanted hr.balanced hr.current with ⟨e, j, news, hm, hnews, hj⟩ | ⟨_, _, _, _, hm⟩
  · rw [hm]
    -- the entries are the same before and after, so what was opened cancels against what was closed
    obtain ⟨hnodup, hnew⟩ := Orderly.openings_later (hnews ▸ hj.orderly)
    have haccount := hr.balanced.account_news hj hnews
    refine ⟨rfl, news, hnews, hnodup, ?_, hnew⟩
    exact (List.perm_append_left_iff _).mp (List.perm_append_comm.trans haccount.symm)
  · rw [hm] at h
    cases h

/-- A setup that does not fail does what single connects do, and closes just what they close. -/
theorem setupMany_done (h : (r.setupMany wanted).1 = .ok ()) :
    (r.setupMany wanted).2.entries = (r.connectEach wanted).entries ∧
    (r.setupMany wanted).2.current = (r.connectEach wanted).current ∧
    ∃ news, (r.setupMany wanted).2.journal.events = r.journal.events ++ news ∧ (closings news).Nodup ∧
      closings (r.connectEach wanted).journal.events = closings r.journal.events ++ closings news ∧
      ∀ x, x ∈ closings news ↔ (x ∈ Entries.handles r.entries ∨ x ∈ openings news) ∧
        x ∉ Entries.handles (r.setupMany wanted).2.entries := by
  have hsound := hr.setupMany wanted
  rcases setupMany_cases wanted hr.balanced hr.current with ⟨_, _, _, hm, _, _⟩ | ⟨opened, top, hi, hs, hm⟩
  · rw [hm] at h
    cases h
  · obtain ⟨added, es, hadded, heach, hclosed⟩ := connectEach_of_installAll hi r.journal.events
    rw [List.append_nil] at hadded
    subst hadded
    have heach : r.connectEach wanted = top.withEvents es := heach
    obtain ⟨stacked, hstacked, hnone⟩ := hs.events
    have hnews : (r.setupMany wanted).2.journal.events =
        r.journal.events ++ (stacked ++ opened.reverse.flatMap replacement) := by
      rw [hm, ← List.append_assoc, ← hstacked]
      rfl
    have hlater : closings (stacked ++ opened.reverse.flatMap replacement) =
        Entries.handles (displaced opened.reverse) := by
      rw [closings_append, hnone, closings_replacements, List.nil_append]
    refine ⟨by rw [hm, heach]; rfl, by rw [hm, heach]; rfl, _, hnews, ?_, ?_, ?_⟩
    · exact (closings_append _ _ ▸ hnews ▸ hsound.balanced.orderly.nodup_closings).of_append_right
    · rw [heach, hlater]
      exact hclosed
    · exact fun x => hr.balanced.mem_closings_news hsound.balanced hnews

end Sound

theorem connect_failed {dsn : Except ConfigFault Dsn} (h : (r.connect engine dsn).1 = .error e) :
    ∃ n, (r.connect engine dsn).2 = { r with journal := { r.journal with attempts := n } } := by
  cases dsn with
  | error f => exact ⟨r.journal.attempts, rfl⟩
  | ok d =>
    rcases install_cases engine d r with ⟨driver, hv, hd, hr⟩ | ⟨cause, n, _, hi⟩
    · have hok := connect_accepted r.journal.events hv hd hr
      have hok : (r.connect engine (.ok d)).1 = .ok () := congrArg Prod.fst hok
      rw [hok] at h
      cases h
    · exact ⟨n, by simp only [connect, hi]⟩

theorem setup_failed {engine dsn : String} (h : (r.setup engine dsn).1 = .error e) :
    ∃ n, (r.setup engine dsn).2 = { r with journal := { r.journal with attempts := n } } := by
  unfold setup at h ⊢
  split
  · exact ⟨r.journal.attempts, rfl⟩
  · rename_i hblank
    rw [if_neg hblank] at h
    split
    · exact ⟨r.journal.attempts, rfl⟩
    · rename_i e' hengine
      rw [hengine] at h
      exact connect_failed h

theorem switchServer_failed {server : String} (h : (r.switchServer engine server).1 = .error e) :
    (r.switchServer engine server).2 = r := by
  unfold switchServer at h ⊢
  dsimp only at h ⊢
  split
  · rename_i hk
    rw [if_pos hk] at h
    cases h
  · rfl

/-- Setting up many connections either fails at the first that fails, with nothing left of it but what the journal
tells, or is connecting to them one by one; and no other way of connecting or switching that fails leaves more. -/
theorem setupMany_all_or_nothing (drivers : List Driver) (calls : List Call)
    (wanted : List (Engine × Except ConfigFault Dsn)) :
    let r := (ofDrivers drivers).after calls
    let result := (r.setupMany wanted).1
    let left := (r.setupMany wanted).2
    (∀ e, result = .error e →
      left = { r with journal := left.journal } ∧
      (∃ news, left.journal.events = r.journal.events ++ news ∧
        (openings news).Nodup ∧ (closings news).Perm (openings news) ∧
        ∀ h ∈ openings news, h ∉ openings r.journal.events) ∧
      ∃ before engine dsn rest, wanted = before ++ (engine, dsn) :: rest ∧ (r.setupMany before).1 = .ok () ∧
        (r.setupMany (before ++ [(engine, dsn)])).1 = .error e ∧
        ∀ d driver fault, dsn = .ok d → d.validate engine = .ok () → r.drivers engine = some driver →
          driver.refusal (r.journal.attempts + before.length) d = some fault →
          e = .connection (.setup engine (Text.trim d.server) (refusalFault fault))) ∧
    (result = .ok () →
      (∀ before engine dsn rest, wanted = before ++ (engine, dsn) :: rest →
        ((r.connectEach before).connect engine dsn).1 = .ok ()) ∧
      left.entries = (r.connectEach wanted).entries ∧ left.current = (r.connectEach wanted).current ∧
      ∃ news, left.journal.events = r.journal.events ++ news ∧ (closings news).Nodup ∧
        closings (r.connectEach wanted).journal.events = closings r.journal.events ++ closings news ∧
        ∀ h, h ∈ closings news ↔
          (h ∈ Entries.handles r.entries ∨ h ∈ openings news) ∧ h ∉ Entries.handles left.entries) ∧
    (∀ engine dsn e, (r.setup engine dsn).1 = .error e →
      ∃ n, (r.setup engine dsn).2 = { r with journal := { r.journal with attempts := n } }) ∧
    (∀ engine dsn e, (r.connect engine dsn).1 = .error e →
      ∃ n, (r.connect engine dsn).2 = { r with journal := { r.journal with attempts := n } }) ∧
    ∀ engine server e, (r.switchServer engine server).1 = .error e → (r.switchServer engine server).2 = r := by
  intro r result left
  have hr : r.Sound := sound_after drivers calls
  refine ⟨fun e he => ?_, fun hok => ?_, fun _ _ _ => setup_failed, fun _ _ _ => connect_failed,
    fun _ _ _ => switchServer_failed⟩
  · obtain ⟨hsame, hnews⟩ := hr.setupMany_failed he
    exact ⟨hsame, hnews, setupMany_first_failure he⟩
  · exact ⟨fun _ _ _ _ => connect_ok_of_setupMany hok, hr.setupMany_done hok⟩

/-- With the second server down, the connection that took the place of the first one is closed again. -/
theorem setupMany_all_or_nothing_with_one_down :
    let dsn (server : String) : Dsn := ⟨server, none, "app", "app", "secret", none⟩
    let drivers := [Driver.simulated .mysql 0 ["down"]]
    let calls := [Call.connect .mysql (.ok (dsn "up"))]
    let wanted := [(Engine.mysql, Except.ok (dsn "up")), (.mysql, .ok (dsn "down"))]
    (((ofDrivers drivers).after calls).setupMany wanted).1.isOk = false ∧
    ∃ news, (((ofDrivers drivers).after calls).setupMany wanted).2.journal.events =
        ((ofDrivers drivers).after calls).journal.events ++ news ∧ (closings news).Perm (openings news) := by
  intro dsn drivers calls wanted
  have failed : (((ofDrivers drivers).after calls).setupMany wanted).1.isOk = false := by decide +kernel +revert
  cases result : (((ofDrivers drivers).after calls).setupMany wanted).1 with
  | ok _ => rw [result] at failed; cases failed
  | error e =>
    obtain ⟨fails, _⟩ := setupMany_all_or_nothing drivers calls wanted
    obtain ⟨_, ⟨news, hnews, _, hclosed, _⟩, _⟩ := fails e result
    exact ⟨rfl, news, hnews, hclosed⟩

end Registry

end SqlComposer
