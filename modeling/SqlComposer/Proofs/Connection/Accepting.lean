/-
  SqlComposer.Proofs.Connection.Accepting — setting up connections that the drivers accept.

  Once every name fits its engine and every engine has a driver, setting up is left to
  the drivers: each attempt has a number, and the drivers accept or refuse it.

  Proved:
  (1) connections are set up exactly when the drivers accept all attempts, in order
      (`setupMany_ok_iff_accepted`), and the first that is refused is the fault (`setupMany_refused`);
  (2) on a registry without connections the keys are then those asked for, in order, and
      the last one is current (`setupMany_accepted`);
  (3) a retired registry has no entry and has closed every connection it ever opened, once
      (`Sound.retired`).
-/

import SqlComposer.Proofs.Connection.AllOrNothing

namespace SqlComposer

namespace Registry

/-- Named connections, as a setup takes them. -/
def asked (pairs : List (Engine × Dsn)) : List (Engine × Except ConfigFault Dsn) :=
  pairs.map fun (engine, d) => (engine, .ok d)

/-- The key a connection is going to have. -/
def keyOf (pair : Engine × Dsn) : ConnectionKey := .make pair.1 pair.2.server

/-- The drivers accept these attempts, numbered from `number` on. -/
def AcceptAll (drivers : Engine → Option Driver) : Nat → List (Engine × Dsn) → Prop
  | _, [] => True
  | number, (engine, d) :: rest =>
    (∀ driver, drivers engine = some driver → driver.refusal number d = none) ∧ AcceptAll drivers (number + 1) rest

theorem acceptAll_append {drivers : Engine → Option Driver} {number : Nat} {before rest : List (Engine × Dsn)} :
    AcceptAll drivers number (before ++ rest) ↔
      AcceptAll drivers number before ∧ AcceptAll drivers (number + before.length) rest := by
  induction before generalizing number with
  | nil => simp [AcceptAll]
  | cons pair before ih =>
    have hnumber : number + 1 + before.length = number + (pair :: before).length := by
      rw [List.length_cons]
      omega
    rw [List.cons_append, AcceptAll, AcceptAll, ih, hnumber, and_assoc]

/-! ## Stacks of accepted connections -/

namespace Stacked

variable {base r : Registry} {opened : List Installed}

theorem same_settings (hs : Stacked base opened r) :
    r.defaultEngine = base.defaultEngine ∧ r.tableHook = base.tableHook ∧ r.tracer = base.tracer := by
  induction hs with
  | nil => exact ⟨rfl, rfl, rfl⟩
  | push _ _ _ ih => exact ih

theorem current_eq (hs : Stacked base opened r) : r.current = ((opened.map (·.1)).head?).or base.current := by
  cases hs <;> rfl

/-- New keys come behind those that were there, the first one first. -/
theorem keys_eq (hs : Stacked base opened r) (hn : (opened.map (·.1)).Nodup)
    (hnew : ∀ k ∈ opened.map (·.1), k ∉ Entries.keys base.entries) :
    Entries.keys r.entries = Entries.keys base.entries ++ (opened.map (·.1)).reverse := by
  induction hs with
  | nil => exact (List.append_nil _).symm
  | push e _ _ ih =>
    rename_i opened r _ _
    rw [List.map_cons] at hn hnew ⊢
    obtain ⟨hfirst, hn⟩ := List.nodup_cons.mp hn
    obtain ⟨hbase, hnew⟩ := List.forall_mem_cons.mp hnew
    have ih := ih hn hnew
    have habsent : e.key ∉ Entries.keys r.entries := by
      rw [ih, List.mem_append, List.mem_reverse]
      exact fun h => h.elim hbase hfirst
    rcases Entries.put_cases e r.entries with ⟨old, front, back, hes, hold, _, _⟩ | ⟨_, hput⟩
    · refine absurd ?_ habsent
      rw [hes, ← hold]
      exact List.mem_map_of_mem (List.mem_append_right _ List.mem_cons_self)
    · have hentries : (r.adopt e).entries = r.entries ++ [e] := congrArg Prod.snd hput
      rw [hentries, Entries.keys, List.map_append, ← Entries.keys, ih, List.reverse_cons, List.append_assoc]
      rfl

end Stacked

/-! ## Opening what is accepted -/

variable {r after : Registry} {opened opened' : List Installed} {pairs : List (Engine × Dsn)}

/-- Nothing but a driver can stand in the way of these connections. -/
structure Ready (drivers : Engine → Option Driver) (pairs : List (Engine × Dsn)) : Prop where
  valid : ∀ p ∈ pairs, p.2.validate p.1 = .ok ()
  driven : ∀ p ∈ pairs, (drivers p.1).isSome

theorem Ready.of_append {drivers : Engine → Option Driver} {before rest : List (Engine × Dsn)}
    (h : Ready drivers (before ++ rest)) : Ready drivers before :=
  ⟨fun p hp => h.valid p (List.mem_append_left _ hp), fun p hp => h.driven p (List.mem_append_left _ hp)⟩

theorem installAll_ok_iff (h : Ready r.drivers pairs) (opened : List Installed) :
    (installAll opened (asked pairs) r).1 = none ↔ AcceptAll r.drivers r.journal.attempts pairs := by
  induction pairs generalizing opened r with
  | nil => simp [asked, installAll, AcceptAll]
  | cons pair rest ih =>
    obtain ⟨engine, d⟩ := pair
    obtain ⟨hv, hvalid⟩ := List.forall_mem_cons.mp h.valid
    obtain ⟨hsome, hdriven⟩ := List.forall_mem_cons.mp h.driven
    obtain ⟨driver, hd⟩ := Option.isSome_iff_exists.mp hsome
    cases href : driver.refusal r.journal.attempts d with
    | none =>
      have hrest := ih (r := r.adopt (entryOf driver engine d r.journal.attempts)) ⟨hvalid, hdriven⟩
        (r.installed (entryOf driver engine d r.journal.attempts) :: opened)
      have hthis : ∀ found, r.drivers engine = some found → found.refusal r.journal.attempts d = none := by
        intro found hfound
        cases hd.symm.trans hfound
        exact href
      rw [asked, List.map_cons, installAll, install_accepted hv hd href, AcceptAll]
      exact hrest.trans (and_iff_right hthis).symm
    | some fault =>
      rw [asked, List.map_cons, installAll, install_refused hv hd href, AcceptAll]
      constructor
      · intro hnone
        cases hnone
      · intro haccept
        rw [haccept.1 driver hd] at href
        cases href

theorem keys_installAll (h : installAll opened (asked pairs) r = (none, opened', after)) :
    opened'.map (·.1) = (pairs.map keyOf).reverse ++ opened.map (·.1) := by
  induction pairs generalizing opened r with
  | nil => cases h; rfl
  | cons pair rest ih =>
    obtain ⟨engine, d⟩ := pair
    rw [asked, List.map_cons, installAll] at h
    rcases install_cases engine d r with ⟨driver, hv, hd, href⟩ | ⟨cause, n, _, hi⟩
    · rw [install_accepted hv hd href] at h
      rw [ih h, List.map_cons, List.map_cons, List.reverse_cons, List.append_assoc]
      rfl
    · rw [hi] at h
      cases h

/-! ## Setting up -/

theorem setupMany_ok_iff_accepted (h : Ready r.drivers pairs) :
    (r.setupMany (asked pairs)).1 = .ok () ↔ AcceptAll r.drivers r.journal.attempts pairs :=
  setupMany_ok_iff.trans (installAll_ok_iff h [])

/-- Connections with new keys that are all accepted follow each other, and the last one is current. -/
theorem Sound.setupMany_accepted (hr : r.Sound) (hempty : r.entries = []) (h : Ready r.drivers pairs)
    (hkeys : (pairs.map keyOf).Nodup) (haccept : AcceptAll r.drivers r.journal.attempts pairs) :
    ∃ left, r.setupMany (asked pairs) = (.ok (), left) ∧ Entries.keys left.entries = pairs.map keyOf ∧
      left.current = (pairs.map keyOf).getLast? ∧
      left.defaultEngine = r.defaultEngine ∧ left.tableHook = r.tableHook ∧ left.tracer = r.tracer := by
  have hok := (setupMany_ok_iff_accepted h).mpr haccept
  rcases setupMany_cases (asked pairs) hr.balanced hr.current with ⟨e, j, _, hm, _, _⟩ | ⟨opened, top, hi, hs, hm⟩
  · rw [hm] at hok
    cases hok
  · have hopened : opened.map (·.1) = (pairs.map keyOf).reverse := by
      rw [keys_installAll hi, List.map_nil, List.append_nil]
    have hnone : r.current = none := by
      cases hc : r.current with
      | none => rfl
      | some k =>
        have hk := hr.current k hc
        rw [hempty] at hk
        cases hk
    refine ⟨_, hm, ?_, ?_, hs.same_settings⟩
    · have hnew : ∀ k ∈ opened.map (·.1), k ∉ Entries.keys r.entries := by
        rw [hempty]
        exact fun _ _ hk => by cases hk
      have hn : (opened.map (·.1)).Nodup := hopened ▸ List.nodup_reverse.mpr hkeys
      have hall := hs.keys_eq hn hnew
      rw [hopened, List.reverse_reverse, hempty] at hall
      exact hall
    · have hcurrent := hs.current_eq
      rw [hopened, List.head?_reverse, hnone, Option.or_none] at hcurrent
      exact hcurrent

/-- Connections that are not all accepted fail with the first that is refused. -/
theorem setupMany_refused (h : Ready r.drivers pairs) {e : Error} (he : (r.setupMany (asked pairs)).1 = .error e) :
    ∃ before engine d rest driver fault, pairs = before ++ (engine, d) :: rest ∧
      AcceptAll r.drivers r.journal.attempts before ∧ r.drivers engine = some driver ∧
      driver.refusal (r.journal.attempts + before.length) d = some fault ∧
      e = .connection (.setup engine (Text.trim d.server) (refusalFault fault)) := by
  obtain ⟨front, engine, dsn, back, hsplit, hfront, hfails, htold⟩ := setupMany_first_failure he
  obtain ⟨before, tail, rfl, rfl, htail⟩ := List.map_eq_append_iff.mp hsplit
  obtain ⟨⟨engine', d⟩, rest, rfl, hpair, rfl⟩ := List.map_eq_cons_iff.mp htail
  cases hpair
  have hsofar : asked before ++ [(engine, .ok d)] = asked (before ++ [(engine, d)]) := by simp [asked]
  have hready : Ready r.drivers (before ++ [(engine, d)]) := by
    rw [List.append_cons] at h
    exact h.of_append
  have haccept : AcceptAll r.drivers r.journal.attempts before :=
    (setupMany_ok_iff_accepted h.of_append).mp hfront
  have hvalid : d.validate engine = .ok () := h.valid (engine, d) (List.mem_append_right _ List.mem_cons_self)
  obtain ⟨driver, hd⟩ :=
    Option.isSome_iff_exists.mp (h.driven (engine, d) (List.mem_append_right _ List.mem_cons_self))
  cases href : driver.refusal (r.journal.attempts + before.length) d with
  | none =>
    -- the attempt would have been accepted with the ones before it
    have hall : AcceptAll r.drivers r.journal.attempts (before ++ [(engine, d)]) := by
      refine acceptAll_append.mpr ⟨haccept, fun found hfound => ?_, trivial⟩
      cases hd.symm.trans hfound
      exact href
    have hok := (setupMany_ok_iff_accepted hready).mpr hall
    rw [← hsofar] at hok
    cases hfails.symm.trans hok
  | some fault =>
    refine ⟨before, engine, d, rest, driver, fault, rfl, haccept, hd, href, ?_⟩
    refine htold d driver fault rfl hvalid hd ?_
    rwa [List.length_map]

/-! ## Retiring -/

theorem Sound.retired (hr : r.Sound) :
    r.retire.entries = [] ∧
      ∀ h ∈ openings r.retire.journal.events, (closings r.retire.journal.events).count h = 1 := by
  have hclosed := hr.closeAll.balanced
  have hentries : r.retire.entries = [] := by rw [retire, closeAll_eq]
  refine ⟨hentries, fun h hh => ?_⟩
  have hmem := hclosed.account.mem_iff.mp hh
  rw [← retire, hentries, Entries.handles, List.map_nil, List.append_nil] at hmem
  exact List.count_eq_one_of_mem hclosed.orderly.nodup_closings hmem

end Registry

end SqlComposer
