/-
  SqlComposer.Proofs.Connection.Runs — what holds of a registry however it was used.

  A registry starts with drivers and without connections. Calls come in any order, with
  any results; the drivers may refuse any attempt, fail to close any connection, and be
  told to answer anything. A registry is sound when its journal balances with its
  entries, the entries have distinct keys, and the current key is one of theirs.

  Proved:
  (1) every call leaves a sound registry sound (`Sound.apply`), so every registry in use
      is sound (`sound_after`);
  (2) connections are conserved (`connections_conserved`): the open ones are those of
      the entries, none is closed twice or used when closed, disconnecting and closing
      all forget connections whose closing fails, and a retired registry has closed all.
-/

import SqlComposer.Proofs.Connection.Installing

namespace SqlComposer

namespace Registry

/-! ## Calls -/

/-- What is done to a registry, or to the sites that its drivers connect to. -/
inductive Call where
  | register (driver : Driver)
  | setDefaultEngine (engine : Engine)
  | setTableHook (hook : Option (String → String))
  | setTracer (tracer : Tracer)
  | script (site : Nat) (reply : Reply)
  | setup (engine dsn : String)
  | connect (engine : Engine) (dsn : Except ConfigFault Dsn)
  | setupMany (wanted : List (Engine × Except ConfigFault Dsn))
  | switchServer (engine : Engine) (server : String)
  | disconnect (engine : Engine) (server : String)
  | closeAll
  | execute (sql : String)
  | query (sql : String)

def apply (r : Registry) : Call → Registry
  | .register driver => r.register driver
  | .setDefaultEngine engine => { r with defaultEngine := engine }
  | .setTableHook hook => { r with tableHook := hook }
  | .setTracer tracer => { r with tracer }
  | .script site reply => { r with journal := r.journal.script site reply }
  | .setup engine dsn => (r.setup engine dsn).2
  | .connect engine dsn => (r.connect engine dsn).2
  | .setupMany wanted => (r.setupMany wanted).2
  | .switchServer engine server => (r.switchServer engine server).2
  | .disconnect engine server => (r.disconnect engine server).2
  | .closeAll => r.closeAll.2
  | .execute sql => (r.execute sql).2
  | .query sql => (r.query sql).2

/-- The registry that a run of calls leaves. -/
def after (r : Registry) (calls : List Call) : Registry := calls.foldl apply r

/-! ## Soundness -/

structure Sound (r : Registry) : Prop where
  balanced : r.journal.Balanced (Entries.handles r.entries)
  distinct : (Entries.keys r.entries).Nodup
  current : ∀ k ∈ r.current, k ∈ Entries.keys r.entries

theorem sound_empty : empty.Sound := ⟨.empty, List.nodup_nil, fun _ h => by cases h⟩

theorem sound_ofDrivers (drivers : List Driver) : (ofDrivers drivers).Sound :=
  List.foldlRecOn drivers _ sound_empty fun _ hr _ _ => ⟨hr.balanced, hr.distinct, hr.current⟩

theorem mem_of_currentEntry {r : Registry} {e : Entry} (h : r.currentEntry = .ok e) : e ∈ r.entries := by
  unfold currentEntry at h
  split at h
  · cases h
  · split at h
    · rename_i hfind
      cases h
      exact (Entries.mem_of_find? hfind).1
    · cases h

namespace Sound

variable {r : Registry} (hr : r.Sound)

include hr

/-- What happens in the journal alone is sound when it balances. -/
theorem with_journal {j : Journal} (hj : j.Balanced (Entries.handles r.entries)) :
    Sound { r with journal := j } := ⟨hj, hr.distinct, hr.current⟩

theorem note (n : Notice) : (r.note n).Sound := hr.with_journal (hr.balanced.noticed n)

/-! ### Connecting -/

theorem connect (engine : Engine) (dsn : Except ConfigFault Dsn) : (r.connect engine dsn).2.Sound := by
  cases dsn with
  | error f => exact hr
  | ok d =>
    rcases install_cases engine d r with ⟨driver, hv, hd, hacc⟩ | ⟨e, n, hn, hi⟩
    · have hs : Stacked r [r.installed _] (r.adopt _) := .push (entryOf driver engine d r.journal.attempts) rfl .nil
      have hb : (r.adopt (entryOf driver engine d r.journal.attempts)).journal.Balanced _ := hs.balanced hr.balanced
      simp only [Registry.connect, install_accepted hv hd hacc, installed, closeReplaced_eq]
      have hclosed := balanced_replacements hb
      rw [List.flatMap_cons, List.flatMap_nil, List.append_nil] at hclosed
      exact ⟨hclosed, hs.nodup_keys hr.distinct, hs.current_mem hr.current⟩
    · simp only [Registry.connect, hi]
      exact hr.with_journal (hr.balanced.asked hn _)

theorem setup (engine dsn : String) : (r.setup engine dsn).2.Sound := by
  unfold Registry.setup
  split
  · exact hr
  · split
    · exact hr
    · exact hr.connect _ _

theorem setupMany (wanted : List (Engine × Except ConfigFault Dsn)) : (r.setupMany wanted).2.Sound := by
  rcases setupMany_cases wanted hr.balanced hr.current with ⟨e, j, news, h, _, hj⟩ | ⟨opened, top, _, hs, h⟩
  · rw [h]
    exact hr.with_journal hj
  · rw [h]
    refine ⟨balanced_replacements ((hs.balanced hr.balanced).perm ?_), hs.nodup_keys hr.distinct,
      hs.current_mem hr.current⟩
    exact ((opened.reverse_perm.symm.filterMap _).map _).append_left _

/-! ### Switching and disconnecting -/

theorem switchServer (engine : Engine) (server : String) : (r.switchServer engine server).2.Sound := by
  unfold Registry.switchServer
  dsimp only
  split
  · rename_i hk
    have hn := hr.note (.switched (.make engine server))
    exact ⟨hn.balanced, hn.distinct, fun k hk' => Option.mem_some_iff.mp hk' ▸ Entries.has_iff.mp hk⟩
  · exact hr

theorem disconnect (engine : Engine) (server : String) : (r.disconnect engine server).2.Sound := by
  cases ht : Entries.take (.make engine server) r.entries with
  | none => simpa only [Registry.disconnect, ht] using hr
  | some taken =>
    obtain ⟨e, entries⟩ := taken
    obtain ⟨hdistinct, _, hkept⟩ := Entries.nodup_keys_take ht hr.distinct
    rw [disconnect_registered ht]
    refine ⟨(hr.balanced.perm (Entries.handles_take ht)).closed, hdistinct, ?_⟩
    intro k hk
    dsimp only at hk
    split at hk
    · cases hk
    · rename_i hne
      refine hkept k (hr.current k hk) fun he => hne ?_
      rw [Option.mem_def.mp hk, he]
      exact beq_self_eq_true _

theorem closeAll : r.closeAll.2.Sound := by
  rw [closeAll_eq]
  have hb : r.journal.Balanced (Entries.handles r.entries ++ []) := by
    rw [List.append_nil]
    exact hr.balanced
  exact ⟨balanced_shutdown hb, List.nodup_nil, fun _ h => by cases h⟩

/-! ### Running statements -/

theorem run (kind : RunKind) (sql : String) : (r.run kind sql).2.Sound := by
  unfold Registry.run
  split
  · exact hr
  · rename_i e he
    have hmem : e.handle ∈ Entries.handles r.entries := List.mem_map_of_mem (mem_of_currentEntry he)
    have hn := hr.balanced.noticed (.statement r.tracer.level e.key kind (r.tracer.shorten sql))
    have hran := hn.ran hmem sql
    dsimp only
    unfold Journal.run
    dsimp only
    split
    · exact hr.with_journal hran
    · exact hr.with_journal (hran.asked (Nat.le_refl _) _)
    · exact hr.with_journal (hran.asked (Nat.le_refl _) _)

theorem apply (c : Call) : (r.apply c).Sound := by
  cases c with
  | register driver => exact ⟨hr.balanced, hr.distinct, hr.current⟩
  | setDefaultEngine engine => exact ⟨hr.balanced, hr.distinct, hr.current⟩
  | setTableHook hook => exact ⟨hr.balanced, hr.distinct, hr.current⟩
  | setTracer tracer => exact ⟨hr.balanced, hr.distinct, hr.current⟩
  | script site reply => exact hr.with_journal (hr.balanced.asked (Nat.le_refl _) _)
  | setup engine dsn => exact hr.setup engine dsn
  | connect engine dsn => exact hr.connect engine dsn
  | setupMany wanted => exact hr.setupMany wanted
  | switchServer engine server => exact hr.switchServer engine server
  | disconnect engine server => exact hr.disconnect engine server
  | closeAll => exact hr.closeAll
  | execute sql => exact hr.run .execute sql
  | query sql => exact hr.run .query sql

end Sound

/-- Every registry in use is sound. -/
theorem sound_after (drivers : List Driver) (calls : List Call) : ((ofDrivers drivers).after calls).Sound :=
  List.foldlRecOn calls apply (sound_ofDrivers drivers) fun _ hr c _ => hr.apply c

/-! ## Conservation -/

/-- After any calls the open connections are those of the entries, each opened once, closed at most once and used
only while open. Disconnecting takes its entry out and closing all takes out all of them, whatever closing them
reports; and a registry that retires has closed every connection it ever opened, once. -/
theorem connections_conserved (drivers : List Driver) (calls : List Call) :
    let r := (ofDrivers drivers).after calls
    let held := Entries.handles r.entries
    ((∀ h, IsOpen h r.journal.events ↔ h ∈ held) ∧ held.Nodup ∧ Orderly r.journal.events ∧
      (openings r.journal.events).Nodup ∧ (closings r.journal.events).Nodup) ∧
    (∀ engine server e, Entries.find? (.make engine server) r.entries = some e →
      (r.disconnect engine server).1 = (e.driver.closeFault e.handle).elim (.ok ()) .error ∧
      (r.disconnect engine server).2.entries = r.entries.filter (·.key != .make engine server) ∧
      closings (r.disconnect engine server).2.journal.events = closings r.journal.events ++ [e.handle]) ∧
    (r.closeAll.1 = (r.entries.findSome? fun e => e.driver.closeFault e.handle).elim (.ok ()) .error ∧
      r.closeAll.2.entries = [] ∧
      closings r.closeAll.2.journal.events = closings r.journal.events ++ held) ∧
    openings r.retire.journal.events = openings r.journal.events ∧ Orderly r.retire.journal.events ∧
    ∀ h ∈ openings r.journal.events, (closings r.retire.journal.events).count h = 1 := by
  intro r held
  have hr : r.Sound := sound_after drivers calls
  have hb := hr.balanced
  refine ⟨⟨fun h => hb.isOpen_iff, hb.nodup_held, hb.orderly, hb.orderly.nodup_openings, hb.orderly.nodup_closings⟩,
    ?_, ?_, ?_⟩
  · intro engine server e he
    obtain ⟨entries, ht, hentries⟩ := Entries.take_of_find? he hr.distinct
    rw [disconnect_registered ht]
    exact ⟨rfl, hentries, closings_append ..⟩
  · rw [closeAll_eq]
    refine ⟨rfl, rfl, ?_⟩
    rw [Journal.extend, closings_append, closings_shutdown]
  · have hclosed := hr.closeAll.balanced
    have hopened : openings r.retire.journal.events = openings r.journal.events := by
      rw [retire, closeAll_eq, Journal.extend, openings_append, openings_shutdown, List.append_nil]
    have hheld : Entries.handles r.retire.entries = [] := by rw [retire, closeAll_eq]; rfl
    refine ⟨hopened, hclosed.orderly, fun h hh => ?_⟩
    have hmem : h ∈ closings r.retire.journal.events := by
      have hmem := hclosed.account.mem_iff.mp (hopened ▸ hh)
      rwa [← retire, hheld, List.append_nil] at hmem
    exact List.count_eq_one_of_mem hclosed.orderly.nodup_closings hmem

end Registry

end SqlComposer
