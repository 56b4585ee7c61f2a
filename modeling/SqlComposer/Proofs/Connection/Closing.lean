/-
  SqlComposer.Proofs.Connection.Closing — what closing connections leaves behind.

  Closing has no say in what becomes of the entries: it only adds events to the journal,
  the farewell of each connection.

  Proved: each way of closing as an equation (`closeNoting_eq`, `closeReplacedAll_eq`,
  `disconnect_registered`, `closeAll_eq`), and that it takes from the balance just the
  connections it closes (`Balanced.farewell`, `balanced_replacements`,
  `balanced_shutdown`).
-/

import SqlComposer.Connection.Registry
import SqlComposer.Proofs.Connection.Entries
import SqlComposer.Proofs.Connection.Ledger

namespace SqlComposer

/-- The journal with more events. -/
def Journal.extend (es : List Event) (j : Journal) : Journal := { j with events := j.events ++ es }

theorem Journal.extend_extend (es fs : List Event) (j : Journal) :
    (j.extend es).extend fs = j.extend (es ++ fs) := by
  simp [extend, List.append_assoc]

/-! ## Closing -/

/-- What closing an entry's connection leaves in the journal, when a fault is noted. -/
def Entry.farewell (occasion : CloseOccasion) (key : ConnectionKey) (e : Entry) : List Event :=
  .closed e.handle :: match e.driver.closeFault e.handle with
    | none => []
    | some fault => [.noticed (.closeFailed occasion key fault)]

namespace Entry

variable (occasion : CloseOccasion) (key : ConnectionKey) (e : Entry)

@[simp] theorem openings_farewell : openings (e.farewell occasion key) = [] := by
  unfold farewell
  split <;> rfl

@[simp] theorem closings_farewell : closings (e.farewell occasion key) = [e.handle] := by
  unfold farewell
  split <;> rfl

end Entry

theorem Journal.Balanced.farewell {j : Journal} {held : List Handle} {e : Entry} (occasion : CloseOccasion)
    (key : ConnectionKey) (hb : j.Balanced (e.handle :: held)) :
    (j.extend (e.farewell occasion key)).Balanced held := by
  unfold Entry.farewell
  split
  · exact hb.closed
  · rename_i fault _
    have hn := hb.closed.noticed (.closeFailed occasion key fault)
    simpa only [extend, notice, record, List.append_assoc, List.singleton_append] using hn

namespace Registry

theorem closeNoting_eq (occasion : CloseOccasion) (key : ConnectionKey) (e : Entry) (r : Registry) :
    r.closeNoting occasion key e =
      (e.driver.closeFault e.handle, { r with journal := r.journal.extend (e.farewell occasion key) }) := by
  unfold closeNoting close Entry.farewell
  cases e.driver.closeFault e.handle with
  | none => rfl
  | some fault => simp [note, Journal.extend, Journal.notice, Journal.record, List.append_assoc]

/-- What closing the entry that a connection replaced leaves in the journal. -/
def replacement (i : Installed) : List Event :=
  match i.2 with
  | some old => old.farewell .replacement i.1
  | none => []

/-- The entries that connections replaced. -/
def displaced (opened : List Installed) : Entries := opened.filterMap (·.2)

theorem displaced_cons (i : Installed) (opened : List Installed) :
    displaced (i :: opened) = i.2.toList ++ displaced opened := by
  obtain ⟨key, replaced⟩ := i
  cases replaced <;> rfl

theorem closeReplaced_eq (key : ConnectionKey) (replaced : Option Entry) (r : Registry) :
    r.closeReplaced key replaced = { r with journal := r.journal.extend (replacement (key, replaced)) } := by
  cases replaced with
  | none => simp [closeReplaced, replacement, Journal.extend]
  | some old => rw [closeReplaced, closeNoting_eq, replacement]

theorem closeReplacedAll_eq (opened : List Installed) (r : Registry) :
    opened.foldl (fun r (key, old) => r.closeReplaced key old) r =
      { r with journal := r.journal.extend (opened.flatMap replacement) } := by
  induction opened generalizing r with
  | nil => simp [Journal.extend]
  | cons i opened ih =>
    obtain ⟨key, replaced⟩ := i
    rw [List.foldl_cons, ih, List.flatMap_cons, ← Journal.extend_extend]
    simp only [closeReplaced_eq]

theorem closings_replacements (opened : List Installed) :
    closings (opened.flatMap replacement) = Entries.handles (displaced opened) := by
  induction opened with
  | nil => rfl
  | cons i opened ih =>
    obtain ⟨key, replaced⟩ := i
    rw [List.flatMap_cons, closings_append, ih, displaced_cons]
    cases replaced <;> simp [replacement, Entries.handles]

/-- Closing all that was replaced leaves what is held. -/
theorem balanced_replacements {opened : List Installed} {j : Journal} {held : List Handle}
    (hb : j.Balanced (held ++ Entries.handles (displaced opened))) :
    (j.extend (opened.flatMap replacement)).Balanced held := by
  induction opened generalizing j with
  | nil => simpa [Journal.extend, displaced, Entries.handles] using hb
  | cons i opened ih =>
    obtain ⟨key, replaced⟩ := i
    rw [List.flatMap_cons, ← Journal.extend_extend]
    refine ih ?_
    cases replaced with
    | none => simpa [Journal.extend, replacement, displaced] using hb
    | some old => exact (hb.perm List.perm_middle).farewell .replacement key

/-! ## Closing what is registered -/

theorem disconnect_registered {engine : Engine} {server : String} {r : Registry} {e : Entry} {entries : Entries}
    (h : Entries.take (.make engine server) r.entries = some (e, entries)) :
    r.disconnect engine server = ((e.driver.closeFault e.handle).elim (.ok ()) .error, { r with
      entries
      current := if r.current == some (.make engine server) then none else r.current
      journal := r.journal.extend [.closed e.handle] }) := by
  simp only [disconnect, h, close]
  cases e.driver.closeFault e.handle <;> rfl

/-- Closing entries in order gives the first fault of them all. -/
theorem closeEach_eq (es : Entries) (r : Registry) :
    closeEach es r = (es.findSome? fun e => e.driver.closeFault e.handle,
      { r with journal := r.journal.extend (es.flatMap fun e => e.farewell .shutdown e.key) }) := by
  induction es generalizing r with
  | nil => simp [closeEach, Journal.extend]
  | cons e es ih =>
    simp only [closeEach, closeNoting_eq, ih, Journal.extend_extend, List.flatMap_cons, List.findSome?_cons]
    cases e.driver.closeFault e.handle <;> rfl

theorem closeAll_eq (r : Registry) :
    r.closeAll = ((r.entries.findSome? fun e => e.driver.closeFault e.handle).elim (.ok ()) .error, { r with
      entries := []
      current := none
      journal := r.journal.extend (r.entries.flatMap fun e => e.farewell .shutdown e.key) }) := by
  simp only [closeAll, closeEach_eq]
  cases r.entries.findSome? fun e => e.driver.closeFault e.handle <;> rfl

theorem openings_shutdown (es : Entries) : openings (es.flatMap fun e => e.farewell .shutdown e.key) = [] := by
  induction es with
  | nil => rfl
  | cons e es ih => rw [List.flatMap_cons, openings_append, ih, Entry.openings_farewell, List.append_nil]

theorem closings_shutdown (es : Entries) :
    closings (es.flatMap fun e => e.farewell .shutdown e.key) = Entries.handles es := by
  induction es with
  | nil => rfl
  | cons e es ih => rw [List.flatMap_cons, closings_append, ih, Entry.closings_farewell]; rfl

theorem balanced_shutdown {es : Entries} {j : Journal} {held : List Handle}
    (hb : j.Balanced (Entries.handles es ++ held)) :
    (j.extend (es.flatMap fun e => e.farewell .shutdown e.key)).Balanced held := by
  induction es generalizing j with
  | nil => simpa [Journal.extend, Entries.handles] using hb
  | cons e es ih =>
    rw [List.flatMap_cons, ← Journal.extend_extend]
    exact ih (hb.farewell .shutdown e.key)

end Registry

end SqlComposer
