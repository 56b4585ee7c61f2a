/-
  SqlComposer.Proofs.Connection.Ledger — the account of connections in a journal.

  (1) an event fits what came before it when it opens a connection for the first time,
      or closes or uses one that is open;
  (2) a journal balances with a list of connections when every event fitted, and those
      opened are, each once, the ones closed and the ones in the list.

  Proved: what an event does to a balance (`Balanced.opened`, `Balanced.closed`,
  `Balanced.ran`, `Balanced.noticed`), and what a balance says: no connection is opened
  or closed twice (`Orderly.nodup_openings`, `Orderly.nodup_closings`), and the listed
  ones are just those that are open (`Balanced.isOpen_iff`).
-/

import Mathlib.Data.List.Induction
import Mathlib.Data.List.Nodup
import SqlComposer.Connection.Journal

namespace SqlComposer

namespace Event

def opened? : Event → Option Handle
  | .opened h => some h
  | _ => none

def closed? : Event → Option Handle
  | .closed h => some h
  | _ => none

end Event

/-! ## Events in order -/

/-- The connections opened, in order. -/
def openings (es : List Event) : List Handle := es.filterMap Event.opened?

/-- The connections closed, in order. -/
def closings (es : List Event) : List Handle := es.filterMap Event.closed?

@[simp] theorem openings_nil : openings [] = [] := rfl
@[simp] theorem openings_opened (h : Handle) (es : List Event) : openings (.opened h :: es) = h :: openings es := rfl
@[simp] theorem openings_closed (h : Handle) (es : List Event) : openings (.closed h :: es) = openings es := rfl
@[simp] theorem openings_ran (h : Handle) (sql : String) (es : List Event) :
    openings (.ran h sql :: es) = openings es := rfl
@[simp] theorem openings_noticed (n : Notice) (es : List Event) : openings (.noticed n :: es) = openings es := rfl

@[simp] theorem closings_nil : closings [] = [] := rfl
@[simp] theorem closings_opened (h : Handle) (es : List Event) : closings (.opened h :: es) = closings es := rfl
@[simp] theorem closings_closed (h : Handle) (es : List Event) : closings (.closed h :: es) = h :: closings es := rfl
@[simp] theorem closings_ran (h : Handle) (sql : String) (es : List Event) :
    closings (.ran h sql :: es) = closings es := rfl
@[simp] theorem closings_noticed (n : Notice) (es : List Event) : closings (.noticed n :: es) = closings es := rfl

@[simp] theorem openings_append (es fs : List Event) : openings (es ++ fs) = openings es ++ openings fs :=
  List.filterMap_append

@[simp] theorem closings_append (es fs : List Event) : closings (es ++ fs) = closings es ++ closings fs :=
  List.filterMap_append

def IsOpen (h : Handle) (es : List Event) : Prop := h ∈ openings es ∧ h ∉ closings es

def Event.Fits (before : List Event) : Event → Prop
  | .opened h => h ∉ openings before
  | .closed h => IsOpen h before
  | .ran h _ => IsOpen h before
  | .noticed _ => True

def Orderly (es : List Event) : Prop := ∀ before e rest, es = before ++ e :: rest → e.Fits before

theorem orderly_nil : Orderly [] := by
  intro before e rest h
  cases before <;> cases h

theorem orderly_snoc {es : List Event} {e : Event} : Orderly (es ++ [e]) ↔ Orderly es ∧ e.Fits es := by
  constructor
  · intro h
    refine ⟨fun before e' rest he => h before e' (rest ++ [e]) ?_, h es e [] rfl⟩
    rw [he, List.append_assoc, List.cons_append]
  · rintro ⟨hes, he⟩ before e' rest hsplit
    rcases List.eq_nil_or_concat rest with rfl | ⟨rest', last, rfl⟩
    · obtain ⟨rfl, hlast⟩ := List.append_inj' hsplit rfl
      cases hlast
      exact he
    · rw [List.concat_eq_append, ← List.cons_append, ← List.append_assoc] at hsplit
      exact hes before e' rest' (List.append_inj' hsplit rfl).1

theorem Orderly.nodup_openings {es : List Event} (h : Orderly es) : (openings es).Nodup := by
  induction es using List.reverseRecOn with
  | nil => exact List.nodup_nil
  | append_singleton es e ih =>
    obtain ⟨hes, he⟩ := orderly_snoc.mp h
    rw [openings_append]
    cases e with
    | opened x => exact (List.perm_append_singleton _ _).nodup_iff.mpr (List.nodup_cons.mpr ⟨he, ih hes⟩)
    | _ => simpa using ih hes

theorem Orderly.nodup_closings {es : List Event} (h : Orderly es) : (closings es).Nodup := by
  induction es using List.reverseRecOn with
  | nil => exact List.nodup_nil
  | append_singleton es e ih =>
    obtain ⟨hes, he⟩ := orderly_snoc.mp h
    rw [closings_append]
    cases e with
    | closed x => exact (List.perm_append_singleton _ _).nodup_iff.mpr (List.nodup_cons.mpr ⟨he.2, ih hes⟩)
    | _ => simpa using ih hes

/-- What is opened later was not opened before. -/
theorem Orderly.openings_later {es news : List Event} (h : Orderly (es ++ news)) :
    (openings news).Nodup ∧ ∀ x ∈ openings news, x ∉ openings es := by
  have hn : (openings es ++ openings news).Nodup := openings_append es news ▸ h.nodup_openings
  exact ⟨hn.of_append_right, fun x hx ho => List.disjoint_of_nodup_append hn ho hx⟩

namespace Journal

/-- The journal's open connections are the ones in `held`. -/
structure Balanced (j : Journal) (held : List Handle) : Prop where
  orderly : Orderly j.events
  account : (openings j.events).Perm (closings j.events ++ held)
  fresh : ∀ h ∈ openings j.events, h.number < j.attempts

namespace Balanced

variable {j : Journal} {held held' : List Handle} {h : Handle}

/-! ## What a balance says -/

theorem nodup (hb : Balanced j held) : (closings j.events ++ held).Nodup :=
  hb.account.nodup_iff.mp hb.orderly.nodup_openings

theorem nodup_held (hb : Balanced j held) : held.Nodup := hb.nodup.of_append_right

theorem isOpen (hb : Balanced j held) (hh : h ∈ held) : IsOpen h j.events :=
  ⟨hb.account.mem_iff.mpr (List.mem_append_right _ hh), fun hc => List.disjoint_of_nodup_append hb.nodup hc hh⟩

theorem isOpen_iff (hb : Balanced j held) : IsOpen h j.events ↔ h ∈ held := by
  refine ⟨fun ⟨ho, hc⟩ => ?_, hb.isOpen⟩
  exact (List.mem_append.mp (hb.account.mem_iff.mp ho)).resolve_left hc

theorem perm (hb : Balanced j held) (hp : held.Perm held') : Balanced j held' :=
  ⟨hb.orderly, hb.account.trans (hp.append_left _), hb.fresh⟩

/-! ## Between two balances -/

section News

variable {j' : Journal} {news : List Event} (hb : Balanced j held) (hb' : Balanced j' held')
  (hnews : j'.events = j.events ++ news)

include hb hb' hnews

theorem account_news : (held ++ openings news).Perm (closings news ++ held') := by
  have hacc := hb'.account
  rw [hnews, openings_append, closings_append, List.append_assoc] at hacc
  have hlong := (hb.account.append_right (openings news)).symm.trans hacc
  rw [List.append_assoc] at hlong
  exact (List.perm_append_left_iff _).mp hlong

/-- What was closed in between is what was open before or opened since, and is not open any more. -/
theorem mem_closings_news : h ∈ closings news ↔ (h ∈ held ∨ h ∈ openings news) ∧ h ∉ held' := by
  have hacc := hb.account_news hb' hnews
  have hn : (closings news ++ held').Nodup := by
    have hn := hb'.nodup
    rw [hnews, closings_append, List.append_assoc] at hn
    exact hn.of_append_right
  rw [← List.mem_append, hacc.mem_iff, List.mem_append]
  constructor
  · exact fun hc => ⟨.inl hc, fun hh => List.disjoint_of_nodup_append hn hc hh⟩
  · exact fun ⟨hor, hnot⟩ => hor.resolve_right hnot

end News

/-! ## One event -/

theorem empty : Balanced {} [] := ⟨orderly_nil, .refl _, fun _ h => by cases h⟩

/-- Attempts are counted on, whatever waits for an answer. -/
theorem asked (hb : Balanced j held) {n : Nat} (hn : j.attempts ≤ n) (replies : List (Nat × Reply)) :
    Balanced { j with attempts := n, replies } held :=
  ⟨hb.orderly, hb.account, fun h hh => Nat.lt_of_lt_of_le (hb.fresh h hh) hn⟩

theorem noticed (hb : Balanced j held) (n : Notice) : Balanced (j.notice n) held := by
  refine ⟨orderly_snoc.mpr ⟨hb.orderly, trivial⟩, ?_, ?_⟩
  · simpa [notice, record] using hb.account
  · simpa [notice, record] using hb.fresh

/-- The attempt after all others opens a connection of its own. -/
theorem opened (hb : Balanced j held) (hh : h.number = j.attempts) :
    Balanced ({ j with attempts := j.attempts + 1 }.record (.opened h)) (h :: held) := by
  have hnew : h ∉ openings j.events := fun hmem => Nat.lt_irrefl _ (hh ▸ hb.fresh h hmem)
  refine ⟨orderly_snoc.mpr ⟨hb.orderly, hnew⟩, ?_, ?_⟩
  · simp only [record, openings_append, openings_opened, openings_nil, closings_append, closings_opened, closings_nil,
      List.append_nil]
    exact (List.perm_append_singleton _ _).trans ((hb.account.cons h).trans List.perm_middle.symm)
  · intro x hx
    simp only [record, openings_append, openings_opened, openings_nil, List.mem_append, List.mem_singleton] at hx
    rcases hx with hx | rfl
    · exact Nat.lt_succ_of_lt (hb.fresh x hx)
    · exact hh ▸ Nat.lt_succ_self _

theorem closed (hb : Balanced j (h :: held)) : Balanced (j.record (.closed h)) held := by
  refine ⟨orderly_snoc.mpr ⟨hb.orderly, hb.isOpen List.mem_cons_self⟩, ?_, ?_⟩
  · simpa [record] using hb.account
  · simpa [record] using hb.fresh

theorem ran (hb : Balanced j held) (hh : h ∈ held) (sql : String) : Balanced (j.record (.ran h sql)) held := by
  refine ⟨orderly_snoc.mpr ⟨hb.orderly, hb.isOpen hh⟩, ?_, ?_⟩
  · simpa [record] using hb.account
  · simpa [record] using hb.fresh

end Balanced

end Journal

end SqlComposer
