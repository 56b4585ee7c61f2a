/-
  SqlComposer.Proofs.Connection.Entries — how the list of open connections changes.

  Proved:
  (1) exchanging and taking act on the first entry under the key, and fail only without
      one (`exchange_of_split`, `take_of_split`, `take_of_not_mem`);
  (2) what `put` did, exchanging the old entry back or taking the new one out undoes
      (`exchange_put`, `take_put`);
  (3) no connection is lost on the way (`handles_put`, `handles_take`), and keys stay
      distinct (`nodup_keys_put`, `nodup_keys_take`).
-/

import Mathlib.Data.List.Nodup
import SqlComposer.Connection.Entry

namespace SqlComposer

namespace Entries

variable {key k : ConnectionKey} {new old : Entry} {es es' front back : Entries}

def handles (es : Entries) : List Handle := es.map (·.handle)

theorem has_iff : has key es = true ↔ key ∈ keys es := by
  simp only [has, find?, List.find?_isSome, keys, List.mem_map, beq_iff_eq]

theorem mem_of_find? (h : find? key es = some old) : old ∈ es ∧ old.key = key := by
  unfold find? at h
  exact ⟨List.mem_of_find?_eq_some h, by simpa using List.find?_some h⟩

/-- Where keys are distinct, a key is found at the one entry that has it. -/
theorem find?_unique (hn : (keys es).Nodup) (hk : key ∈ keys es) :
    ∃ e, find? key es = some e ∧ e ∈ es ∧ e.key = key ∧ ∀ e' ∈ es, e'.key = key → e' = e := by
  obtain ⟨e, he⟩ := Option.isSome_iff_exists.mp (has_iff.mpr hk)
  obtain ⟨hmem, hkey⟩ := mem_of_find? he
  exact ⟨e, he, hmem, hkey, fun e' he' hkey' => List.inj_on_of_nodup_map hn he' hmem (hkey'.trans hkey.symm)⟩

/-! ## Exchanging and taking -/

/-- A list of entries has none under a key, or a first one. -/
theorem split_at_key (key : ConnectionKey) (es : Entries) :
    key ∉ keys es ∨
      ∃ old front back, es = front ++ old :: back ∧ old.key = key ∧ ∀ e ∈ front, e.key ≠ key := by
  induction es with
  | nil => exact .inl List.not_mem_nil
  | cons e es ih =>
    by_cases he : e.key = key
    · exact .inr ⟨e, [], es, rfl, he, fun _ h => by cases h⟩
    · rcases ih with hnot | ⟨old, front, back, rfl, hold, hfront⟩
      · refine .inl ?_
        rw [keys, List.map_cons, List.mem_cons, not_or]
        exact ⟨fun h => he h.symm, hnot⟩
      · exact .inr ⟨old, e :: front, back, rfl, hold, List.forall_mem_cons.mpr ⟨he, hfront⟩⟩

theorem exchange_of_split (hfront : ∀ e ∈ front, e.key ≠ new.key) (hold : old.key = new.key) :
    exchange new (front ++ old :: back) = some (old, front ++ new :: back) := by
  induction front with
  | nil => simp [exchange, hold]
  | cons e front ih =>
    obtain ⟨he, hfront⟩ := List.forall_mem_cons.mp hfront
    rw [List.cons_append, exchange, beq_false_of_ne he, ih hfront]
    rfl

theorem exchange_of_not_mem (h : new.key ∉ keys es) : exchange new es = none := by
  induction es with
  | nil => rfl
  | cons e es ih =>
    rw [keys, List.map_cons, List.mem_cons, not_or] at h
    rw [exchange, beq_false_of_ne fun he => h.1 he.symm, ih h.2]
    rfl

theorem take_of_split (hfront : ∀ e ∈ front, e.key ≠ key) (hold : old.key = key) :
    take key (front ++ old :: back) = some (old, front ++ back) := by
  induction front with
  | nil => simp [take, hold]
  | cons e front ih =>
    obtain ⟨he, hfront⟩ := List.forall_mem_cons.mp hfront
    rw [List.cons_append, take, beq_false_of_ne he, ih hfront]
    rfl

theorem take_of_not_mem (h : key ∉ keys es) : take key es = none := by
  induction es with
  | nil => rfl
  | cons e es ih =>
    rw [keys, List.map_cons, List.mem_cons, not_or] at h
    rw [take, beq_false_of_ne fun he => h.1 he.symm, ih h.2]
    rfl

theorem take_eq_some (h : take key es = some (old, es')) :
    ∃ front back, es = front ++ old :: back ∧ es' = front ++ back ∧ old.key = key := by
  rcases split_at_key key es with hnot | ⟨old', front, back, rfl, hold, hfront⟩
  · rw [take_of_not_mem hnot] at h; cases h
  · rw [take_of_split hfront hold] at h
    cases h
    exact ⟨front, back, rfl, rfl, hold⟩

theorem handles_take (h : take key es = some (old, es')) : (handles es).Perm (old.handle :: handles es') := by
  obtain ⟨front, back, rfl, rfl, _⟩ := take_eq_some h
  simp only [handles, List.map_append, List.map_cons]
  exact List.perm_middle

theorem mem_of_mem_take (h : take key es = some (old, es')) {e : Entry} (he : e ∈ es') : e ∈ es := by
  obtain ⟨front, back, rfl, rfl, _⟩ := take_eq_some h
  exact List.perm_middle.mem_iff.mpr (List.mem_cons_of_mem _ he)

theorem nodup_keys_take (h : take key es = some (old, es')) (hn : (keys es).Nodup) :
    (keys es').Nodup ∧ key ∉ keys es' ∧ ∀ k ∈ keys es, k ≠ key → k ∈ keys es' := by
  obtain ⟨front, back, rfl, rfl, rfl⟩ := take_eq_some h
  simp only [keys, List.map_append, List.map_cons] at hn ⊢
  obtain ⟨hnot, hn⟩ := List.nodup_cons.mp (List.perm_middle.nodup_iff.mp hn)
  refine ⟨hn, hnot, fun k hk hne => ?_⟩
  exact (List.mem_cons.mp (List.perm_middle.mem_iff.mp hk)).resolve_left hne

/-- Taking the entry found under a key leaves those under other keys. -/
theorem take_of_find? (h : find? key es = some old) (hn : (keys es).Nodup) :
    ∃ es', take key es = some (old, es') ∧ es' = es.filter (·.key != key) := by
  rcases split_at_key key es with hnot | ⟨old', front, back, rfl, hold, hfront⟩
  · obtain ⟨hmem, hkey⟩ := mem_of_find? h
    exact absurd (List.mem_map.mpr ⟨old, hmem, hkey⟩) hnot
  · have ht : take key (front ++ old' :: back) = some (old', front ++ back) := take_of_split hfront hold
    obtain ⟨_, hleft, _⟩ := nodup_keys_take ht hn
    have hkept : ∀ e ∈ front ++ back, (e.key != key) = true :=
      fun e he => bne_iff_ne.mpr fun hk => hleft (hk ▸ List.mem_map_of_mem he)
    have hfound : find? key (front ++ old' :: back) = some old' := by
      rw [find?, List.find?_append, List.find?_eq_none.mpr fun e he => by simpa using hfront e he]
      simp [hold]
    cases hfound.symm.trans h
    refine ⟨front ++ back, ht, ?_⟩
    rw [List.filter_append, List.filter_cons_of_neg (by simp [hold]), ← List.filter_append]
    exact (List.filter_eq_self.mpr hkept).symm

/-! ## Putting -/

/-- An entry takes the place of the first one under its key, or else the last place. -/
theorem put_cases (new : Entry) (es : Entries) :
    (∃ old front back, es = front ++ old :: back ∧ old.key = new.key ∧ (∀ e ∈ front, e.key ≠ new.key) ∧
      put new es = (some old, front ++ new :: back)) ∨
    new.key ∉ keys es ∧ put new es = (none, es ++ [new]) := by
  rcases split_at_key new.key es with hnot | ⟨old, front, back, rfl, hold, hfront⟩
  · exact .inr ⟨hnot, by rw [put, exchange_of_not_mem hnot]⟩
  · exact .inl ⟨old, front, back, rfl, hold, hfront, by rw [put, exchange_of_split hfront hold]⟩

theorem exchange_put (h : put new es = (some old, es')) : exchange old es' = some (new, es) := by
  rcases put_cases new es with ⟨old', front, back, rfl, hold, hfront, hput⟩ | ⟨_, hput⟩
  · cases hput.symm.trans h
    exact exchange_of_split (fun e he => hold ▸ hfront e he) hold.symm
  · cases hput.symm.trans h

theorem take_put (h : put new es = (none, es')) : take new.key es' = some (new, es) := by
  rcases put_cases new es with ⟨old', front, back, rfl, hold, hfront, hput⟩ | ⟨hnot, hput⟩
  · cases hput.symm.trans h
  · cases hput.symm.trans h
    have hfront : ∀ e ∈ es, e.key ≠ new.key := fun e he hk => hnot (List.mem_map.mpr ⟨e, he, hk⟩)
    have ht : take new.key (es ++ [new]) = some (new, es ++ []) := take_of_split hfront rfl
    rw [ht, List.append_nil]

theorem handles_put (new : Entry) (es : Entries) :
    (handles (put new es).2 ++ handles (put new es).1.toList).Perm (new.handle :: handles es) := by
  rcases put_cases new es with ⟨old, front, back, rfl, _, _, hput⟩ | ⟨_, hput⟩
  · rw [hput]
    simp only [handles, List.map_append, List.map_cons, Option.toList_some, List.map_nil, List.append_assoc]
    have hold : (back.map (·.handle) ++ [old.handle]).Perm (old.handle :: back.map (·.handle)) :=
      List.perm_append_singleton _ _
    exact List.perm_middle.trans ((hold.append_left _).cons _)
  · rw [hput]
    simp only [handles, List.map_append, List.map_cons, Option.toList_none, List.map_nil, List.append_nil]
    exact List.perm_append_singleton _ _

theorem mem_of_mem_put {e : Entry} (he : e ∈ (put new es).2) : e = new ∨ e ∈ es := by
  rcases put_cases new es with ⟨old, front, back, rfl, _, _, hput⟩ | ⟨_, hput⟩
  · rw [hput] at he
    rcases List.mem_cons.mp (List.perm_middle.mem_iff.mp he) with rfl | he
    · exact .inl rfl
    · exact .inr (List.perm_middle.mem_iff.mpr (List.mem_cons_of_mem _ he))
  · rw [hput] at he
    rcases List.mem_append.mp he with he | he
    · exact .inr he
    · exact .inl (List.mem_singleton.mp he)

theorem mem_keys_put (new : Entry) (es : Entries) : k ∈ keys (put new es).2 ↔ k = new.key ∨ k ∈ keys es := by
  rcases put_cases new es with ⟨old, front, back, rfl, hold, _, hput⟩ | ⟨_, hput⟩
  · simp only [hput, keys, List.map_append, List.map_cons, List.mem_append, List.mem_cons, hold]
    exact ⟨fun h => .inr h, fun h => h.elim (fun h => .inr (.inl h)) id⟩
  · simp only [hput, keys, List.map_append, List.map_cons, List.map_nil, List.mem_append, List.mem_singleton]
    exact Or.comm

theorem nodup_keys_put (new : Entry) (es : Entries) (hn : (keys es).Nodup) : (keys (put new es).2).Nodup := by
  rcases put_cases new es with ⟨old, front, back, rfl, hold, _, hput⟩ | ⟨hnot, hput⟩
  · rw [hput]
    simpa only [keys, List.map_append, List.map_cons, hold] using hn
  · rw [hput, keys, List.map_append]
    exact (List.perm_append_singleton _ _).nodup_iff.mpr (List.nodup_cons.mpr ⟨hnot, hn⟩)

end Entries

end SqlComposer
