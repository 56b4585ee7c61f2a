/-
  SqlComposer.Proofs.Dsn.Given — what a list of pairs says, and the name it gives.

  A pair says something about the key that its first text spells; of several about one
  key the first counts.

  Proved: a name that pairs give is what they say (`gives_of_ofPairs`), and as none of them
  repeats another's key, every one of them counts (`given_of_mem`).
-/

import SqlComposer.Dsn.Basic
import SqlComposer.Proofs.Succeeding

namespace SqlComposer

namespace Dsn

/-- What pairs say about a key. -/
def given (pairs : List (String × String)) (k : DsnKey) : Option String :=
  (pairs.find? fun p => DsnKey.ofText p.1 == some k).map (·.2)

/-- The name says what the pairs say: server and port are trimmed, and blank options are none. -/
structure Gives (pairs : List (String × String)) (d : Dsn) : Prop where
  server : (given pairs .server).map Text.trim = some d.server
  port : (given pairs .port).map readPort = d.port.map .ok
  database : given pairs .database = some d.database
  username : given pairs .username = some d.username
  password : given pairs .password = some d.password
  options : (given pairs .options).filter (!Text.isBlank ·) = d.options

/-! ## Pairs under their keys -/

theorem given_cons (p : String × String) (pairs : List (String × String)) (k : DsnKey) :
    given (p :: pairs) k = if DsnKey.ofText p.1 = some k then some p.2 else given pairs k := by
  rw [given, List.find?_cons]
  by_cases hk : DsnKey.ofText p.1 = some k
  · simp only [hk, beq_self_eq_true, if_true, Option.map_some]
  · simp only [beq_eq_false_iff_ne.mpr hk, if_neg hk, given]

theorem given_append (xs ys : List (String × String)) (k : DsnKey) :
    given (xs ++ ys) k = (given xs k).or (given ys k) := by
  simp only [given, List.find?_append, Option.map_or]

theorem value?_append (xs ys : List (DsnKey × String)) (k : DsnKey) :
    value? (xs ++ ys) k = (value? xs k).or (value? ys k) := by
  simp only [value?, List.find?_append, Option.map_or]

theorem value?_singleton (k' k : DsnKey) (v : String) : value? [(k', v)] k = if k' = k then some v else none := by
  by_cases hk : k' = k <;> simp [value?, hk]

/-- One pair more: its key is known and new. -/
theorem fieldsOf_cons {done fields : List (DsnKey × String)} {p : String × String} {pairs : List (String × String)}
    (h : fieldsOf done (p :: pairs) = .ok fields) :
    ∃ k, DsnKey.ofText p.1 = some k ∧ value? done k = none ∧ fieldsOf (done ++ [(k, p.2)]) pairs = .ok fields := by
  obtain ⟨key, v⟩ := p
  simp only [fieldsOf] at h
  cases hk : DsnKey.ofText key with
  | none => simp [hk] at h
  | some k =>
    cases hd : value? done k with
    | some w => simp [hk, hd] at h
    | none =>
      refine ⟨k, rfl, hd, ?_⟩
      simpa [hk, hd] using h

/-- Under a key stands what was read already, else what the pairs say. -/
theorem value?_fieldsOf {done fields : List (DsnKey × String)} {pairs : List (String × String)}
    (h : fieldsOf done pairs = .ok fields) (k : DsnKey) : value? fields k = (value? done k).or (given pairs k) := by
  induction pairs generalizing done with
  | nil =>
    obtain rfl := Except.ok.inj h
    simp [given]
  | cons p pairs ih =>
    obtain ⟨k', hk', hnew, hrest⟩ := fieldsOf_cons h
    rw [ih hrest, value?_append, Option.or_assoc, value?_singleton, given_cons, hk']
    by_cases hk : k' = k
    · simp [hk]
    · simp [hk]

/-- A pair counts: neither what was read already nor an earlier pair has its key. -/
theorem given_of_mem_fieldsOf {done fields : List (DsnKey × String)} {pairs : List (String × String)}
    (h : fieldsOf done pairs = .ok fields) {p : String × String} (hp : p ∈ pairs) :
    ∃ k, DsnKey.ofText p.1 = some k ∧ value? done k = none ∧ given pairs k = some p.2 := by
  induction pairs generalizing done with
  | nil => cases hp
  | cons q pairs ih =>
    obtain ⟨k', hk', hnew, hrest⟩ := fieldsOf_cons h
    rcases List.mem_cons.mp hp with rfl | hp
    · exact ⟨k', hk', hnew, by rw [given_cons, if_pos hk']⟩
    · obtain ⟨k, hk, hdone, hgiven⟩ := ih hrest hp
      rw [value?_append, value?_singleton, Option.or_eq_none_iff] at hdone
      have hne : k' ≠ k := by
        rintro rfl
        simp at hdone
      refine ⟨k, hk, hdone.1, ?_⟩
      rw [given_cons, hk', if_neg (by simpa using hne), hgiven]

/-! ## Names -/

theorem value?_of_required {fields : List (DsnKey × String)} {k : DsnKey} {fault : ConfigFault} {v : String}
    (h : required fields k fault = .ok v) : value? fields k = some v := by
  unfold required at h
  split at h
  · next w hw =>
    split at h
    · cases h
    · rw [hw, Except.ok.inj h]
  · cases h

theorem required_ok {fields : List (DsnKey × String)} {k : DsnKey} {fault : ConfigFault} {v : String}
    (h : required fields k fault = .ok v) : Text.isBlank v = false := by
  unfold required at h
  split at h
  · split at h
    · cases h
    · next hv =>
      obtain rfl := Except.ok.inj h
      simpa using hv
  · cases h

theorem ofPairs_ok {pairs : List (String × String)} {d : Dsn} (h : ofPairs pairs = .ok d) :
    ∃ fields, fieldsOf [] pairs = .ok fields ∧ ofFields fields = .ok d :=
  bind_ok h

/-- What the fields of a name are: the required ones, and the port and the options as far as they are there. -/
theorem ofFields_ok {fields : List (DsnKey × String)} {d : Dsn} (h : ofFields fields = .ok d) :
    ∃ server, required fields .server .noServer = .ok server ∧ d.server = Text.trim server ∧
      required fields .database .noDatabase = .ok d.database ∧ required fields .username .noUser = .ok d.username ∧
      required fields .password .noPassword = .ok d.password ∧
      (value? fields .port).map readPort = d.port.map .ok ∧
      (value? fields .options).filter (!Text.isBlank ·) = d.options := by
  obtain ⟨database, hdatabase, h⟩ := bind_ok h
  obtain ⟨server, hserver, h⟩ := bind_ok h
  obtain ⟨username, husername, h⟩ := bind_ok h
  obtain ⟨password, hpassword, h⟩ := bind_ok h
  cases hp : value? fields .port with
  | none =>
    rw [hp] at h
    obtain rfl := Except.ok.inj h
    exact ⟨server, hserver, rfl, hdatabase, husername, hpassword, rfl, rfl⟩
  | some p =>
    rw [hp] at h
    obtain ⟨port, hport, h⟩ := bind_ok h
    obtain ⟨n, hn, rfl⟩ := map_ok hport
    obtain rfl := Except.ok.inj h
    exact ⟨server, hserver, rfl, hdatabase, husername, hpassword, congrArg some hn, rfl⟩

theorem gives_of_ofPairs {pairs : List (String × String)} {d : Dsn} (h : ofPairs pairs = .ok d) : Gives pairs d := by
  obtain ⟨fields, hfields, h⟩ := ofPairs_ok h
  obtain ⟨server, hserver, htrim, hdatabase, husername, hpassword, hport, hoptions⟩ := ofFields_ok h
  have hgiven (k : DsnKey) : given pairs k = value? fields k := by
    rw [value?_fieldsOf hfields]
    rfl
  exact {
    server := by rw [hgiven, value?_of_required hserver, htrim, Option.map_some]
    port := by rw [hgiven, hport]
    database := by rw [hgiven, value?_of_required hdatabase]
    username := by rw [hgiven, value?_of_required husername]
    password := by rw [hgiven, value?_of_required hpassword]
    options := by rw [hgiven, hoptions] }

theorem given_of_mem {pairs : List (String × String)} {d : Dsn} (h : ofPairs pairs = .ok d) {p : String × String}
    (hp : p ∈ pairs) : ∃ k, DsnKey.ofText p.1 = some k ∧ given pairs k = some p.2 := by
  obtain ⟨fields, hfields, -⟩ := ofPairs_ok h
  obtain ⟨k, hk, -, hgiven⟩ := given_of_mem_fieldsOf hfields hp
  exact ⟨k, hk, hgiven⟩

end Dsn

end SqlComposer
