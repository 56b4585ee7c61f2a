/-
  SqlComposer.Proofs.Dsn.Passwords — names that differ in their passwords alone.

  Two lists of pairs are alike when they say the same but for passwords, and no password
  that differs is blank. A masked name is the name without its password.

  Proved: lists that are alike give the same fault, or names that are the same under the
  mask (`ofPairs_alike`); and what a name shows of itself and which engine takes it is all
  in the masked name (`inspect_masked`, `validate_masked`).
-/

import SqlComposer.Proofs.Dsn.Given

namespace SqlComposer

namespace Dsn

/-! ## Masks -/

/-- What stands in the place of every password. -/
def mask : String := "<redacted>"

def masked (d : Dsn) : Dsn := { d with password := mask }

theorem masked_eq_iff {d d' : Dsn} : d.masked = d'.masked ↔ d' = { d with password := d'.password } := by
  obtain ⟨⟩ := d
  obtain ⟨⟩ := d'
  simp [masked, eq_comm]

@[simp] theorem inspect_masked (d : Dsn) : d.masked.inspect = d.inspect := rfl

@[simp] theorem validate_masked (d : Dsn) (engine : Engine) : d.masked.validate engine = d.validate engine := by
  cases engine <;> rfl

/-! ## Pairs -/

/-- The pairs are the same, or give one key two passwords, neither of them blank. -/
def PairAlike (p q : String × String) : Prop :=
  p = q ∨ p.1 = q.1 ∧ DsnKey.ofText p.1 = some .password ∧ Text.isBlank p.2 = false ∧ Text.isBlank q.2 = false

/-- The lists differ in passwords at most. -/
abbrev Alike : List (String × String) → List (String × String) → Prop := List.Forall₂ PairAlike

/-- The value under its key, masked when it is a password. -/
def maskValue (k : DsnKey) (v : String) : String := if k = .password ∧ Text.isBlank v = false then mask else v

def maskFields (fields : List (DsnKey × String)) : List (DsnKey × String) := fields.map fun (k, v) => (k, maskValue k v)

theorem maskFields_append (xs ys : List (DsnKey × String)) : maskFields (xs ++ ys) = maskFields xs ++ maskFields ys :=
  List.map_append

theorem value?_maskFields (fields : List (DsnKey × String)) (k : DsnKey) :
    value? (maskFields fields) k = (value? fields k).map (maskValue k) := by
  induction fields with
  | nil => rfl
  | cons p fields ih =>
    obtain ⟨k', v⟩ := p
    by_cases hk : k' = k
    · simp [value?, maskFields, hk]
    · simpa [value?, maskFields, hk] using ih

theorem PairAlike.maskValue_eq {p q : String × String} (h : PairAlike p q) {k : DsnKey} (hk : DsnKey.ofText p.1 = some k) :
    maskValue k p.2 = maskValue k q.2 := by
  rcases h with rfl | ⟨-, hpassword, hp, hq⟩
  · rfl
  · obtain rfl : k = .password := Option.some.inj (hk.symm.trans hpassword)
    rw [maskValue, maskValue, if_pos ⟨rfl, hp⟩, if_pos ⟨rfl, hq⟩]

/-- Lists that are alike are read alike, behind fields that are alike. -/
theorem fieldsOf_alike {pairs pairs' : List (String × String)} (h : Alike pairs pairs')
    {done done' : List (DsnKey × String)} (hdone : maskFields done = maskFields done') :
    (fieldsOf done pairs).map maskFields = (fieldsOf done' pairs').map maskFields := by
  induction h generalizing done done' with
  | nil => exact congrArg Except.ok hdone
  | @cons p q pairs pairs' hpair _ ih =>
    have hkey : p.1 = q.1 := hpair.elim (congrArg Prod.fst) (·.1)
    rw [fieldsOf, fieldsOf, ← hkey]
    cases hk : DsnKey.ofText p.1 with
    | none => rfl
    | some k =>
      have hseen : (value? done k).isSome = (value? done' k).isSome := by
        have hmasked := congrArg (fun fields => (value? fields k).isSome) hdone
        simpa only [value?_maskFields, Option.isSome_map] using hmasked
      dsimp only
      rw [hseen]
      split
      · rfl
      · refine ih ?_
        rw [maskFields_append, maskFields_append, hdone]
        exact congrArg (fun v => maskFields done' ++ [(k, v)]) (hpair.maskValue_eq hk)

/-! ## Names -/

theorem value?_maskFields_of_ne (fields : List (DsnKey × String)) {k : DsnKey} (hk : k ≠ .password) :
    value? (maskFields fields) k = value? fields k := by
  have hid : maskValue k = id := by
    funext v
    rw [maskValue, if_neg fun h => hk h.1]
    rfl
  rw [value?_maskFields, hid, Option.map_id_apply]

theorem required_maskFields_of_ne (fields : List (DsnKey × String)) {k : DsnKey} (hk : k ≠ .password)
    (fault : ConfigFault) : required (maskFields fields) k fault = required fields k fault := by
  rw [required, required, value?_maskFields_of_ne fields hk]

theorem required_maskFields_password (fields : List (DsnKey × String)) (fault : ConfigFault) :
    required (maskFields fields) .password fault = (required fields .password fault).map fun _ => mask := by
  rw [required, required, value?_maskFields]
  cases value? fields .password with
  | none => rfl
  | some v =>
    cases hv : Text.isBlank v with
    | true => simp [maskValue, hv, Except.map]
    | false =>
      have hmask : Text.isBlank mask = false := by decide
      simp [maskValue, hv, hmask, Except.map]

/-- Masked fields give the masked name. -/
theorem ofFields_maskFields (fields : List (DsnKey × String)) :
    ofFields (maskFields fields) = (ofFields fields).map masked := by
  unfold ofFields
  rw [required_maskFields_of_ne fields (k := .database) (by decide), required_maskFields_of_ne fields (k := .server) (by decide),
    required_maskFields_of_ne fields (k := .username) (by decide), required_maskFields_password,
    value?_maskFields_of_ne fields (k := .port) (by decide), value?_maskFields_of_ne fields (k := .options) (by decide)]
  -- each step fails with the same fault on both sides, or goes on
  cases required fields .database .noDatabase with
  | error f => rfl
  | ok database =>
    cases required fields .server .noServer with
    | error f => rfl
    | ok server =>
      cases required fields .username .noUser with
      | error f => rfl
      | ok username =>
        cases required fields .password .noPassword with
        | error f => rfl
        | ok password =>
          cases value? fields .port with
          | none => rfl
          | some p =>
            dsimp only
            generalize readPort p = port
            cases port <;> rfl

theorem ofPairs_alike {pairs pairs' : List (String × String)} (h : Alike pairs pairs') :
    (ofPairs pairs).map masked = (ofPairs pairs').map masked := by
  rw [ofPairs, ofPairs]
  rcases map_eq_map (fieldsOf_alike h rfl) with ⟨f, hf, hf'⟩ | ⟨fields, fields', hok, hok', hmask⟩
  · rw [hf, hf']
  · rw [hok, hok']
    show (ofFields fields).map masked = (ofFields fields').map masked
    rw [← ofFields_maskFields, ← ofFields_maskFields, hmask]

end Dsn

end SqlComposer
