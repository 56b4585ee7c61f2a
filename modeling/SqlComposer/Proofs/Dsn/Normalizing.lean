/-
  SqlComposer.Proofs.Dsn.Normalizing — a list of pairs counts by what it says.

  What a pair says is the key that its first text spells, and its value: the content of a
  list (`Dsn.said`). Neither the spelling of a key nor the place of a pair is in it.

  Proved (`Dsn.ofPairs_normalizes`):
  (1) a list is a name exactly when every text spells a key, no key is given twice, the
      four necessary values are there and not blank, and a port is a port (`Accepted`);
  (2) the name then holds what the list says, and nothing else (`Contents`);
  (3) a list that is refused gives the fault for a reason of that kind (`Refused`), and all
      of these faults are faults of a configuration;
  (4) so lists of the same content, in any order and under any spellings of the keys, give
      the same name, or are all refused.
-/

import Mathlib.Data.List.Nodup
import SqlComposer.Proofs.Dsn.Given
import SqlComposer.Proofs.Number.Integers

namespace SqlComposer

/-! ## Spellings -/

namespace DsnKey

/-- The accepted spellings of a key, in lower case. -/
def spellings : DsnKey → List String
  | .server => ["host", "server"]
  | .database => ["dbname", "database"]
  | .username => ["user", "username"]
  | .password => ["password"]
  | .port => ["port"]
  | .options => ["options"]

/-- Blanks around a key and the case of its letters mean nothing. -/
theorem ofText_eq_some {text : String} {k : DsnKey} :
    ofText text = some k ↔ Text.lower (Text.trim text) ∈ k.spellings := by
  unfold ofText
  dsimp only
  generalize Text.lower (Text.trim text) = word
  constructor
  · intro h
    repeat' split at h
    all_goals cases h
    all_goals simp_all [spellings]
  · intro h
    cases k <;> simp only [spellings, List.mem_cons, List.not_mem_nil, or_false] at h
    case server => rcases h with rfl | rfl <;> rfl
    case database => rcases h with rfl | rfl <;> rfl
    case username => rcases h with rfl | rfl <;> rfl
    all_goals
      subst h
      rfl

end DsnKey

namespace Dsn

/-! ## Ports -/

/-- A port number: decimal digits, behind a plus sign or not, with blanks around them. -/
def IsPort (text : String) (n : UInt16) : Prop :=
  ∃ ds : List Char, ((Text.trim text).toList = ds ∨ (Text.trim text).toList = '+' :: ds) ∧ ds ≠ [] ∧
    (∀ c ∈ ds, c.isDigit = true) ∧ Nat.ofDigitChars 10 ds 0 = n.toNat

theorem readPort_ok_iff {text : String} {n : UInt16} : readPort text = .ok n ↔ IsPort text n := by
  have hhighest : (IntegerRange.unsigned 16).highest = 65535 := by decide
  have hread (m : Int) : Integer.ofChars (.unsigned 16) (Text.trim text).toList = .ok m ↔ _ :=
    Integer.ofChars_ok_iff rfl (by decide)
  rw [hhighest] at hread
  constructor
  · intro h
    unfold readPort Integer.read at h
    cases hm : Integer.ofChars (.unsigned 16) (Text.trim text).toList with
    | error e =>
      rw [hm] at h
      cases h
    | ok m =>
      rw [hm] at h
      obtain rfl := Except.ok.inj h
      obtain ⟨ds, hcs, hne, hdigit, rfl, hle⟩ := (hread m).mp hm
      refine ⟨ds, hcs, hne, hdigit, ?_⟩
      rw [Int.toNat_natCast, UInt16.toNat_ofNat_of_lt']
      show Nat.ofDigitChars 10 ds 0 < 65536
      omega
  · rintro ⟨ds, hcs, hne, hdigit, hn⟩
    have hlt := n.toNat_lt
    have hm := (hread (Nat.ofDigitChars 10 ds 0)).mpr ⟨ds, hcs, hne, hdigit, rfl, by omega⟩
    unfold readPort Integer.read
    rw [hm]
    simp [hn]

/-! ## What a list says -/

/-- The content of a list: which key each pair is about, and its value. -/
def said (pairs : List (String × String)) : List (Option DsnKey × String) := pairs.map fun p => (DsnKey.ofText p.1, p.2)

/-- The keys the pairs are about. -/
def keysOf (pairs : List (String × String)) : List (Option DsnKey) := (said pairs).map (·.1)

/-- The keys that must be there, with the fault of a list without one. -/
def necessary : List (DsnKey × ConfigFault) :=
  [(.database, .noDatabase), (.server, .noServer), (.username, .noUser), (.password, .noPassword)]

/-- Every text spells a key and none is given twice; the necessary values are not blank, and a port is a port. -/
structure Accepted (pairs : List (String × String)) : Prop where
  known : none ∉ keysOf pairs
  distinct : (keysOf pairs).Nodup
  present : ∀ k f, (k, f) ∈ necessary → ∃ v, (some k, v) ∈ said pairs ∧ Text.isBlank v = false
  port : ∀ v, (some .port, v) ∈ said pairs → ∃ n, IsPort v n

/-- The name holds what the list says: the server trimmed, all else as it is, and no blank options. -/
structure Contents (pairs : List (String × String)) (d : Dsn) : Prop where
  server : ∃ v, (some .server, v) ∈ said pairs ∧ d.server = Text.trim v
  database : (some .database, d.database) ∈ said pairs
  username : (some .username, d.username) ∈ said pairs
  password : (some .password, d.password) ∈ said pairs
  port : ∀ n, d.port = some n ↔ ∃ v, (some .port, v) ∈ said pairs ∧ IsPort v n
  options : ∀ v, d.options = some v ↔ (some .options, v) ∈ said pairs ∧ Text.isBlank v = false

/-- Why a list is refused, by the fault it is refused with. -/
inductive Refused (pairs : List (String × String)) : ConfigFault → Prop
  | unknown {p : String × String} : p ∈ pairs → DsnKey.ofText p.1 = none → Refused pairs (.unknownKey p.1)
  | repeated {k : DsnKey} : 2 ≤ (keysOf pairs).count (some k) → Refused pairs (.duplicateKey k.name)
  | missing {k : DsnKey} {f : ConfigFault} : (k, f) ∈ necessary →
      (∀ v, (some k, v) ∈ said pairs → Text.isBlank v = true) → Refused pairs f
  | badPort {v : String} : (some .port, v) ∈ said pairs → (∀ n, ¬ IsPort v n) → Refused pairs (.badPort v)

theorem said_cons (p : String × String) (pairs : List (String × String)) :
    said (p :: pairs) = (DsnKey.ofText p.1, p.2) :: said pairs := rfl

theorem keysOf_cons (p : String × String) (pairs : List (String × String)) :
    keysOf (p :: pairs) = DsnKey.ofText p.1 :: keysOf pairs := by
  rw [keysOf, said_cons, List.map_cons, keysOf]

theorem mem_keysOf {pairs : List (String × String)} {k : Option DsnKey} {v : String} (h : (k, v) ∈ said pairs) :
    k ∈ keysOf pairs := List.mem_map_of_mem h

theorem eq_of_said {pairs : List (String × String)} (h : (keysOf pairs).Nodup) {k : Option DsnKey} {v w : String}
    (hv : (k, v) ∈ said pairs) (hw : (k, w) ∈ said pairs) : v = w := by
  have hpair : (k, v) = (k, w) := List.inj_on_of_nodup_map h hv hw rfl
  exact congrArg Prod.snd hpair

/-- What is given first is all that is said, where no key is given twice. -/
theorem given_eq_some {pairs : List (String × String)} (h : (keysOf pairs).Nodup) {k : DsnKey} {v : String} :
    given pairs k = some v ↔ (some k, v) ∈ said pairs := by
  induction pairs with
  | nil => simp [given, said]
  | cons p pairs ih =>
    obtain ⟨hnew, hrest⟩ := List.nodup_cons.mp (keysOf_cons p pairs ▸ h)
    rw [given_cons, said_cons, List.mem_cons, Prod.mk.injEq]
    by_cases hk : DsnKey.ofText p.1 = some k
    · have hother : (some k, v) ∉ said pairs := by
        intro hmem
        rw [hk] at hnew
        exact hnew (mem_keysOf hmem)
      rw [if_pos hk, hk]
      simp [hother, eq_comm]
    · rw [if_neg hk, ih hrest]
      simp [Ne.symm hk]

/-! ## Lists that are taken -/

/-- A value is there under the keys that were read. -/
theorem isSome_value? {done : List (DsnKey × String)} {k : DsnKey} :
    (value? done k).isSome = true ↔ k ∈ done.map (·.1) := by
  rw [value?, Option.isSome_map, List.find?_isSome]
  simp

/-- Every key is known, and none is read twice. -/
theorem nodup_of_fieldsOf {done fields : List (DsnKey × String)} {pairs : List (String × String)}
    (h : fieldsOf done pairs = .ok fields) (hdone : (done.map (·.1)).Nodup) :
    none ∉ keysOf pairs ∧ (done.map (fun p => some p.1) ++ keysOf pairs).Nodup := by
  induction pairs generalizing done with
  | nil =>
    refine ⟨by simp [keysOf, said], ?_⟩
    have hsome : done.map (fun p => some p.1) = (done.map (·.1)).map some := by simp
    simpa [keysOf, said, hsome] using hdone.map fun _ _ he => Option.some.inj he
  | cons p pairs ih =>
    obtain ⟨k, hk, hnew, hrest⟩ := fieldsOf_cons h
    have hdone' : ((done ++ [(k, p.2)]).map (·.1)).Nodup := by
      have hfresh : k ∉ done.map (·.1) := by simp [← isSome_value?, hnew]
      rw [List.map_append, List.map_singleton, ← List.concat_eq_append]
      exact List.Nodup.concat hfresh hdone
    obtain ⟨hknown, hall⟩ := ih hrest hdone'
    rw [keysOf_cons, hk]
    refine ⟨by simpa using hknown, ?_⟩
    simpa using hall

/-- What is read under the keys is what is said. -/
theorem said_of_fieldsOf {fields : List (DsnKey × String)} {pairs : List (String × String)}
    (h : fieldsOf [] pairs = .ok fields) :
    none ∉ keysOf pairs ∧ (keysOf pairs).Nodup ∧ ∀ {k v}, value? fields k = some v ↔ (some k, v) ∈ said pairs := by
  obtain ⟨hknown, hall⟩ := nodup_of_fieldsOf h (by simp)
  have hdistinct : (keysOf pairs).Nodup := by simpa using hall
  refine ⟨hknown, hdistinct, ?_⟩
  intro k v
  rw [value?_fieldsOf h, ← given_eq_some hdistinct]
  rfl

/-- A port that is there and read is the number of the text. -/
theorem port_iff {text : Option String} {port : Option UInt16} (h : text.map readPort = port.map .ok) (n : UInt16) :
    port = some n ↔ ∃ v, text = some v ∧ IsPort v n := by
  cases text with
  | none =>
    cases port with
    | none => simp
    | some m => cases h
  | some v =>
    cases port with
    | none => cases h
    | some m =>
      have hread : readPort v = .ok m := Option.some.inj h
      simp [← readPort_ok_iff, hread]

/-- A list that gives a name is accepted, and the name holds what it says. -/
theorem accepted_of_ofPairs {pairs : List (String × String)} {d : Dsn} (h : ofPairs pairs = .ok d) :
    Accepted pairs ∧ Contents pairs d := by
  obtain ⟨fields, hfields, hd⟩ := ofPairs_ok h
  obtain ⟨server, hserver, htrim, hdatabase, husername, hpassword, hport, hoptions⟩ := ofFields_ok hd
  obtain ⟨hknown, hdistinct, hsaid⟩ := said_of_fieldsOf hfields
  have hrequired {k : DsnKey} {f : ConfigFault} {v : String} (hv : required fields k f = .ok v) :
      (some k, v) ∈ said pairs ∧ Text.isBlank v = false :=
    ⟨hsaid.mp (value?_of_required hv), required_ok hv⟩
  have hports (n : UInt16) : d.port = some n ↔ ∃ v, (some .port, v) ∈ said pairs ∧ IsPort v n := by
    simpa only [hsaid] using port_iff hport n
  constructor
  · refine ⟨hknown, hdistinct, ?_, ?_⟩
    · intro k f hk
      simp only [necessary, List.mem_cons, Prod.mk.injEq, List.not_mem_nil, or_false] at hk
      rcases hk with ⟨rfl, -⟩ | ⟨rfl, -⟩ | ⟨rfl, -⟩ | ⟨rfl, -⟩
      · exact ⟨_, hrequired hdatabase⟩
      · exact ⟨_, hrequired hserver⟩
      · exact ⟨_, hrequired husername⟩
      · exact ⟨_, hrequired hpassword⟩
    · intro v hv
      rw [hsaid.mpr hv] at hport
      cases hn : d.port with
      | none =>
        rw [hn] at hport
        cases hport
      | some n =>
        obtain ⟨w, hw, hisPort⟩ := (hports n).mp hn
        exact ⟨n, eq_of_said hdistinct hw hv ▸ hisPort⟩
  · refine ⟨⟨server, (hrequired hserver).1, htrim⟩, (hrequired hdatabase).1, (hrequired husername).1,
      (hrequired hpassword).1, hports, ?_⟩
    intro v
    rw [← hoptions, Option.filter_eq_some_iff, hsaid, Bool.not_eq_true']

/-! ## Lists that are refused -/

theorem error_of_required {fields : List (DsnKey × String)} {k : DsnKey} {fault f : ConfigFault}
    (h : required fields k fault = .error f) : f = fault ∧ ∀ v, value? fields k = some v → Text.isBlank v = true := by
  unfold required at h
  split at h
  · next w hw =>
    split at h
    · next hblank =>
      refine ⟨(Except.error.inj h).symm, fun v hv => ?_⟩
      rw [hw] at hv
      exact Option.some.inj hv ▸ hblank
    · cases h
  · next hnone =>
    refine ⟨(Except.error.inj h).symm, fun v hv => ?_⟩
    rw [hnone] at hv
    cases hv

theorem error_of_readPort {text : String} {f : ConfigFault} (h : readPort text = .error f) :
    f = .badPort text ∧ ∀ n, ¬ IsPort text n := by
  constructor
  · unfold readPort at h
    split at h
    · cases h
    · exact (Except.error.inj h).symm
  · intro n hn
    rw [readPort_ok_iff.mpr hn] at h
    cases h

/-- A text that spells no key, or a key that a pair read earlier has. -/
theorem error_of_fieldsOf {done : List (DsnKey × String)} {pairs : List (String × String)} {f : ConfigFault}
    (h : fieldsOf done pairs = .error f) :
    (∃ p ∈ pairs, DsnKey.ofText p.1 = none ∧ f = .unknownKey p.1) ∨
      ∃ k : DsnKey, 2 ≤ (done.map (fun p => some p.1) ++ keysOf pairs).count (some k) ∧ f = .duplicateKey k.name := by
  induction pairs generalizing done with
  | nil => cases h
  | cons p pairs ih =>
    obtain ⟨key, v⟩ := p
    rw [fieldsOf] at h
    rw [keysOf_cons]
    cases hk : DsnKey.ofText key with
    | none =>
      rw [hk] at h
      exact .inl ⟨(key, v), List.mem_cons_self, hk, (Except.error.inj h).symm⟩
    | some k =>
      rw [hk] at h
      dsimp only at h
      split at h
      · next hsome =>
        refine .inr ⟨k, ?_, (Except.error.inj h).symm⟩
        have hmem : some k ∈ done.map (fun p => some p.1) := by
          obtain ⟨p, hp, rfl⟩ := List.mem_map.mp (isSome_value?.mp hsome)
          exact List.mem_map.mpr ⟨p, hp, rfl⟩
        have hone := List.count_pos_iff.mpr hmem
        rw [List.count_append, List.count_cons_self]
        omega
      · rcases ih h with ⟨p, hp, hnone, hf⟩ | ⟨k', hcount, hf⟩
        · exact .inl ⟨p, List.mem_cons_of_mem _ hp, hnone, hf⟩
        · refine .inr ⟨k', ?_, hf⟩
          simpa using hcount

theorem refused_of_ofPairs {pairs : List (String × String)} {f : ConfigFault} (h : ofPairs pairs = .error f) :
    Refused pairs f := by
  rcases bind_error h with hfields | ⟨fields, hfields, h⟩
  · rcases error_of_fieldsOf hfields with ⟨p, hp, hnone, rfl⟩ | ⟨k, hcount, rfl⟩
    · exact .unknown hp hnone
    · exact .repeated (by simpa using hcount)
  · obtain ⟨-, -, hsaid⟩ := said_of_fieldsOf hfields
    have hmissing {k : DsnKey} {fault : ConfigFault} (hf : required fields k fault = .error f)
        (hk : (k, fault) ∈ necessary) : Refused pairs f := by
      obtain ⟨rfl, hblank⟩ := error_of_required hf
      exact .missing hk fun v hv => hblank v (hsaid.mpr hv)
    rcases bind_error h with hf | ⟨database, -, h⟩
    · exact hmissing hf (by simp [necessary])
    rcases bind_error h with hf | ⟨server, -, h⟩
    · exact hmissing hf (by simp [necessary])
    rcases bind_error h with hf | ⟨username, -, h⟩
    · exact hmissing hf (by simp [necessary])
    rcases bind_error h with hf | ⟨password, -, h⟩
    · exact hmissing hf (by simp [necessary])
    cases hv : value? fields .port with
    | none =>
      rw [hv] at h
      cases h
    | some v =>
      rw [hv] at h
      rcases bind_error h with hf | ⟨port, -, h⟩
      · obtain ⟨rfl, hno⟩ := error_of_readPort (map_error hf)
        exact .badPort (hsaid.mp hv) hno
      · cases h

theorem Refused.not_accepted {pairs : List (String × String)} {f : ConfigFault} (h : Refused pairs f) :
    ¬ Accepted pairs := by
  intro ha
  cases h with
  | @unknown p hp hnone =>
    have hmem : DsnKey.ofText p.1 ∈ keysOf pairs := mem_keysOf (List.mem_map_of_mem hp)
    rw [hnone] at hmem
    exact ha.known hmem
  | @repeated k hcount =>
    have hone := List.nodup_iff_count_le_one.mp ha.distinct (some k)
    omega
  | @missing k f hk hblank =>
    obtain ⟨v, hv, hfilled⟩ := ha.present k f hk
    rw [hblank v hv] at hfilled
    cases hfilled
  | badPort hv hno =>
    obtain ⟨n, hn⟩ := ha.port _ hv
    exact hno n hn

/-! ## The name a list is -/

/-- What an accepted list says leaves one name. -/
theorem Contents.unique {pairs : List (String × String)} (ha : Accepted pairs) {d d' : Dsn} (h : Contents pairs d)
    (h' : Contents pairs d') : d = d' := by
  have hone {k : DsnKey} {v w : String} (hv : (some k, v) ∈ said pairs) (hw : (some k, w) ∈ said pairs) : v = w :=
    eq_of_said ha.distinct hv hw
  have hserver : d.server = d'.server := by
    obtain ⟨v, hv, htrim⟩ := h.server
    obtain ⟨w, hw, htrim'⟩ := h'.server
    rw [htrim, htrim', hone hv hw]
  have hport : d.port = d'.port := Option.ext fun n => by rw [h.port, h'.port]
  have hoptions : d.options = d'.options := Option.ext fun v => by rw [h.options, h'.options]
  have hdatabase := hone h.database h'.database
  have husername := hone h.username h'.username
  have hpassword := hone h.password h'.password
  cases d
  cases d'
  simp_all

theorem ofPairs_eq_ok {pairs : List (String × String)} {d : Dsn} :
    ofPairs pairs = .ok d ↔ Accepted pairs ∧ Contents pairs d := by
  constructor
  · exact accepted_of_ofPairs
  · rintro ⟨ha, hc⟩
    cases hd : ofPairs pairs with
    | error f => exact absurd ha (refused_of_ofPairs hd).not_accepted
    | ok d' => rw [(accepted_of_ofPairs hd).2.unique ha hc]

/-! ## Order and spelling -/

section

variable {pairs pairs' : List (String × String)} (h : (said pairs).Perm (said pairs'))

include h

theorem Accepted.of_perm (ha : Accepted pairs) : Accepted pairs' := by
  have hkeys : (keysOf pairs).Perm (keysOf pairs') := h.map _
  refine ⟨fun hmem => ha.known (hkeys.mem_iff.mpr hmem), hkeys.nodup_iff.mp ha.distinct, ?_, ?_⟩
  · intro k f hk
    obtain ⟨v, hv, hfilled⟩ := ha.present k f hk
    exact ⟨v, h.mem_iff.mp hv, hfilled⟩
  · intro v hv
    exact ha.port v (h.mem_iff.mpr hv)

theorem Contents.of_perm {d : Dsn} (hc : Contents pairs d) : Contents pairs' d := by
  obtain ⟨v, hv, htrim⟩ := hc.server
  refine ⟨⟨v, h.mem_iff.mp hv, htrim⟩, h.mem_iff.mp hc.database, h.mem_iff.mp hc.username,
    h.mem_iff.mp hc.password, ?_, ?_⟩
  · intro n
    simpa only [h.mem_iff] using hc.port n
  · intro v
    simpa only [h.mem_iff] using hc.options v

theorem ofPairs_of_perm : (ofPairs pairs).toOption = (ofPairs pairs').toOption := by
  have hok {ps qs : List (String × String)} (h : (said ps).Perm (said qs)) {d : Dsn} (hd : ofPairs ps = .ok d) :
      ofPairs qs = .ok d := by
    obtain ⟨ha, hc⟩ := ofPairs_eq_ok.mp hd
    exact ofPairs_eq_ok.mpr ⟨ha.of_perm h, hc.of_perm h⟩
  cases hd : ofPairs pairs with
  | ok d => rw [hok h hd]
  | error f =>
    cases hd' : ofPairs pairs' with
    | error f' => rfl
    | ok d =>
      rw [hok h.symm hd'] at hd
      cases hd

end

/-- A list of pairs is a name when all of it says something that holds together, and it is the name that says so; in any
order and under any spellings of the keys it is the same name, or none. -/
theorem ofPairs_normalizes (pairs : List (String × String)) :
    (∀ text (k : DsnKey), DsnKey.ofText text = some k ↔ Text.lower (Text.trim text) ∈ k.spellings) ∧
      ((∃ d, ofPairs pairs = .ok d) ↔ Accepted pairs) ∧
      (∀ d, ofPairs pairs = .ok d ↔ Accepted pairs ∧ Contents pairs d) ∧
      (∀ f, ofPairs pairs = .error f → Refused pairs f) ∧
      ∀ pairs', (said pairs).Perm (said pairs') → (ofPairs pairs).toOption = (ofPairs pairs').toOption := by
  refine ⟨fun _ _ => DsnKey.ofText_eq_some, ?_, fun _ => ofPairs_eq_ok, fun _ hf => refused_of_ofPairs hf,
    fun _ hperm => ofPairs_of_perm hperm⟩
  constructor
  · rintro ⟨d, hd⟩
    exact (ofPairs_eq_ok.mp hd).1
  · intro ha
    cases hd : ofPairs pairs with
    | ok d => exact ⟨d, rfl⟩
    | error f => exact absurd ha (refused_of_ofPairs hd).not_accepted

/-- The pairs of a map, which come in no order of their own, and the same ones under other spellings. -/
theorem ofPairs_normalizes_respelled :
    let pairs := [("User", "app"), ("password", " s3cret"), (" HOST ", " db1 "), ("dbname", "shop"), ("options", " "),
      ("port", " +05432 ")]
    let respelled := [("port", " +05432 "), ("server", " db1 "), ("database", "shop"), ("username", "app"),
      ("PASSWORD", " s3cret"), ("Options", " ")]
    (said pairs).Perm (said respelled) ∧ ofPairs pairs = .ok ⟨"db1", some 5432, "shop", "app", " s3cret", none⟩ ∧
      ofPairs respelled = .ok ⟨"db1", some 5432, "shop", "app", " s3cret", none⟩ := by
  intro pairs respelled
  have hperm : (said pairs).Perm (said respelled) := by decide
  have hname : ofPairs pairs = .ok ⟨"db1", some 5432, "shop", "app", " s3cret", none⟩ := rfl
  obtain ⟨-, -, -, -, hsame⟩ := ofPairs_normalizes pairs
  have hrespelled := hsame respelled hperm
  rw [hname] at hrespelled
  exact ⟨hperm, hname, ok_of_toOption hrespelled.symm⟩

end Dsn

end SqlComposer
