/-
  SqlComposer.Proofs.Settings.References — references to variables in a text, as one pass
  from the left finds them.

  A text is made of parts: characters that stand for themselves, and references. The
  name of a reference ends at the first closing brace, whatever else it holds; a dollar
  sign stands for itself unless an opening brace comes right behind it.

  Proved: every text is made of parts that all have values, up to its end or up to a
  reference that has none (`exists_parts`). Parts with values expand to their values, and
  no value is read again (`expandChars_written`); so a text expands exactly when all its
  references have values, and else the first one without is what is said to be wrong
  (`expand_iff`). A text without references stands for itself (`expandChars_literal`), and
  one reference in it gives way to its value (`expand_reference`).
-/

import SqlComposer.Proofs.Succeeding
import SqlComposer.Proofs.Text.Chars
import SqlComposer.Settings.Environment

namespace SqlComposer

namespace Environment

variable {env : Environment}

/-! ## One pass -/

/-- The characters of `lit` begin no reference. -/
structure Literal (lit : List Char) : Prop where
  without : Chars.contains ['$', '\x7b'] lit = false
  closed : lit.getLast? ≠ some '$'

theorem Literal.tail {c : Char} {lit : List Char} (h : Literal (c :: lit)) : Literal lit where
  without := by
    have := h.without
    rw [Chars.contains, Bool.or_eq_false_iff] at this
    exact this.2
  closed hlast := h.closed (by rw [List.getLast?_cons, hlast]; rfl)

/-- A dollar sign in it stands before something, and that is no brace. -/
theorem Literal.head {lit : List Char} (h : Literal ('$' :: lit)) (rest : List Char) : (lit ++ rest).head? ≠ some '\x7b' := by
  cases lit with
  | nil => exact absurd rfl h.closed
  | cons d lit =>
    intro hd
    obtain rfl : d = '\x7b' := Option.some.inj hd
    have := h.without
    simp [Chars.contains, Chars.stripLead] at this

theorem expandChars_plain {c : Char} {rest : List Char} (h : c = '$' → rest.head? ≠ some '\x7b') :
    env.expandChars none (c :: rest) = (env.expandChars none rest).map (c :: ·) := by
  by_cases hc : c = '$'
  · have hrest := h hc
    subst hc
    cases rest with
    | nil => rfl
    | cons d rest =>
      have hd : d ≠ '\x7b' := fun hd => hrest (by rw [hd]; rfl)
      simp [expandChars, hd]
  · simp [expandChars, hc]

theorem expandChars_literal {lit : List Char} (h : Literal lit) (rest : List Char) :
    env.expandChars none (lit ++ rest) = (env.expandChars none rest).map (lit ++ ·) := by
  induction lit with
  | nil =>
    rw [List.nil_append]
    cases env.expandChars none rest <;> rfl
  | cons c lit ih =>
    have hhead : c = '$' → (lit ++ rest).head? ≠ some '\x7b' := by
      rintro rfl
      exact h.head rest
    rw [List.cons_append, expandChars_plain hhead, ih h.tail]
    cases env.expandChars none rest <;> rfl

/-- Up to a closing brace everything goes into the name. -/
theorem expandChars_within {name : List Char} (h : '\x7d' ∉ name) (read rest : List Char) :
    env.expandChars (some read) (name ++ rest) = env.expandChars (some (read ++ name)) rest := by
  induction name generalizing read with
  | nil => rw [List.nil_append, List.append_nil]
  | cons c name ih =>
    obtain ⟨hc, hname⟩ : c ≠ '\x7d' ∧ '\x7d' ∉ name := by simpa [eq_comm] using h
    have hstep := ih hname (read ++ [c])
    rw [List.append_assoc, List.singleton_append] at hstep
    rw [List.cons_append, expandChars]
    simp [hc, hstep]

theorem expandChars_name {name : List Char} (h : '\x7d' ∉ name) (read rest : List Char) :
    env.expandChars (some read) (name ++ '\x7d' :: rest) = (do
      let v ← env.value (String.ofList (read ++ name))
      (env.expandChars none rest).map (v.toList ++ ·)) := by
  rw [expandChars_within h, expandChars]
  rfl

theorem expandChars_open {name : List Char} (h : '\x7d' ∉ name) (read : List Char) :
    env.expandChars (some read) name = .error (.unterminatedVariable (String.ofList (read ++ name))) := by
  have hread : env.expandChars (some read) (name ++ []) = _ := expandChars_within h read []
  rw [List.append_nil] at hread
  rw [hread, expandChars]

/-- What stands around one reference stays, and its value comes in between. -/
theorem expand_reference {lit tail : List Char} (hlit : Literal lit) (htail : Literal tail) {name : String}
    (hname : '\x7d' ∉ name.toList) :
    env.expand (String.ofList (lit ++ '$' :: '\x7b' :: (name.toList ++ '\x7d' :: tail))) =
      (env.value name).map fun v => String.ofList (lit ++ (v.toList ++ tail)) := by
  have hrest : env.expandChars none tail = .ok tail := by
    have : env.expandChars none (tail ++ []) = (env.expandChars none []).map (tail ++ ·) := expandChars_literal htail []
    simpa [expandChars, Except.map] using this
  rw [expand, String.toList_ofList, expandChars_literal hlit, expandChars, expandChars_name hname, List.nil_append,
    String.ofList_toList, hrest]
  cases env.value name <;> rfl

theorem value_ok {name v w : String} (hv : env name = some v) (h : env.value name = .ok w) : w = v := by
  rw [value, hv] at h
  split at h
  · cases h
  · exact (Except.ok.inj h).symm

/-! ## Parts -/

/-- A character that stands for itself, or a reference to a variable. -/
inductive Part where
  | char (c : Char)
  | reference (name : String)
  deriving DecidableEq, Repr

def Part.written : Part → List Char
  | .char c => [c]
  | .reference name => '$' :: '\x7b' :: (name.toList ++ ['\x7d'])

def Part.filled (env : Environment) : Part → List Char
  | .char c => [c]
  | .reference name => ((env name).getD "").toList

/-- There is something to put in the place of the part. -/
def Part.HasValue (env : Environment) : Part → Prop
  | .char _ => True
  | .reference name => name ≠ "" ∧ (env name).isSome

def written (parts : List Part) : List Char := parts.flatMap Part.written

def filled (env : Environment) (parts : List Part) : List Char := parts.flatMap (Part.filled env)

/-- Parts as a pass from the left finds them: a dollar sign stands for itself where no opening brace comes
right behind it, and a name holds no closing brace. -/
inductive Scanned : List Part → Prop
  | done : Scanned []
  | char {c : Char} {parts : List Part} (hplain : c = '$' → (written parts).head? ≠ some '\x7b') (h : Scanned parts) :
      Scanned (.char c :: parts)
  | reference {name : String} {parts : List Part} (hclosed : '\x7d' ∉ name.toList) (h : Scanned parts) :
      Scanned (.reference name :: parts)

/-- A text begins with a reference that has no value, and this is what is wrong with it. -/
inductive Offends (env : Environment) : List Char → String → Prop
  | unterminated {name : String} (hopen : '\x7d' ∉ name.toList) :
      Offends env ('$' :: '\x7b' :: name.toList) ("unterminated env var reference: $\x7b" ++ name ++ "\x7d")
  | unnamed (rest : List Char) :
      Offends env ('$' :: '\x7b' :: '\x7d' :: rest) "invalid env var reference: $\x7b\x7d"
  | unset {name : String} (hclosed : '\x7d' ∉ name.toList) (hname : name ≠ "") (hunset : env name = none) (rest : List Char) :
      Offends env ('$' :: '\x7b' :: (name.toList ++ '\x7d' :: rest)) ("missing env var for config expansion: " ++ name)

/-! ## Expansion of parts -/

theorem value_of_hasValue {name : String} (h : (Part.reference name).HasValue env) :
    env.value name = .ok ((env name).getD "") := by
  obtain ⟨hname, hset⟩ := h
  obtain ⟨v, hv⟩ := Option.isSome_iff_exists.mp hset
  simp [value, hname, hv]

theorem expandChars_reference {name : String} (hclosed : '\x7d' ∉ name.toList) (rest : List Char) :
    env.expandChars none ('$' :: '\x7b' :: (name.toList ++ '\x7d' :: rest)) = (do
      let v ← env.value name
      (env.expandChars none rest).map (v.toList ++ ·)) := by
  rw [expandChars, expandChars_name hclosed, List.nil_append, String.ofList_toList]

/-- Parts give way to their values, and the pass goes on behind them. -/
theorem expandChars_written {parts : List Part} (h : Scanned parts) (hvalues : ∀ p ∈ parts, p.HasValue env)
    {rest : List Char} (hrest : rest.head? ≠ some '\x7b') :
    env.expandChars none (written parts ++ rest) = (env.expandChars none rest).map (filled env parts ++ ·) := by
  induction h with
  | done =>
    rw [written, filled, List.flatMap_nil, List.flatMap_nil, List.nil_append]
    cases env.expandChars none rest <;> rfl
  | @char c parts hplain h ih =>
    have hhead : c = '$' → (written parts ++ rest).head? ≠ some '\x7b' := by
      intro hc
      cases hw : written parts with
      | nil => exact hrest
      | cons d ds => simpa [hw] using hplain hc
    have hstep := ih fun p hp => hvalues p (List.mem_cons_of_mem _ hp)
    have hwritten : written (.char c :: parts) ++ rest = c :: (written parts ++ rest) := rfl
    rw [hwritten, expandChars_plain hhead, hstep]
    cases env.expandChars none rest <;> rfl
  | @reference name parts hclosed h ih =>
    have hvalue := value_of_hasValue (hvalues _ List.mem_cons_self)
    have hstep := ih fun p hp => hvalues p (List.mem_cons_of_mem _ hp)
    have hwritten : written (.reference name :: parts) ++ rest =
        '$' :: '\x7b' :: (name.toList ++ '\x7d' :: (written parts ++ rest)) := by
      simp [written, Part.written]
    rw [hwritten, expandChars_reference hclosed, hvalue, hstep]
    cases env.expandChars none rest with
    | error f => rfl
    | ok cs => simp [filled, Part.filled, bind, Except.bind, Except.map]

theorem expandChars_of_offends {tail : List Char} {message : String} (h : Offends env tail message) :
    ∃ f, env.expandChars none tail = .error f ∧ f.text = message := by
  cases h with
  | @unterminated name hopen =>
    refine ⟨.unterminatedVariable name, ?_, rfl⟩
    rw [expandChars, expandChars_open hopen, List.nil_append, String.ofList_toList]
  | unnamed rest =>
    have hclosed : '\x7d' ∉ "".toList := List.not_mem_nil
    exact ⟨.emptyVariable, expandChars_reference hclosed rest, rfl⟩
  | @unset name hclosed hname hunset rest =>
    refine ⟨.missingVariable name, ?_, rfl⟩
    have hvalue : env.value name = .error (.missingVariable name) := by simp [value, hname, hunset]
    rw [expandChars_reference hclosed, hvalue]
    rfl

theorem Offends.head {tail : List Char} {message : String} (h : Offends env tail message) : tail.head? = some '$' := by
  cases h <;> rfl

/-! ## Parts of a text -/

/-- What stands behind an opening brace: a name and its closing brace, or a name alone. -/
theorem exists_name (cs : List Char) :
    ∃ name : String, '\x7d' ∉ name.toList ∧ (cs = name.toList ∨ ∃ rest, cs = name.toList ++ '\x7d' :: rest) := by
  by_cases h : '\x7d' ∈ cs
  · obtain ⟨name, rest, hsplit, hclosed⟩ := List.eq_append_cons_of_mem h
    refine ⟨String.ofList name, ?_, .inr ⟨rest, ?_⟩⟩
    · rwa [String.toList_ofList]
    · rw [String.toList_ofList, hsplit]
  · refine ⟨String.ofList cs, ?_, .inl ?_⟩
    · rwa [String.toList_ofList]
    · rw [String.toList_ofList]

/-- Every text is made of parts with values, up to its end or up to a reference that has none. -/
theorem exists_parts (env : Environment) (cs : List Char) :
    ∃ parts tail, Scanned parts ∧ (∀ p ∈ parts, p.HasValue env) ∧ cs = written parts ++ tail ∧
      (tail = [] ∨ ∃ message, Offends env tail message) := by
  induction hlength : cs.length using Nat.strong_induction_on generalizing cs with
  | _ length ih =>
    subst hlength
    match cs with
    | [] => exact ⟨[], [], .done, by simp, rfl, .inl rfl⟩
    | c :: cs =>
      by_cases hopens : c = '$' ∧ cs.head? = some '\x7b'
      · obtain ⟨rfl, hhead⟩ := hopens
        obtain ⟨body, rfl⟩ := List.head?_eq_some_iff.mp hhead
        obtain ⟨name, hclosed, rfl | ⟨rest, rfl⟩⟩ := exists_name body
        · exact ⟨[], _, .done, by simp, rfl, .inr ⟨_, .unterminated hclosed⟩⟩
        · by_cases hvalue : (Part.reference name).HasValue env
          · obtain ⟨parts, tail, hparts, hvalues, rfl, htail⟩ := ih rest.length (by simp; omega) rest rfl
            refine ⟨.reference name :: parts, tail, .reference hclosed hparts, ?_, ?_, htail⟩
            · exact List.forall_mem_cons.mpr ⟨hvalue, hvalues⟩
            · simp [written, Part.written]
          -- The reference has no value: it has no name, or its variable is not set.
          · refine ⟨[], _, .done, by simp, rfl, .inr ?_⟩
            by_cases hname : name = ""
            · subst hname
              exact ⟨_, .unnamed rest⟩
            · have hunset : env name = none := by simpa [Part.HasValue, hname] using hvalue
              exact ⟨_, .unset hclosed hname hunset rest⟩
      · obtain ⟨parts, tail, hparts, hvalues, rfl, htail⟩ := ih cs.length (by simp) cs rfl
        have hplain : c = '$' → (written parts).head? ≠ some '\x7b' := by
          intro hc hbrace
          exact hopens ⟨hc, by rw [List.head?_append, hbrace]; rfl⟩
        refine ⟨.char c :: parts, tail, .char hplain hparts, ?_, rfl, htail⟩
        exact List.forall_mem_cons.mpr ⟨trivial, hvalues⟩

theorem expand_written {parts : List Part} (h : Scanned parts) (hvalues : ∀ p ∈ parts, p.HasValue env) {s : String}
    (hs : s.toList = written parts) : env.expand s = .ok (String.ofList (filled env parts)) := by
  have hexpand : env.expandChars none (written parts ++ []) = _ := expandChars_written h hvalues (by simp)
  rw [List.append_nil] at hexpand
  rw [expand, hs, hexpand]
  simp [expandChars, Except.map]

theorem expand_offends {parts : List Part} (h : Scanned parts) (hvalues : ∀ p ∈ parts, p.HasValue env)
    {tail : List Char} {message : String} (hoffends : Offends env tail message) {s : String}
    (hs : s.toList = written parts ++ tail) : ∃ f, env.expand s = .error f ∧ f.text = message := by
  obtain ⟨f, hf, htext⟩ := expandChars_of_offends hoffends
  have hhead : tail.head? ≠ some '\x7b' := by
    rw [hoffends.head]
    decide
  refine ⟨f, ?_, htext⟩
  rw [expand, hs, expandChars_written h hvalues hhead, hf]
  rfl

/-- A text expands exactly when each of its references has a value, and then to these values with all else as it
is; otherwise what is said is said of the first reference without one. -/
theorem expand_iff (env : Environment) (s : String) :
    (∀ t, env.expand s = .ok t ↔
      ∃ parts, Scanned parts ∧ (∀ p ∈ parts, p.HasValue env) ∧ s.toList = written parts ∧ t.toList = filled env parts) ∧
    (∀ message, (∃ f, env.expand s = .error f ∧ f.text = message) ↔
      ∃ parts tail, Scanned parts ∧ (∀ p ∈ parts, p.HasValue env) ∧ s.toList = written parts ++ tail ∧
        Offends env tail message) := by
  obtain ⟨parts, tail, hparts, hvalues, hs, htail⟩ := exists_parts env s.toList
  refine ⟨fun t => ⟨fun ht => ?_, ?_⟩, fun message => ⟨?_, ?_⟩⟩
  · rcases htail with rfl | ⟨message, hoffends⟩
    · rw [List.append_nil] at hs
      have heq := (expand_written hparts hvalues hs).symm.trans ht
      refine ⟨parts, hparts, hvalues, hs, ?_⟩
      rw [← Except.ok.inj heq, String.toList_ofList]
    · obtain ⟨f, hf, -⟩ := expand_offends hparts hvalues hoffends hs
      rw [hf] at ht
      cases ht
  · rintro ⟨parts, hparts, hvalues, hs, ht⟩
    rw [expand_written hparts hvalues hs, ← ht, String.ofList_toList]
  · rintro ⟨f, hf, rfl⟩
    rcases htail with rfl | ⟨message, hoffends⟩
    · rw [List.append_nil] at hs
      rw [expand_written hparts hvalues hs] at hf
      cases hf
    · obtain ⟨f', hf', rfl⟩ := expand_offends hparts hvalues hoffends hs
      obtain rfl := Except.error.inj (hf'.symm.trans hf)
      exact ⟨parts, tail, hparts, hvalues, hs, hoffends⟩
  · rintro ⟨parts, tail, hparts, hvalues, hs, hoffends⟩
    exact expand_offends hparts hvalues hoffends hs

/-- The dollar sign in front stands for itself, and the braces of the value and of the name mean nothing. -/
example :
    expand (fun name => if name == "a$\x7bb" then some "$\x7bc\x7d" else none) "$$\x7ba$\x7bb\x7d\x7d" =
      .ok "$$\x7bc\x7d\x7d" := by
  rfl

end Environment

end SqlComposer
