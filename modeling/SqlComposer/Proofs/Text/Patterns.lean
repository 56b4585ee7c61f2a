/-
  SqlComposer.Proofs.Text.Patterns — regular expressions whose repetitions are of single
  characters, and what they capture.

  The ways in which a pattern takes from the front of a text come in the order in which
  they are tried. A repetition goes on as long as it can first when it is eager, and as
  short as it can when it is not; an optional part is tried before it is left out. The
  first way of all is the match, and what its groups took is captured.

  Proved:
  (1) a sequence captures by the first way of its head that the rest of it goes on from
      (`captures_seq`);
  (2) an eager repetition, in front of what cannot begin with one of its characters, takes
      all of them that there are (`captures_led`, `captures_group_led`).
-/

import Mathlib.Data.List.TakeWhile

namespace SqlComposer

inductive Pattern where
  /-- One character of a class. -/
  | one (p : Char → Bool)
  /-- Characters of a class, or none. -/
  | many (eager : Bool) (p : Char → Bool)
  | seq (head rest : Pattern)
  | maybe (part : Pattern)
  /-- What the part takes is captured. -/
  | group (part : Pattern)
  /-- The end of the text. -/
  | stop

namespace Pattern

/-- Characters of a class, at least one. -/
def run (eager : Bool) (p : Char → Bool) : Pattern := seq (one p) (many eager p)

/-! ## Ways -/

/-- What is taken from a text, what the groups took of it, and what is left. -/
structure Way where
  taken : List Char
  groups : List (List Char)
  left : List Char

/-- One way, and another in what it left. -/
def Way.andThen (w v : Way) : Way := ⟨w.taken ++ v.taken, w.groups ++ v.groups, v.left⟩

/-- The characters of a class that can be taken from the front, each time with what is left. -/
def splits (eager : Bool) (p : Char → Bool) : List Char → List (List Char × List Char)
  | [] => [([], [])]
  | c :: cs =>
    let further := if p c then (splits eager p cs).map fun (taken, left) => (c :: taken, left) else []
    if eager then further ++ [([], c :: cs)] else ([], c :: cs) :: further

/-- The ways of a pattern at the front of a text, in the order in which they are tried. -/
def ways : Pattern → List Char → List Way
  | one p, cs =>
    match cs with
    | [] => []
    | c :: cs => if p c then [⟨[c], [], cs⟩] else []
  | many eager p, cs => (splits eager p cs).map fun (taken, left) => ⟨taken, [], left⟩
  | seq head rest, cs => (head.ways cs).flatMap fun w => (rest.ways w.left).map w.andThen
  | maybe part, cs => part.ways cs ++ [⟨[], [], cs⟩]
  | group part, cs => (part.ways cs).map fun w => { w with groups := w.taken :: w.groups }
  | stop, cs => if cs.isEmpty then [⟨[], [], []⟩] else []

/-- What the groups hold when the pattern matches at the front of the text. -/
def captures (p : Pattern) (cs : List Char) : Option (List (List Char)) := (p.ways cs).head?.map (·.groups)

/-- The pattern matches somewhere in the text. -/
def Found (p : Pattern) (cs : List Char) : Prop := ∃ before after, cs = before ++ after ∧ p.ways after ≠ []

variable {p q : Char → Bool} {rest : Pattern} {cs : List Char}

/-! ## Sequences -/

theorem Way.andThen_andThen (u v : Way) : (u.andThen v).andThen = u.andThen ∘ v.andThen := by
  funext w
  simp [andThen]

/-- How a sequence is nested makes no difference. -/
theorem ways_assoc (first second third : Pattern) (cs : List Char) :
    (seq (seq first second) third).ways cs = (seq first (seq second third)).ways cs := by
  simp only [ways, List.flatMap_assoc, List.map_flatMap, List.flatMap_map, List.map_map, Way.andThen_andThen]
  rfl

theorem ways_seq_ne_nil {head : Pattern} :
    (seq head rest).ways cs ≠ [] ↔ ∃ w ∈ head.ways cs, rest.ways w.left ≠ [] := by
  simp [ways, List.flatMap_eq_nil_iff]

theorem captures_assoc (first second third : Pattern) (cs : List Char) :
    (seq (seq first second) third).captures cs = (seq first (seq second third)).captures cs := by
  rw [captures, captures, ways_assoc]

theorem captures_seq (head rest : Pattern) (cs : List Char) :
    (seq head rest).captures cs = (head.ways cs).findSome? fun w => (rest.captures w.left).map (w.groups ++ ·) := by
  simp [captures, ways, Way.andThen, List.head?_flatMap, List.head?_map, List.map_findSome?, Function.comp_def]

theorem captures_one (c : Char) (cs : List Char) :
    (seq (one p) rest).captures (c :: cs) = if p c then rest.captures cs else none := by
  rw [captures_seq, ways]
  split <;> simp

theorem captures_stop (cs : List Char) : stop.captures cs = if cs.isEmpty then some [] else none := by
  rw [captures, ways]
  split <;> rfl

theorem captures_maybe (part rest : Pattern) (cs : List Char) :
    (seq (maybe part) rest).captures cs = ((seq part rest).captures cs).or (rest.captures cs) := by
  simp [captures_seq, ways, List.findSome?_append]

/-! ## Repetitions -/

theorem mem_splits_cons {eager : Bool} {x : List Char × List Char} {c : Char} :
    x ∈ splits eager p (c :: cs) ↔
      x = ([], c :: cs) ∨ (p c = true ∧ ∃ taken left, (taken, left) ∈ splits eager p cs ∧ (c :: taken, left) = x) := by
  rw [splits]
  cases eager <;> by_cases hc : p c = true <;> simp [hc, or_comm]

/-- In whatever order, these are all splits behind characters of the class. -/
theorem mem_splits {eager : Bool} {taken left : List Char} :
    (taken, left) ∈ splits eager p cs ↔ cs = taken ++ left ∧ ∀ c ∈ taken, p c = true := by
  constructor
  · intro h
    induction cs generalizing taken with
    | nil =>
      obtain ⟨rfl, rfl⟩ := Prod.mk.inj (List.mem_singleton.mp h)
      exact ⟨rfl, by simp⟩
    | cons c cs ih =>
      rcases mem_splits_cons.mp h with heq | ⟨hc, more, rest, hmore, heq⟩
      · obtain ⟨rfl, rfl⟩ := Prod.mk.inj heq
        exact ⟨rfl, by simp⟩
      · obtain ⟨rfl, rfl⟩ := Prod.mk.inj heq
        obtain ⟨hsplit, hall⟩ := ih hmore
        exact ⟨congrArg (c :: ·) hsplit, List.forall_mem_cons.mpr ⟨hc, hall⟩⟩
  · rintro ⟨rfl, h⟩
    induction taken with
    | nil =>
      cases left with
      | nil => exact List.mem_singleton_self _
      | cons c left => exact mem_splits_cons.mpr (.inl rfl)
    | cons c taken ih =>
      obtain ⟨hc, hall⟩ := List.forall_mem_cons.mp h
      exact mem_splits_cons.mpr (.inr ⟨hc, _, _, ih hall, rfl⟩)

/-- An eager repetition goes on to its end, where nothing goes on from inside of it. -/
theorem findSome?_splits {α : Type} {f : List Char × List Char → Option α}
    (hf : ∀ taken c left, p c = true → f (taken, c :: left) = none) (cs : List Char) :
    (splits true p cs).findSome? f = f (cs.takeWhile p, cs.dropWhile p) := by
  induction cs generalizing f with
  | nil => simp [splits]
  | cons c cs ih =>
    by_cases hc : p c = true
    · have hstay : f ([], c :: cs) = none := hf _ _ _ hc
      have hfurther := ih (f := fun (taken, left) => f (c :: taken, left)) fun _ _ _ hd => hf _ _ _ hd
      simp [splits, hc, List.findSome?_append, List.findSome?_map, Function.comp_def, hstay, hfurther]
    · simp [splits, hc]

theorem ways_led (eager : Bool) (c : Char) (cs : List Char) :
    (seq (one p) (many eager q)).ways (c :: cs) =
      if p c then (splits eager q cs).map fun (taken, left) => ⟨c :: taken, [], left⟩ else [] := by
  rw [ways, ways]
  split <;> simp [ways, Way.andThen, Function.comp_def]

/-- Of the ways of an eager repetition only the longest counts, where nothing goes on from the others. -/
theorem findSome?_led {α : Type} {f : Way → Option α}
    (hf : ∀ taken d left, q d = true → f ⟨taken, [], d :: left⟩ = none) (c : Char) (cs : List Char) :
    ((seq (one p) (many true q)).ways (c :: cs)).findSome? f =
      if p c then f ⟨c :: cs.takeWhile q, [], cs.dropWhile q⟩ else none := by
  rw [ways_led]
  split
  · rw [List.findSome?_map, findSome?_splits]
    · rfl
    · exact fun taken d left hd => hf (c :: taken) d left hd
  · rfl

section Eager

variable (hrest : ∀ c cs, q c = true → rest.captures (c :: cs) = none) (c : Char) (cs : List Char)

include hrest

theorem captures_led :
    (seq (seq (one p) (many true q)) rest).captures (c :: cs) =
      if p c then rest.captures (cs.dropWhile q) else none := by
  rw [captures_seq, findSome?_led]
  · simp
  · intro taken d left hd
    simp [hrest d left hd]

theorem captures_group_led :
    (seq (group (seq (one p) (many true q))) rest).captures (c :: cs) =
      if p c then (rest.captures (cs.dropWhile q)).map ((c :: cs.takeWhile q) :: ·) else none := by
  rw [captures_seq, ways, List.findSome?_map, findSome?_led]
  · simp
  · intro taken d left hd
    simp [hrest d left hd]

end Eager

theorem captures_group_led_stop (c : Char) (cs : List Char) :
    (seq (group (seq (one p) (many true q))) stop).captures (c :: cs) =
      if p c && cs.all q then some [c :: cs] else none := by
  rw [captures_group_led fun d left _ => captures_stop (d :: left), captures_stop]
  by_cases hall : ∀ d ∈ cs, q d = true
  · have hleft : cs.dropWhile q = [] := List.dropWhile_eq_nil_iff.mpr hall
    have htaken : cs.takeWhile q = cs := List.takeWhile_eq_self_iff.mpr hall
    simp [hleft, htaken, List.all_eq_true.mpr hall]
  · have hleft : cs.dropWhile q ≠ [] := mt List.dropWhile_eq_nil_iff.mp hall
    have hnot : cs.all q = false := by simpa using hall
    simp [hleft, hnot]

end Pattern

end SqlComposer
