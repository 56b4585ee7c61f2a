/-
  SqlComposer.Compose.Condition — the calls that fill a WHERE clause.

  A predicate is a template whose question marks take the values given with it, as many
  as there are marks; without values the marks stay. Groups nest: predicates go to the
  innermost group that was begun and not yet ended, and a group that stayed empty
  vanishes when it ends. The first wrong call is recorded.
-/

import SqlComposer.Syntax.Tree

namespace SqlComposer

/-! ## Predicates -/

/-- The predicate an empty template stands for. -/
def Predicate.tautology : String := "1 = 1"

/-- The trimmed template, or the tautology when nothing is left of it. -/
def Predicate.templateOf (template : String) : String :=
  let t := Text.trim template
  if t.isEmpty then tautology else t

/-- Refuses values that are not as many as the question marks. -/
def Predicate.make (template : String) (values : List Value) : Except BuildFault Predicate :=
  let t := templateOf template
  let marks := t.toList.count '?'
  if values.isEmpty || marks == values.length then .ok ⟨t, values⟩
  else .error (.placeholders t marks values.length)

/-! ## Calls on a clause -/

namespace WhereClause

/-- Records a fault unless there is one already. -/
def withFault (w : WhereClause) (f : BuildFault) : WhereClause := { w with fault := w.fault <|> some f }

/-- `true` when the clause and its open groups hold no condition. -/
def isEmpty (w : WhereClause) : Bool := w.conditions.isEmpty && w.opened.all (·.isEmpty)

/-- Appends a condition to the innermost open group, or to the clause itself. -/
def append (w : WhereClause) (c : Condition) : WhereClause :=
  match w.opened with
  | [] => { w with conditions := w.conditions ++ [c] }
  | group :: outer => { w with opened := (group ++ [c]) :: outer }

def push (conjunction : Conjunction) (template : String) (values : List Value) (w : WhereClause) : WhereClause :=
  match Predicate.make template values with
  | .ok p => w.append (.leaf conjunction p)
  | .error f => w.withFault f

def beginGroup (w : WhereClause) : WhereClause := { w with opened := [] :: w.opened }

def endGroup (conjunction : Conjunction) (w : WhereClause) : WhereClause :=
  match w.opened with
  | [] => w.withFault .groupNotOpen
  | [] :: outer => { w with opened := outer }
  | group :: outer => { w with opened := outer }.append (.group conjunction group)

end WhereClause

/-- A call on a WHERE clause; `group` makes its inner calls between a begin and an end. -/
inductive WhereCall where
  | push (conjunction : Conjunction) (template : String) (values : List Value)
  | beginGroup
  | endGroup (conjunction : Conjunction)
  | group (conjunction : Conjunction) (calls : List WhereCall)

mutual

def WhereClause.apply (w : WhereClause) : WhereCall → WhereClause
  | .push conjunction template values => w.push conjunction template values
  | .beginGroup => w.beginGroup
  | .endGroup conjunction => w.endGroup conjunction
  | .group conjunction calls => (w.beginGroup.applyAll calls).endGroup conjunction

def WhereClause.applyAll (w : WhereClause) : List WhereCall → WhereClause
  | [] => w
  | c :: rest => (w.apply c).applyAll rest

end

end SqlComposer
