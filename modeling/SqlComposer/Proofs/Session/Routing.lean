/-
  SqlComposer.Proofs.Session.Routing — a session builds what the builders build.

  `directly` says what a routed call is on the builder of each kind of statement, and
  that a builder has no such call; `kinds` lists the statements that have it. A session
  passes calls on and keeps the statement as long as it has no fault.

  Proved: after an entry and any calls that all succeeded a session holds the statement
  that the builder makes of the same calls, without a fault; a call fails exactly when
  there is no statement, when its kind does not have the call, or when the builder
  records a fault, and with that fault; a failure leaves no statement; and none of this
  touches the registry (`Session.refines_builders`).
-/

import SqlComposer.Session.Basic

namespace SqlComposer

/-! ## Calls on the builder itself -/

namespace SessionCall

/-- The statement the builder makes of a call; none when it has no such call. -/
def directly : SessionCall → Statement → Option Statement
  | .table spec, .select s => some (.select (s.table spec))
  | .fields spec, .select s => some (.select (s.setFields spec))
  | .fieldExpr e, .select s => some (.select (s.fieldExpr e))
  | .values row, .insert s => some (.insert (s.values row))
  | .values row, .update s => some (.update (s.values row))
  | .rows records, .insert s => some (.insert (s.setRows records))
  | .set column v, .update s => some (.update (s.set column v))
  | .onDuplicateKey sql, .insert s => some (.insert (s.onDuplicateKey sql))
  | .restrict conjunction template args, .select s => some (.select (s.restrict (.push conjunction template args)))
  | .restrict conjunction template args, .update s => some (.update (s.restrict (.push conjunction template args)))
  | .restrict conjunction template args, .delete s => some (.delete (s.restrict (.push conjunction template args)))
  | .beginGroup, .select s => some (.select (s.restrict .beginGroup))
  | .beginGroup, .update s => some (.update (s.restrict .beginGroup))
  | .beginGroup, .delete s => some (.delete (s.restrict .beginGroup))
  | .endGroup conjunction, .select s => some (.select (s.restrict (.endGroup conjunction)))
  | .endGroup conjunction, .update s => some (.update (s.restrict (.endGroup conjunction)))
  | .endGroup conjunction, .delete s => some (.delete (s.restrict (.endGroup conjunction)))
  | .join target condition type, .select s => some (.select (s.join (.spec target condition type)))
  | .join target condition type, .update s => some (.update (s.join (.spec target condition type)))
  | .groupBy spec, .select s => some (.select (s.setGroupBy spec))
  | .orderBy spec order, .select s => some (.select (s.orderedBy spec order))
  | .having template args, .select s => some (.select (s.setHaving template args))
  | .limit count offset, .select s => some (.select (s.setLimit count offset))
  | _, _ => none

/-- The kinds of statement that have the call. A TRUNCATE takes the calls of a WHERE clause to refuse them. -/
def kinds : SessionCall → List StatementKind
  | .values _ => [.insert, .update]
  | .rows _ | .onDuplicateKey _ => [.insert]
  | .set _ _ => [.update]
  | .restrict _ _ _ | .beginGroup | .endGroup _ => [.select, .update, .delete, .truncate]
  | .join _ _ _ => [.select, .update]
  | .table _ | .fields _ | .fieldExpr _ | .groupBy _ | .orderBy _ _ | .having _ _ | .limit _ _ => [.select]

/-- All calls in turn; none as soon as the builder lacks one. -/
def directlyAll (calls : List SessionCall) (s : Statement) : Option Statement :=
  calls.foldlM (fun s c => c.directly s) s

theorem directly_eq_none (c : SessionCall) (s : Statement) : c.directly s = none ↔ s.kind ∉ c.kinds := by
  cases s with
  | delete s => cases h : s.truncates <;> cases c <;> simp [directly, kinds, Statement.kind, Delete.kind, h]
  | _ => cases c <;> simp [directly, kinds, Statement.kind]

/-- The call a session passes on to a statement is the one its builder has. -/
theorem map_apply_onKind (c : SessionCall) (s : Statement) : (c.onKind s.kind).map s.apply = c.directly s := by
  cases s with
  -- One builder stands for DELETE and TRUNCATE, so its kind hangs on a field.
  | delete s => cases h : s.truncates <;> cases c <;> simp [Statement.kind, Delete.kind, h, onKind] <;> rfl
  | _ => cases c <;> rfl

end SessionCall

namespace Session

/-! ## One call -/

theorem keep_faulty {s : Statement} {f : BuildFault} (h : s.firstFault = some f) (se : Session) :
    se.keep s = (.error (.builder f), { se with statement := none }) := by
  rw [keep, h]

theorem keep_sound {s : Statement} (h : s.firstFault = none) (se : Session) :
    se.keep s = (.ok (), { se with statement := some s }) := by
  rw [keep, h]

theorem registry_keep (s : Statement) (se : Session) : (se.keep s).2.registry = se.registry := by
  cases h : s.firstFault with
  | none => rw [keep_sound h]
  | some f => rw [keep_faulty h]

/-- A routed call is the builder's call, kept if it recorded no fault. -/
theorem route_eq {se : Session} {s : Statement} (h : se.statement = some s) (c : SessionCall) :
    se.route c = match c.directly s with
      | none => (.error (.builder (c.refusal s.kind)), { se with statement := none })
      | some s' => se.keep s' := by
  rw [route, h, ← c.map_apply_onKind s]
  dsimp only
  cases c.onKind s.kind <;> rfl

/-- The three ways a routed call ends. -/
theorem route_cases (se : Session) (c : SessionCall) :
    (se.statement = none ∧ se.route c = (.error (.builder (.noActiveStatement c.name)), se)) ∨
    (∃ s, se.statement = some s ∧ c.directly s = none ∧
      se.route c = (.error (.builder (c.refusal s.kind)), { se with statement := none })) ∨
    ∃ s s', se.statement = some s ∧ c.directly s = some s' ∧ se.route c = se.keep s' := by
  cases hs : se.statement with
  | none => exact .inl ⟨rfl, by rw [route, hs]⟩
  | some s =>
    have hroute := route_eq hs c
    cases hd : c.directly s with
    | none => exact .inr (.inl ⟨s, rfl, hd, by rw [hroute, hd]⟩)
    | some s' => exact .inr (.inr ⟨s, s', rfl, hd, by rw [hroute, hd]⟩)

theorem registry_route (se : Session) (c : SessionCall) : (se.route c).2.registry = se.registry := by
  rcases se.route_cases c with ⟨-, h⟩ | ⟨s, -, -, h⟩ | ⟨s, s', -, -, h⟩
  · rw [h]
  · rw [h]
  · rw [h, registry_keep]

/-- Where a call fails no statement is left. -/
theorem statement_route_of_error {se : Session} {c : SessionCall} {e : Error} (he : (se.route c).1 = .error e) :
    (se.route c).2.statement = none := by
  rcases se.route_cases c with ⟨hs, h⟩ | ⟨s, -, -, h⟩ | ⟨s, s', -, -, h⟩
  · rw [h]
    exact hs
  · rw [h]
  · rw [h] at he ⊢
    cases hf : s'.firstFault with
    | none => rw [keep_sound hf] at he; cases he
    | some f => rw [keep_faulty hf]

/-- A call that succeeded was the builder's call on the statement, and left no fault. -/
theorem route_ok {se : Session} {c : SessionCall} (h : (se.route c).1 = .ok ()) :
    ∃ s s', se.statement = some s ∧ c.directly s = some s' ∧ s'.firstFault = none ∧
      se.route c = (.ok (), { se with statement := some s' }) := by
  rcases se.route_cases c with ⟨-, hr⟩ | ⟨s, -, -, hr⟩ | ⟨s, s', hs, hd, hr⟩
  · rw [hr] at h; cases h
  · rw [hr] at h; cases h
  · cases hf : s'.firstFault with
    | some f => rw [hr, keep_faulty hf] at h; cases h
    | none => exact ⟨s, s', hs, hd, hf, by rw [hr, keep_sound hf]⟩

theorem route_error_iff (se : Session) (c : SessionCall) :
    (∃ e, (se.route c).1 = .error e) ↔
      se.statement = none ∨ ∃ s, se.statement = some s ∧
        (s.kind ∉ c.kinds ∨ ∃ s' f, c.directly s = some s' ∧ s'.firstFault = some f) := by
  constructor
  · rintro ⟨e, he⟩
    rcases se.route_cases c with ⟨hs, -⟩ | ⟨s, hs, hd, -⟩ | ⟨s, s', hs, hd, hr⟩
    · exact .inl hs
    · exact .inr ⟨s, hs, .inl ((c.directly_eq_none s).mp hd)⟩
    · cases hf : s'.firstFault with
      | some f => exact .inr ⟨s, hs, .inr ⟨s', f, hd, hf⟩⟩
      | none => rw [hr, keep_sound hf] at he; cases he
  · rintro (hs | ⟨s, hs, hk | ⟨s', f, hd, hf⟩⟩)
    · exact ⟨_, by rw [route, hs]⟩
    · exact ⟨_, by rw [route_eq hs c, (c.directly_eq_none s).mpr hk]⟩
    · exact ⟨.builder f, by rw [route_eq hs c, hd]; dsimp only; rw [keep_faulty hf]⟩

/-! ## Runs -/

theorem start_cases (se : Session) (kind : StatementKind) (spec : String) :
    (∃ f, (Statement.start kind spec).firstFault = some f ∧
      se.start kind spec = (.error (.builder f), { se with statement := none })) ∨
    (Statement.start kind spec).firstFault = none ∧
      se.start kind spec = (.ok (), { se with statement := some (.start kind spec) }) := by
  cases hf : (Statement.start kind spec).firstFault with
  | some f => exact .inl ⟨f, rfl, keep_faulty hf se⟩
  | none => exact .inr ⟨rfl, keep_sound hf se⟩

/-- All calls in turn, whatever each of them gives, with what they gave and the session they leave. -/
def routeAll (se : Session) : List SessionCall → List (Except Error Unit) × Session
  | [] => ([], se)
  | c :: rest =>
    let (result, next) := se.route c
    let (results, last) := next.routeAll rest
    (result :: results, last)

theorem registry_routeAll (se : Session) (calls : List SessionCall) : (se.routeAll calls).2.registry = se.registry := by
  induction calls generalizing se with
  | nil => rfl
  | cons c rest ih => exact (ih (se.route c).2).trans (se.registry_route c)

/-- Calls that all succeed take a sound statement to the one that the builder makes of them. -/
theorem routeAll_ok {calls : List SessionCall} {se : Session} {s : Statement} (hs : se.statement = some s)
    (hsound : s.firstFault = none) (h : ∀ r ∈ (se.routeAll calls).1, r = .ok ()) :
    ∃ s', SessionCall.directlyAll calls s = some s' ∧ (se.routeAll calls).2.statement = some s' ∧
      s'.firstFault = none := by
  induction calls generalizing se s with
  | nil => exact ⟨s, rfl, hs, hsound⟩
  | cons c rest ih =>
    obtain ⟨hc, hrest⟩ := List.forall_mem_cons.mp h
    obtain ⟨t, t', ht, hd, hf, hroute⟩ := route_ok hc
    obtain rfl : t = s := Option.some.inj (ht.symm.trans hs)
    have hnext : (se.route c).2.statement = some t' := by rw [hroute]
    obtain ⟨s', hall, hstatement, hsound'⟩ := ih hnext hf hrest
    refine ⟨s', ?_, hstatement, hsound'⟩
    rw [SessionCall.directlyAll, List.foldlM_cons, hd]
    exact hall

/-- A session is its builders with the registry beside them. After an entry and any calls that all succeeded it
holds what the builder makes of the same calls, free of faults. A call fails exactly when there is no statement, when
its kind does not have the call, or when the builder records a fault, which is then the error; after a failure there
is no statement. The registry stays as it is throughout. -/
theorem refines_builders (se : Session) :
    (∀ (kind : StatementKind) (spec : String) (calls : List SessionCall),
      let entered := se.start kind spec
      let routed := entered.2.routeAll calls
      (entered.1 = .ok () ↔ (Statement.start kind spec).firstFault = none) ∧
      (∀ e, entered.1 = .error e →
        (∃ f, (Statement.start kind spec).firstFault = some f ∧ e = .builder f) ∧ entered.2.statement = none) ∧
      (entered.1 = .ok () ∧ (∀ r ∈ routed.1, r = .ok ()) →
        ∃ s, SessionCall.directlyAll calls (.start kind spec) = some s ∧ routed.2.statement = some s ∧
          s.firstFault = none) ∧
      entered.2.registry = se.registry ∧ routed.2.registry = se.registry) ∧
    ∀ c : SessionCall,
      ((∃ e, (se.route c).1 = .error e) ↔
        se.statement = none ∨ ∃ s, se.statement = some s ∧
          (s.kind ∉ c.kinds ∨ ∃ s' f, c.directly s = some s' ∧ s'.firstFault = some f)) ∧
      (∀ s s' f, se.statement = some s → c.directly s = some s' → s'.firstFault = some f →
        (se.route c).1 = .error (.builder f)) ∧
      (∀ e, (se.route c).1 = .error e → (se.route c).2.statement = none) ∧
      (se.route c).2.registry = se.registry := by
  refine ⟨fun kind spec calls => ?_, fun c => ⟨se.route_error_iff c, ?_, ?_, se.registry_route c⟩⟩
  · intro entered routed
    have hregistry : entered.2.registry = se.registry := registry_keep _ se
    have hrouted : routed.2.registry = se.registry := (registry_routeAll _ calls).trans hregistry
    rcases se.start_cases kind spec with ⟨f, hf, hentered⟩ | ⟨hsound, hentered⟩
    · have hfailed : entered.1 = .error (.builder f) := congrArg (·.1) hentered
      have hnone : entered.2.statement = none := congrArg (·.2.statement) hentered
      refine ⟨?_, fun e he => ?_, fun h => ?_, hregistry, hrouted⟩
      · rw [hfailed, hf]
        exact iff_of_false (fun h => by cases h) (Option.some_ne_none f)
      · exact ⟨⟨f, hf, Except.error.inj (he.symm.trans hfailed)⟩, hnone⟩
      · cases hfailed.symm.trans h.1
    · have hok : entered.1 = .ok () := congrArg (·.1) hentered
      have hheld : entered.2.statement = some (.start kind spec) := congrArg (·.2.statement) hentered
      refine ⟨iff_of_true hok hsound, fun e he => ?_, fun h => ?_, hregistry, hrouted⟩
      · cases hok.symm.trans he
      · exact routeAll_ok hheld hsound h.2
  · intro s s' f hs hd hf
    rw [route_eq hs c, hd]
    dsimp only
    rw [keep_faulty hf]
  · exact fun e he => statement_route_of_error he

end Session

end SqlComposer
