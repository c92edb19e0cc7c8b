import CallTrace.Tracing.Session

/-!
# A session seen from one lifecycle

`stepAt` is all that a step of a session does to the lifecycle with a given number
(`getElem?_step`).  How the step ends and who has the hook after it depends on the lifecycle that
is stepped alone (`outcome_step`, `hook_step`).  `Throughout` says of each step of a run, in the
state in which it is taken, what is asked of it.
-/

namespace CallTrace

variable {σ : Type} [LineSource σ]

/-! ## Steps of one lifecycle -/

theorem Lifecycle.step_of_live {l : Lifecycle σ} (h : l.state ≠ .dropped) (step : LifecycleStep) :
    l.step step = l.liveStep step := if_neg h

theorem Lifecycle.step_channel (l : Lifecycle σ) (change : ChannelChange) :
    l.step (.channel change) = l.liveStep (.channel change) := by
  unfold Lifecycle.step
  split <;> rfl

namespace Session

variable (s : Session σ)

/-! ## Steps of a session -/

/-- What a step makes of lifecycle `j`. -/
def stepAt (step : SessionStep) (j : Nat) (l : Lifecycle σ) : Lifecycle σ :=
  match step with
  | .dispatch e => if s.hook = some j then { l with tracer := l.tracer.onEvent e } else l
  | .uninstall => l
  | .on i step => if i = j then (l.step step).lifecycle else l

theorem getElem?_step (step : SessionStep) (j : Nat) :
    (s.step step).2.lifecycles[j]? = (s.lifecycles[j]?).map (s.stepAt step j) := by
  cases step with
  | dispatch e =>
    show (s.dispatch e).lifecycles[j]? = _
    unfold dispatch stepAt
    cases hh : s.hook with
    | none => simp
    | some i =>
      show (s.lifecycles.modify i _)[j]? = _
      rw [List.getElem?_modify]
      by_cases hij : i = j
      · simp [hij]
      · simp [hij]
  | uninstall =>
    have hid : s.stepAt .uninstall j = id := rfl
    rw [hid, Option.map_id]
    rfl
  | on i step =>
    show (s.stepOf i step).2.lifecycles[j]? = _
    by_cases hij : i = j
    · subst hij
      unfold stepOf stepAt
      cases hi : s.lifecycles[i]? with
      | none => exact hi
      | some l =>
        show (s.lifecycles.set i (l.step step).lifecycle)[i]? = _
        rw [List.getElem?_set_self', hi]
        simp
    · have hid : s.stepAt (.on i step) j = id := funext fun l => if_neg hij
      rw [s.getElem?_stepOf_of_ne step hij, hid, Option.map_id]
      rfl

theorem getElem?_dispatch (e : Event) (j : Nat) :
    (s.dispatch e).lifecycles[j]? =
      (s.lifecycles[j]?).map fun l =>
        if s.hook = some j then { l with tracer := l.tracer.onEvent e } else l :=
  s.getElem?_step (.dispatch e) j

/-- An event does not reach who has not got the hook. -/
theorem getElem?_dispatch_of_ne {j : Nat} (h : s.hook ≠ some j) (e : Event) :
    (s.dispatch e).lifecycles[j]? = s.lifecycles[j]? := by
  rw [getElem?_dispatch]
  simp [h]

omit [LineSource σ] in
/-- Sessions with the same hook and the same lifecycles are the same. -/
theorem eq_of_getElem? {s s' : Session σ} (hhook : s.hook = s'.hook)
    (h : ∀ j : Nat, s.lifecycles[j]? = s'.lifecycles[j]?) : s = s' := by
  cases s
  cases s'
  cases hhook
  cases List.ext_getElem? h
  rfl

theorem outcome_step (i : Nat) (step : LifecycleStep) :
    (s.step (.on i step)).1 = (s.lifecycles[i]?).elim (.ok ()) fun l => (l.step step).outcome := by
  show (s.stepOf i step).1 = _
  unfold stepOf
  cases s.lifecycles[i]? <;> rfl

theorem hook_step (i : Nat) (step : LifecycleStep) :
    (s.step (.on i step)).2.hook =
      (s.lifecycles[i]?).elim s.hook fun l => hookAfter s.hook i (l.step step).effect := by
  show (s.stepOf i step).2.hook = _
  unfold stepOf
  cases s.lifecycles[i]? <;> rfl

omit [LineSource σ] in
/-- Who has the hook after a step of lifecycle `i` kept it or is `i`. -/
theorem hookAfter_eq_some {hook : Option Nat} {i j : Nat} {effect : HookEffect}
    (h : hookAfter hook i effect = some j) :
    (effect = .keep ∧ hook = some j) ∨ (effect = .take ∧ i = j) := by
  cases effect with
  | keep => exact .inl ⟨rfl, h⟩
  | take => exact .inr ⟨rfl, Option.some.inj h⟩
  | clear => cases h

/-- A step of one lifecycle gives the hook to no other. -/
theorem hook_of_step_other {k j : Nat} {own : LifecycleStep} (hkj : k ≠ j)
    (h : (s.step (.on k own)).2.hook = some j) : s.hook = some j := by
  rw [s.hook_step] at h
  cases hl : s.lifecycles[k]? with
  | none =>
    rw [hl] at h
    exact h
  | some l =>
    rw [hl, Option.elim_some] at h
    rcases hookAfter_eq_some h with ⟨-, hhook⟩ | ⟨-, heq⟩
    · exact hhook
    · exact absurd heq hkj

theorem hook_dispatch (e : Event) : (s.step (.dispatch e)).2.hook = s.hook := by
  show (s.dispatch e).hook = _
  unfold dispatch
  cases hh : s.hook with
  | none => exact hh
  | some i => exact hh

/-! ## Runs -/

theorem run_append (steps steps' : List SessionStep) :
    s.run (steps ++ steps') = (s.run steps).run steps' := List.foldl_append

theorem length_run (steps : List SessionStep) :
    (s.run steps).lifecycles.length = s.lifecycles.length := by
  induction steps generalizing s with
  | nil => rfl
  | cons step rest ih => exact (ih _).trans (s.length_step step)

/-- Every step of the run is as said, in the state in which it is taken. -/
def Throughout (P : Session σ → SessionStep → Prop) (s : Session σ) : List SessionStep → Prop
  | [] => True
  | step :: rest => P s step ∧ (s.step step).2.Throughout P rest

theorem throughout_append (P : Session σ → SessionStep → Prop) (steps steps' : List SessionStep) :
    s.Throughout P (steps ++ steps') ↔
      s.Throughout P steps ∧ (s.run steps).Throughout P steps' := by
  induction steps generalizing s with
  | nil => simp [Throughout, run]
  | cons step rest ih =>
    rw [List.cons_append, Throughout, Throughout, ih, and_assoc]
    rfl

end Session

end CallTrace
