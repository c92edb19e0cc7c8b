import CallTrace.Proofs.Tracing.Sessions
import CallTrace.Source.Snapshots
import Mathlib.Data.List.Induction

/-!
# Who has the hook

The hook, the state of a lifecycle and its arming are three things that a step changes one by one.
`Lifecycle.turn` says all that a step of a lifecycle does to them, and `turn` all that any step of
the session does to the hook and to one lifecycle.  With it two laws are shown for every run:

* Whoever has the hook is active and armed, and only a setup gives the hook (`hook_step_cases`).  So
  a lifecycle that ended hears of no event before it is set up again
  (`owner_armed_and_ended_unreached`).
* The converse fails: an active lifecycle need not have the hook (`active_without_hook`).  It has
  the hook exactly if nobody else changed the hook since it was set up last
  (`active_has_hook_iff_undisturbed`).
-/

namespace CallTrace

variable {σ : Type} [LineSource σ]

/-! ## What a step of a lifecycle does to state, arming and hook -/

/-- Whether the step is meant to end tracing. -/
def LifecycleStep.ends : LifecycleStep → Bool
  | .teardown | .release | .drop => true
  | _ => false

/-- The ways in which a step of a lifecycle can turn out, as far as state, arming and hook go. -/
inductive Lifecycle.Turn (l : Lifecycle σ) (step : LifecycleStep) (a : LifecycleAnswer σ) : Prop
  | kept (effect : a.effect = .keep) (state : a.lifecycle.state = l.state)
      (armed : a.lifecycle.armed = l.armed)
      (noSetup : ∀ config, step = .setup config → a.outcome ≠ .ok ())
      (idle : step.ends = true → l.state = .active → l.armed = false)
  | setUp (isSetup : ∃ config, step = .setup config) (outcome : a.outcome = .ok ())
      (effect : a.effect = .take) (state : a.lifecycle.state = .active)
      (armed : a.lifecycle.armed = true)
  | ended (effect : a.effect = .clear) (state : a.lifecycle.state ≠ .active)
  | droppedUnarmed (effect : a.effect = .keep) (unarmed : l.armed = false)
      (state : a.lifecycle.state = .dropped)

namespace Lifecycle

variable (l : Lifecycle σ)

omit [LineSource σ] in
theorem state_drop : l.drop.state = .dropped := by
  unfold drop
  split
  · assumption
  · rfl

theorem turn_liveStep (step : LifecycleStep) : l.Turn step (l.liveStep step) := by
  cases step with
  | setup config =>
    rw [liveStep, setup]
    cases l.tracer.configure config with
    | error e => exact .kept rfl rfl rfl nofun nofun
    | ok tracer => exact .setUp ⟨config, rfl⟩ rfl rfl rfl rfl
  | configure config =>
    rw [liveStep, configure]
    cases l.tracer.configure config <;> exact .kept rfl rfl rfl nofun nofun
  | handle e => exact .kept rfl rfl rfl nofun nofun
  | teardown => exact .ended rfl (by simp [liveStep, Lifecycle.teardown])
  | release =>
    cases ha : l.armed with
    | true =>
      refine .ended ?_ ?_
      · simp [liveStep, releaseEffect, ha]
      · simp [liveStep, Lifecycle.release, Lifecycle.teardown, ha]
    | false =>
      have hrelease : l.release = l := by
        rw [Lifecycle.release, ha]
        rfl
      refine .kept ?_ ?_ ?_ nofun fun _ _ => ha
      · simp [liveStep, releaseEffect, ha]
      · simp [liveStep, hrelease]
      · simp [liveStep, hrelease]
  | report => exact .kept rfl rfl rfl nofun nofun
  | drop =>
    cases ha : l.armed with
    | true =>
      refine .ended ?_ ?_
      · simp [liveStep, releaseEffect, ha]
      · simp [liveStep, l.state_drop]
    | false =>
      refine .droppedUnarmed ?_ ha l.state_drop
      simp [liveStep, releaseEffect, ha]
  | channel change => exact .kept rfl rfl rfl nofun nofun

/-- All that a step of a lifecycle does to state, arming and hook. -/
theorem turn (step : LifecycleStep) : l.Turn step (l.step step) := by
  unfold Lifecycle.step
  split
  · next hd =>
    cases step with
    | channel change => exact l.turn_liveStep (.channel change)
    | _ => exact .kept rfl rfl rfl (by simp) (by simp [hd])
  · exact l.turn_liveStep step

end Lifecycle

/-! ## What a step of a session does to one lifecycle and the hook -/

namespace Session

variable {s : Session σ} {i : Nat}

/-- The step sets lifecycle `i` up, and succeeds. -/
def SetsUp (s : Session σ) (i : Nat) (step : SessionStep) : Prop :=
  (∃ config, step = .on i (.setup config)) ∧ (s.step step).1 = .ok ()

/-- The step is none of lifecycle `i`, and it takes or clears the hook. -/
def Disturbs (s : Session σ) (i : Nat) : SessionStep → Prop
  | .dispatch _ => False
  | .uninstall => True
  | .on k own => k ≠ i ∧ ∃ l, s.lifecycles[k]? = some l ∧ (l.step own).effect ≠ .keep

theorem hook_step_ne_of_disturbs {step : SessionStep} (h : s.Disturbs i step) :
    (s.step step).2.hook ≠ some i := by
  intro hhook
  cases step with
  | dispatch e => exact h
  | uninstall => cases hhook
  | on k own =>
    obtain ⟨hki, l, hl, heffect⟩ := h
    rw [s.hook_step, hl, Option.elim_some] at hhook
    rcases hookAfter_eq_some hhook with ⟨hkeep, -⟩ | ⟨-, heq⟩
    · exact heffect hkeep
    · exact hki heq

theorem hook_step_of_not_disturbs {step : SessionStep} (hother : ∀ own, step ≠ .on i own)
    (h : ¬ s.Disturbs i step) : (s.step step).2.hook = s.hook := by
  cases step with
  | dispatch e => exact s.hook_dispatch e
  | uninstall => exact absurd trivial h
  | on k own =>
    rw [s.hook_step]
    cases hl : s.lifecycles[k]? with
    | none => rfl
    | some l =>
      have hki : k ≠ i := fun hki => hother own (by rw [hki])
      have hkeep : (l.step own).effect = .keep := by
        by_contra heffect
        exact h ⟨hki, l, hl, heffect⟩
      rw [Option.elim_some, hkeep]
      rfl

/-- The state of lifecycle `i`, if it is there. -/
def state? (s : Session σ) (i : Nat) : Option LifecycleState := (s.lifecycles[i]?).map (·.state)

/-- Whether lifecycle `i` is armed, if it is there. -/
def armed? (s : Session σ) (i : Nat) : Option Bool := (s.lifecycles[i]?).map (·.armed)

theorem state?_step (s : Session σ) (step : SessionStep) (i : Nat) :
    (s.step step).2.state? i = (s.lifecycles[i]?).map fun l => (s.stepAt step i l).state := by
  rw [state?, s.getElem?_step, Option.map_map]
  rfl

theorem armed?_step (s : Session σ) (step : SessionStep) (i : Nat) :
    (s.step step).2.armed? i = (s.lifecycles[i]?).map fun l => (s.stepAt step i l).armed := by
  rw [armed?, s.getElem?_step, Option.map_map]
  rfl

/-- The others change neither state nor arming. -/
theorem same_step_of_other {step : SessionStep} (h : ∀ own, step ≠ .on i own) :
    (s.step step).2.state? i = s.state? i ∧ (s.step step).2.armed? i = s.armed? i := by
  have hsame : ∀ l, (s.stepAt step i l).state = l.state ∧ (s.stepAt step i l).armed = l.armed := by
    intro l
    cases step with
    | dispatch e =>
      rw [stepAt]
      split <;> exact ⟨rfl, rfl⟩
    | uninstall => exact ⟨rfl, rfl⟩
    | on k own =>
      have hki : k ≠ i := fun hki => h own (by rw [hki])
      rw [stepAt, if_neg hki]
      exact ⟨rfl, rfl⟩
  rw [s.state?_step, s.armed?_step]
  exact ⟨congrArg (Option.map · _) (funext fun l => (hsame l).1),
    congrArg (Option.map · _) (funext fun l => (hsame l).2)⟩

/-- The ways in which a step can turn out for lifecycle `i`. -/
inductive Turn (s : Session σ) (i : Nat) (step : SessionStep) (s' : Session σ) : Prop
  | kept (hook : s'.hook = s.hook) (state : s'.state? i = s.state? i)
      (armed : s'.armed? i = s.armed? i) (undisturbed : ¬ s.Disturbs i step)
      (noSetup : ¬ s.SetsUp i step)
      (idle : ∀ ending, step = .on i ending → ending.ends = true →
        s.state? i = some .active → s.armed? i = some false)
  | setUp (setsUp : s.SetsUp i step) (hook : s'.hook = some i) (state : s'.state? i = some .active)
      (armed : s'.armed? i = some true)
  | ended (hook : s'.hook = none) (state : s'.state? i ≠ some .active)
  | droppedUnarmed (hook : s'.hook = s.hook) (unarmed : s.armed? i = some false)
      (state : s'.state? i = some .dropped)
  | absent (hook : s'.hook = s.hook) (before : s.state? i = none) (after : s'.state? i = none)
  | disturbed (disturbs : s.Disturbs i step) (hook : s'.hook ≠ some i)
      (state : s'.state? i = s.state? i)

theorem turn_other {step : SessionStep} (h : ∀ own, step ≠ .on i own) :
    s.Turn i step (s.step step).2 := by
  obtain ⟨hstate, harmed⟩ := same_step_of_other (s := s) h
  by_cases hd : s.Disturbs i step
  · exact .disturbed hd (hook_step_ne_of_disturbs hd) hstate
  · refine .kept (hook_step_of_not_disturbs h hd) hstate harmed hd ?_ ?_
    · rintro ⟨⟨config, hsetup⟩, -⟩
      exact h _ hsetup
    · intro ending hending
      exact absurd hending (h ending)

theorem turn_own {l : Lifecycle σ} (hl : s.lifecycles[i]? = some l) (own : LifecycleStep) :
    s.Turn i (.on i own) (s.step (.on i own)).2 := by
  have hhook : (s.step (.on i own)).2.hook = hookAfter s.hook i (l.step own).effect := by
    rw [s.hook_step, hl, Option.elim_some]
  have hstate : (s.step (.on i own)).2.state? i = some (l.step own).lifecycle.state := by
    rw [s.state?_step, hl, Option.map_some, stepAt, if_pos rfl]
  have harmed : (s.step (.on i own)).2.armed? i = some (l.step own).lifecycle.armed := by
    rw [s.armed?_step, hl, Option.map_some, stepAt, if_pos rfl]
  have houtcome : (s.step (.on i own)).1 = (l.step own).outcome := by
    rw [s.outcome_step, hl, Option.elim_some]
  have hstate₀ : s.state? i = some l.state := by
    rw [state?, hl, Option.map_some]
  have harmed₀ : s.armed? i = some l.armed := by
    rw [armed?, hl, Option.map_some]
  cases l.turn own with
  | kept effect state armed noSetup idle =>
    rw [effect] at hhook
    rw [state, ← hstate₀] at hstate
    rw [armed, ← harmed₀] at harmed
    refine .kept hhook hstate harmed (fun hd => hd.1 rfl) ?_ ?_
    · rintro ⟨⟨config, h⟩, hok⟩
      cases h
      exact noSetup config rfl (houtcome.symm.trans hok)
    · rintro _ ⟨⟩ hends hactive
      rw [harmed₀, idle hends (Option.some.inj (hstate₀.symm.trans hactive))]
  | setUp isSetup outcome effect state armed =>
    rw [effect] at hhook
    rw [state] at hstate
    rw [armed] at harmed
    obtain ⟨config, rfl⟩ := isSetup
    exact .setUp ⟨⟨config, rfl⟩, houtcome.trans outcome⟩ hhook hstate harmed
  | ended effect state =>
    rw [effect] at hhook
    refine .ended hhook fun hactive => ?_
    exact state (Option.some.inj (hstate.symm.trans hactive))
  | droppedUnarmed effect unarmed state =>
    rw [effect] at hhook
    rw [state] at hstate
    rw [unarmed] at harmed₀
    exact .droppedUnarmed hhook harmed₀ hstate

/-- All that a step does to the state and arming of one lifecycle and to the hook. -/
theorem turn (s : Session σ) (i : Nat) (step : SessionStep) : s.Turn i step (s.step step).2 := by
  by_cases hown : ∃ own, step = .on i own
  · obtain ⟨own, rfl⟩ := hown
    cases hl : s.lifecycles[i]? with
    | some l => exact turn_own hl own
    | none =>
      refine .absent ?_ ?_ ?_
      · rw [s.hook_step, hl, Option.elim_none]
      · rw [state?, hl, Option.map_none]
      · rw [s.state?_step, hl, Option.map_none]
  · exact turn_other fun own h => hown ⟨own, h⟩

/-! ## Whoever has the hook is active and armed -/

/-- Only a setup gives the hook. -/
theorem hook_step_cases {step : SessionStep} (h : (s.step step).2.hook = some i) :
    s.hook = some i ∨ s.SetsUp i step := by
  cases s.turn i step with
  | kept hook => exact .inl (hook.symm.trans h)
  | setUp setsUp => exact .inr setsUp
  | ended hook => cases hook.symm.trans h
  | droppedUnarmed hook => exact .inl (hook.symm.trans h)
  | absent hook => exact .inl (hook.symm.trans h)
  | disturbed _ hook => exact absurd h hook

/-- Who has not got the hook does not get it before being set up. -/
theorem hook_run_ne {steps : List SessionStep} (h : s.hook ≠ some i)
    (hsteps : s.Throughout (fun s step => ¬ s.SetsUp i step) steps) :
    (s.run steps).hook ≠ some i := by
  induction steps generalizing s with
  | nil => exact h
  | cons step rest ih =>
    refine ih (fun hnext => ?_) hsteps.2
    rcases hook_step_cases hnext with hhook | hsetup
    · exact h hhook
    · exact hsteps.1 hsetup

/-- Whoever has the hook is active and armed. -/
def Owned (s : Session σ) : Prop :=
  ∀ i, s.hook = some i → s.state? i = some .active ∧ s.armed? i = some true

/-- Who has the hook after a step either kept it and did not end, or was set up. -/
theorem Owned.hook_step_cases (h : s.Owned) {step : SessionStep}
    (hi : (s.step step).2.hook = some i) :
    (s.hook = some i ∧ (s.step step).2.state? i = s.state? i ∧
      (s.step step).2.armed? i = s.armed? i ∧ ∀ ending, step = .on i ending → ending.ends = false) ∨
    (s.SetsUp i step ∧ (s.step step).2.state? i = some .active ∧
      (s.step step).2.armed? i = some true) := by
  cases s.turn i step with
  | kept hook state armed _ _ idle =>
    refine .inl ⟨hook.symm.trans hi, state, armed, fun ending hending => ?_⟩
    obtain ⟨hactive, harmed⟩ := h i (hook.symm.trans hi)
    rw [Bool.eq_false_iff]
    intro hends
    cases (idle ending hending hends hactive).symm.trans harmed
  | setUp setsUp _ state armed => exact .inr ⟨setsUp, state, armed⟩
  | ended hook => cases hook.symm.trans hi
  | droppedUnarmed hook unarmed =>
    have harmed := (h i (hook.symm.trans hi)).2
    cases unarmed.symm.trans harmed
  | absent hook before =>
    have hactive := (h i (hook.symm.trans hi)).1
    cases before.symm.trans hactive
  | disturbed _ hook => exact absurd hi hook

theorem owned_step (h : s.Owned) (step : SessionStep) : (s.step step).2.Owned := by
  intro i hi
  rcases h.hook_step_cases hi with ⟨hhook, hstate, harmed, -⟩ | ⟨-, hstate, harmed⟩
  · rw [hstate, harmed]
    exact h i hhook
  · exact ⟨hstate, harmed⟩

theorem owned_run (h : s.Owned) (steps : List SessionStep) : (s.run steps).Owned := by
  induction steps generalizing s with
  | nil => exact h
  | cons step rest ih => exact ih (owned_step h step)

omit [LineSource σ] in
theorem owned_ofTracers (tracers : List (Tracer σ)) : (ofTracers tracers).Owned := by
  rintro i h
  cases h

omit [LineSource σ] in
theorem Owned.exists_owner (h : s.Owned) (hi : s.hook = some i) :
    ∃ l, s.lifecycles[i]? = some l ∧ l.state = .active ∧ l.armed = true := by
  obtain ⟨hstate, harmed⟩ := h i hi
  obtain ⟨l, hl, hactive⟩ := Option.map_eq_some_iff.1 hstate
  rw [armed?, hl] at harmed
  exact ⟨l, hl, hactive, Option.some.inj harmed⟩

/-- What ended has not got the hook. -/
theorem hook_ne_of_ends (h : s.Owned) {ending : LifecycleStep} (hends : ending.ends = true) :
    (s.step (.on i ending)).2.hook ≠ some i := by
  intro hi
  rcases h.hook_step_cases hi with ⟨-, -, -, hgoesOn⟩ | ⟨⟨⟨config, hsetup⟩, -⟩, -⟩
  · rw [hgoesOn ending rfl] at hends
    cases hends
  · cases hsetup
    cases hends

/-- **Whoever has the hook is active and armed, and what ended is not reached.**  At any time in any
run the lifecycle that has the hook is active, so it is not dropped, and armed.  After a teardown, a
drop or a release no event that is dispatched changes the lifecycle until it is set up again,
whatever the others do. -/
theorem owner_armed_and_ended_unreached (tracers : List (Tracer σ)) (steps : List SessionStep) :
    let s := (ofTracers tracers).run steps
    (∀ i, s.hook = some i →
      ∃ l, s.lifecycles[i]? = some l ∧ l.state = .active ∧ l.armed = true) ∧
    ∀ (i : Nat) (ending : LifecycleStep) (later : List SessionStep), ending.ends = true →
      let ended := (s.step (.on i ending)).2
      ended.Throughout (fun s step => ¬ s.SetsUp i step) later →
        ∀ e, ((ended.run later).dispatch e).lifecycles[i]? = (ended.run later).lifecycles[i]? := by
  intro s
  have howned : s.Owned := owned_run (owned_ofTracers tracers) steps
  refine ⟨fun i hi => howned.exists_owner hi, fun i ending later hends => ?_⟩
  intro ended hlater e
  exact getElem?_dispatch_of_ne _ (hook_run_ne (hook_ne_of_ends howned hends) hlater) e

/-- The first lifecycle had the hook and is torn down.  Then the second one takes the hook, and a
pattern is refused for the first one, which stays armed until it is released. -/
theorem owner_armed_and_ended_unreached_refused_setup :
    let tracer : Tracer FileLines := .fresh .standard (.ofDisk .empty) .unlimited
    let call : Event := ⟨.called, .ofFunction "demo" "main"⟩
    let s := (ofTracers [tracer, tracer]).run [.on 0 (.setup ⟨"demo", false⟩), .dispatch call]
    let ended := (s.step (.on 0 .teardown)).2
    let later : List SessionStep := [.on 1 (.setup .standard), .on 0 (.setup ⟨"(", false⟩),
      .dispatch call, .on 0 .release]
    s.hook = some 0 ∧ LifecycleStep.teardown.ends = true ∧
      ended.Throughout (fun s step => ¬ s.SetsUp 0 step) later ∧
      ((ended.run later).dispatch call).lifecycles[0]? = (ended.run later).lifecycles[0]? := by
  intro tracer call s ended later
  have hlater : ended.Throughout (fun s step => ¬ s.SetsUp 0 step) later := by
    refine ⟨?_, ?_, ?_, ?_, trivial⟩
    · rintro ⟨⟨config, h⟩, -⟩
      cases h
    · rintro ⟨-, h⟩
      cases h
    · rintro ⟨⟨config, h⟩, -⟩
      cases h
    · rintro ⟨⟨config, h⟩, -⟩
      cases h
  refine ⟨rfl, rfl, hlater, ?_⟩
  exact (owner_armed_and_ended_unreached [tracer, tracer] _).2 0 .teardown later rfl hlater call

/-! ## An active lifecycle may have lost the hook -/

/-- If lifecycle `i` is active, it has the hook. -/
def Truthful (s : Session σ) (i : Nat) : Prop := s.state? i = some .active → s.hook = some i

theorem SetsUp.not_disturbs {step : SessionStep} (h : s.SetsUp i step) : ¬ s.Disturbs i step := by
  obtain ⟨⟨config, rfl⟩, -⟩ := h
  exact fun hdisturbs => hdisturbs.1 rfl

/-- Who is active after a step was active before and kept the hook or was disturbed, or was set
up. -/
theorem active_step_cases {step : SessionStep} (h : (s.step step).2.state? i = some .active) :
    (s.state? i = some .active ∧ ¬ s.SetsUp i step ∧ (s.step step).2.hook = s.hook) ∨
    (s.SetsUp i step ∧ (s.step step).2.hook = some i) ∨
    (s.state? i = some .active ∧ s.Disturbs i step) := by
  cases s.turn i step with
  | kept hook state _ _ noSetup => exact .inl ⟨state.symm.trans h, noSetup, hook⟩
  | setUp setsUp hook => exact .inr (.inl ⟨setsUp, hook⟩)
  | ended _ state => exact absurd h state
  | droppedUnarmed _ _ state => cases state.symm.trans h
  | absent _ _ after => cases after.symm.trans h
  | disturbed disturbs _ state => exact .inr (.inr ⟨state.symm.trans h, disturbs⟩)

theorem truthful_step (h : s.Truthful i) {step : SessionStep} (hstep : ¬ s.Disturbs i step) :
    (s.step step).2.Truthful i := by
  intro hactive
  rcases active_step_cases hactive with ⟨hbefore, -, hkept⟩ | ⟨-, hhook⟩ | ⟨-, hdisturbs⟩
  · exact hkept.trans (h hbefore)
  · exact hhook
  · exact absurd hdisturbs hstep

/-- A setup that succeeds gives the hook. -/
theorem truthful_of_setsUp {step : SessionStep} (h : s.SetsUp i step) :
    (s.step step).2.Truthful i := by
  intro hactive
  rcases active_step_cases hactive with ⟨-, hno, -⟩ | ⟨-, hhook⟩ | ⟨-, hdisturbs⟩
  · exact absurd h hno
  · exact hhook
  · exact absurd hdisturbs h.not_disturbs

theorem truthful_run {steps : List SessionStep} (h : s.Truthful i)
    (hsteps : s.Throughout (fun s step => ¬ s.Disturbs i step) steps) :
    (s.run steps).Truthful i := by
  induction steps generalizing s with
  | nil => exact h
  | cons step rest ih => exact ih (truthful_step h hsteps.1) hsteps.2

/-- Nobody disturbed whoever still has the hook and was not set up in the meantime. -/
theorem undisturbed_of_hook {steps : List SessionStep}
    (hsteps : s.Throughout (fun s step => ¬ s.SetsUp i step) steps)
    (hhook : (s.run steps).hook = some i) :
    s.Throughout (fun s step => ¬ s.Disturbs i step) steps := by
  induction steps generalizing s with
  | nil => trivial
  | cons step rest ih =>
    -- had this step disturbed, the hook would be gone for the rest, which holds no setup
    refine ⟨fun hdisturbs => ?_, ih hsteps.2 hhook⟩
    exact hook_run_ne (hook_step_ne_of_disturbs hdisturbs) hsteps.2 hhook

/-! ### The last setup -/

/-- The steps end with a setup of lifecycle `i` and those that came after it. -/
structure LastSetup (start : Session σ) (i : Nat) (steps before : List SessionStep)
    (setup : SessionStep) (after : List SessionStep) : Prop where
  steps_eq : steps = before ++ setup :: after
  setsUp : (start.run before).SetsUp i setup
  last : ((start.run before).step setup).2.Throughout (fun s step => ¬ s.SetsUp i step) after

/-- An active lifecycle has a last setup. -/
theorem exists_lastSetup (tracers : List (Tracer σ)) (steps : List SessionStep)
    (hactive : ((ofTracers tracers).run steps).state? i = some .active) :
    ∃ before setup after, (ofTracers tracers).LastSetup i steps before setup after := by
  -- from the end: the last setup is the last step, or else the last setup before it
  induction steps using List.reverseRecOn with
  | nil =>
    have hmap : ((tracers.map Lifecycle.ofTracer)[i]?).map (·.state) = some .active := hactive
    rw [List.getElem?_map, Option.map_map] at hmap
    obtain ⟨t, -, ht⟩ := Option.map_eq_some_iff.1 hmap
    cases ht
  | append_singleton steps step ih =>
    rw [run_append] at hactive
    by_cases hsetup : ((ofTracers tracers).run steps).SetsUp i step
    · exact ⟨steps, step, [], rfl, hsetup, trivial⟩
    · have hbefore : ((ofTracers tracers).run steps).state? i = some .active := by
        rcases active_step_cases hactive with ⟨hbefore, -⟩ | ⟨hsetsUp, -⟩ | ⟨hbefore, -⟩
        · exact hbefore
        · exact absurd hsetsUp hsetup
        · exact hbefore
      obtain ⟨before, setup, after, rfl, hsetsUp, hlast⟩ := ih hbefore
      refine ⟨before, setup, after ++ [step], by simp, hsetsUp, ?_⟩
      rw [throughout_append]
      rw [run_append] at hsetup
      exact ⟨hlast, hsetup, trivial⟩

/-- **An active lifecycle has the hook exactly if it was not disturbed.**  An active lifecycle was
set up.  Since the last time, either nobody else took or cleared the hook, and then it has the hook
and every event that is dispatched reaches it, or somebody did, and then it has not. -/
theorem active_has_hook_iff_undisturbed (tracers : List (Tracer σ)) (steps : List SessionStep)
    (i : Nat) (l : Lifecycle σ)
    (hl : ((ofTracers tracers).run steps).lifecycles[i]? = some l) (hactive : l.state = .active) :
    ∃ before setup after, (ofTracers tracers).LastSetup i steps before setup after ∧
      let s := (ofTracers tracers).run steps
      let since := (((ofTracers tracers).run before).step setup).2
      (since.Throughout (fun s step => ¬ s.Disturbs i step) after ↔ s.hook = some i) ∧
      (since.Throughout (fun s step => ¬ s.Disturbs i step) after → ∀ e,
        (s.dispatch e).lifecycles[i]? = some { l with tracer := l.tracer.onEvent e }) := by
  have hstate : ((ofTracers tracers).run steps).state? i = some .active := by
    rw [state?, hl, Option.map_some, hactive]
  obtain ⟨before, setup, after, hlast⟩ := exists_lastSetup tracers steps hstate
  refine ⟨before, setup, after, hlast, ?_⟩
  intro s since
  have hrun : s = since.run after := by
    show (ofTracers tracers).run steps = _
    rw [hlast.steps_eq, run_append]
    rfl
  have hhook : since.Throughout (fun s step => ¬ s.Disturbs i step) after ↔ s.hook = some i := by
    constructor
    · intro hundisturbed
      have htruthful : s.Truthful i := by
        rw [hrun]
        exact truthful_run (truthful_of_setsUp hlast.setsUp) hundisturbed
      exact htruthful hstate
    · intro hhook
      rw [hrun] at hhook
      exact undisturbed_of_hook hlast.last hhook
  refine ⟨hhook, fun hundisturbed e => ?_⟩
  rw [getElem?_dispatch, hl, Option.map_some, if_pos (hhook.1 hundisturbed)]

/-- The second lifecycle takes the hook from the first one, which takes it back. -/
theorem active_has_hook_iff_undisturbed_taken_back :
    let tracer : Tracer FileLines := .fresh .standard (.ofDisk .empty) .unlimited
    let start := ofTracers [tracer, tracer]
    let steps : List SessionStep := [.on 0 (.setup .standard), .on 1 (.setup .standard),
      .on 0 (.setup .standard), .on 1 .report]
    ∃ l, (start.run steps).lifecycles[0]? = some l ∧ l.state = .active ∧
      ∃ before setup after, start.LastSetup 0 steps before setup after ∧
        ((start.run before).step setup).2.Throughout (fun s step => ¬ s.Disturbs 0 step) after := by
  intro tracer start steps
  obtain ⟨l, hl, hactive⟩ :
      ∃ l, (start.run steps).lifecycles[0]? = some l ∧ l.state = .active := ⟨_, rfl, rfl⟩
  have hhook : (start.run steps).hook = some 0 := rfl
  obtain ⟨before, setup, after, hlast, hundisturbed, -⟩ :=
    active_has_hook_iff_undisturbed [tracer, tracer] steps 0 l hl hactive
  exact ⟨l, hl, hactive, before, setup, after, hlast, hundisturbed.2 hhook⟩

/-- Two lifecycles are set up one after the other.  Both are active then, but events reach the
second one only. -/
theorem active_without_hook :
    let tracer : Tracer FileLines := .fresh .standard (.ofDisk .empty) .unlimited
    let s := (ofTracers [tracer, tracer]).run [.on 0 (.setup .standard), .on 1 (.setup .standard)]
    ∃ l, s.lifecycles[0]? = some l ∧ l.state = .active ∧ s.hook = some 1 ∧
      ∀ e, (s.dispatch e).lifecycles[0]? = some l :=
  ⟨_, rfl, rfl, rfl, fun _ => rfl⟩

end Session

end CallTrace
