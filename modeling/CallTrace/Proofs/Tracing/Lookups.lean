import CallTrace.Proofs.Tracing.Events
import CallTrace.Proofs.Tracing.Sessions

/-!
# What lookups leave behind

A step never changes the rules of a tracer, and the sources only by classifying one call
(`asked_step`).  So what holds of rules and sources and outlasts every classification holds of each
lifecycle after every run (`holds_run`).
-/

namespace CallTrace

variable {σ : Type} [LineSource σ]

/-- Rules, sources and inventory are the same. -/
structure Tracer.Unasked (t t' : Tracer σ) : Prop where
  rules : t'.rules = t.rules
  sources : t'.sources = t.sources
  inventory : t'.inventory = t.inventory

/-- The rules are the same, and so are sources and inventory unless the sources were asked for one
call. -/
inductive Tracer.Asked (t t' : Tracer σ) : Prop
  | nothing (same : t.Unasked t')
  | call (ctx : CallContext) (rules : t'.rules = t.rules)
      (sources : t'.sources = (t.rules.classify ctx t.sources).2)

/-! ## Steps -/

theorem Tracer.asked_handle (t : Tracer σ) (e : Event) : t.Asked (t.handle e).2 := by
  cases t.effect e with
  | ignored h =>
    rw [handle_ignored h]
    exact .nothing ⟨rfl, rfl, rfl⟩
  | crashed sources hk hp hfound =>
    rw [handle_crashed hk hp hfound]
    exact .call e.context rfl (congrArg Prod.snd hfound).symm
  | entered c sources hk hp hfound =>
    rw [handle_entered hk hp hfound]
    exact .call e.context rfl (congrArg Prod.snd hfound).symm
  | left hk hp =>
    rw [handle_left hk hp]
    exact .nothing ⟨rfl, rfl, rfl⟩

namespace Lifecycle

variable (l : Lifecycle σ)

omit [LineSource σ] in
theorem unasked_answerSetup (effect : HookEffect) (config : TracerConfig) (state : LifecycleState)
    (armed : Bool) :
    l.tracer.Unasked (l.answerSetup effect
      ((l.tracer.configure config).map fun tracer => ⟨tracer, state, armed⟩)).lifecycle.tracer := by
  unfold Tracer.configure
  cases ModuleFilter.ofText config.modulePattern <;> exact ⟨rfl, rfl, rfl⟩

omit [LineSource σ] in
theorem unasked_release : l.tracer.Unasked l.release.tracer := by
  unfold release
  split <;> exact ⟨rfl, rfl, rfl⟩

omit [LineSource σ] in
theorem unasked_drop : l.tracer.Unasked l.drop.tracer := by
  unfold drop
  split
  · exact ⟨rfl, rfl, rfl⟩
  · exact l.unasked_release

/-- Only an event that is handled can be a reason to ask. -/
theorem unasked_liveStep {step : LifecycleStep} (h : ∀ e, step ≠ .handle e) :
    l.tracer.Unasked (l.liveStep step).lifecycle.tracer := by
  cases step with
  | setup config => exact l.unasked_answerSetup .take config .active true
  | configure config => exact l.unasked_answerSetup .keep config l.state l.armed
  | handle e => exact absurd rfl (h e)
  | release => exact l.unasked_release
  | drop => exact l.unasked_drop
  | teardown | report | channel change => exact ⟨rfl, rfl, rfl⟩

theorem unasked_step {step : LifecycleStep} (h : ∀ e, step = .handle e → l.state = .dropped) :
    l.tracer.Unasked (l.step step).lifecycle.tracer := by
  unfold Lifecycle.step
  split
  · cases step with
    | channel change => exact l.unasked_liveStep nofun
    | _ => exact ⟨rfl, rfl, rfl⟩
  · next hlive => exact l.unasked_liveStep fun e he => hlive (h e he)

/-- All that a step does to rules and sources. -/
theorem asked_step (step : LifecycleStep) : l.tracer.Asked (l.step step).lifecycle.tracer := by
  by_cases hd : l.state = .dropped
  · exact .nothing (l.unasked_step fun _ _ => hd)
  · cases step with
    | handle e =>
      rw [step_of_live hd]
      exact l.tracer.asked_handle e
    | _ => exact .nothing (l.unasked_step nofun)

end Lifecycle

/-- All that a step of a session does to rules and sources of a lifecycle. -/
theorem Session.asked_stepAt (s : Session σ) (step : SessionStep) (j : Nat) (l : Lifecycle σ) :
    l.tracer.Asked (s.stepAt step j l).tracer := by
  cases step with
  | dispatch e =>
    rw [stepAt]
    split
    · exact l.tracer.asked_handle e
    · exact .nothing ⟨rfl, rfl, rfl⟩
  | uninstall => exact .nothing ⟨rfl, rfl, rfl⟩
  | on i step =>
    rw [stepAt]
    split
    · exact l.asked_step step
    · exact .nothing ⟨rfl, rfl, rfl⟩

/-- No step changes the rules. -/
theorem Session.rules_stepAt (s : Session σ) (step : SessionStep) (j : Nat) (l : Lifecycle σ) :
    (s.stepAt step j l).tracer.rules = l.tracer.rules := by
  cases s.asked_stepAt step j l with
  | nothing same => exact same.rules
  | call ctx rules sources => exact rules

/-- A traced call that reaches a lifecycle is entered as what it is found to be. -/
theorem Session.getElem?_dispatch_called {s : Session σ} {i : Nat} {l : Lifecycle σ}
    {ctx : CallContext} {c : Classification} {sources : σ} (hhook : s.hook = some i)
    (hl : s.lifecycles[i]? = some l) (hp : l.tracer.filter.passes ctx.module = true)
    (hc : l.tracer.rules.classify ctx l.tracer.sources = (some c, sources)) :
    (s.step (.dispatch ⟨.called, ctx⟩)).2.lifecycles[i]? =
      some { l with tracer := l.tracer.entered ctx c sources } := by
  have hhandle : l.tracer.handle ⟨.called, ctx⟩ = (.done, l.tracer.entered ctx c sources) :=
    Tracer.handle_entered rfl hp hc
  have hevent : l.tracer.onEvent ⟨.called, ctx⟩ = l.tracer.entered ctx c sources :=
    congrArg Prod.snd hhandle
  rw [s.getElem?_step, hl, Option.map_some, stepAt, if_pos hhook, hevent]

/-! ## Runs -/

/-- What holds of rules and sources still holds once a call is classified. -/
def Outlasts (P : ClassifierRules → σ → Prop) : Prop :=
  ∀ rules sources ctx, P rules sources → P rules (rules.classify ctx sources).2

variable {P : ClassifierRules → σ → Prop}

theorem Outlasts.asked (hP : Outlasts P) {t t' : Tracer σ} (h : t.Asked t')
    (ht : P t.rules t.sources) : P t'.rules t'.sources := by
  cases h with
  | nothing same =>
    rw [same.rules, same.sources]
    exact ht
  | call ctx rules sources =>
    rw [rules, sources]
    exact hP _ _ ctx ht

namespace Session

/-- What holds of the rules and sources of every lifecycle. -/
def Holds (P : ClassifierRules → σ → Prop) (s : Session σ) : Prop :=
  ∀ (i : Nat) (l : Lifecycle σ), s.lifecycles[i]? = some l → P l.tracer.rules l.tracer.sources

theorem holds_step {s : Session σ} (hP : Outlasts P) (h : s.Holds P) (step : SessionStep) :
    (s.step step).2.Holds P := by
  intro j l hl
  rw [s.getElem?_step] at hl
  obtain ⟨l₀, hl₀, rfl⟩ := Option.map_eq_some_iff.1 hl
  exact hP.asked (s.asked_stepAt step j l₀) (h j l₀ hl₀)

theorem holds_run {s : Session σ} (hP : Outlasts P) (h : s.Holds P) (steps : List SessionStep) :
    (s.run steps).Holds P := by
  induction steps generalizing s with
  | nil => exact h
  | cons step rest ih => exact ih (holds_step hP h step)

end Session

end CallTrace
