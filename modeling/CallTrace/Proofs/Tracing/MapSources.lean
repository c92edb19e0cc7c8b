import CallTrace.Proofs.Source.Watched
import CallTrace.Proofs.Tracing.Events
import CallTrace.Proofs.Tracing.Sessions

/-!
# Exchanging the sources of a session

Sources are only ever asked.  So a map of sources that passes lookups on can be applied to a session
before a run or after it (`step_mapSources`, `run_mapSources`).
-/

namespace CallTrace

variable {σ τ : Type}

/-! ## Mapped sources -/

def Tracer.mapSources (f : σ → τ) (t : Tracer σ) : Tracer τ :=
  ⟨t.filter, t.printLocation, t.rules, f t.sources, t.inventory, t.depth, t.channel⟩

def Lifecycle.mapSources (f : σ → τ) (l : Lifecycle σ) : Lifecycle τ :=
  ⟨l.tracer.mapSources f, l.state, l.armed⟩

def LifecycleAnswer.mapSources (f : σ → τ) (a : LifecycleAnswer σ) : LifecycleAnswer τ :=
  ⟨a.outcome, a.lifecycle.mapSources f, a.effect⟩

def Session.mapSources (f : σ → τ) (s : Session σ) : Session τ :=
  ⟨s.hook, s.lifecycles.map (·.mapSources f)⟩

/-! ## Steps and runs -/

section
variable [LineSource σ] [LineSource τ] {f : σ → τ}

theorem Tracer.handle_mapSources (hf : PassesLookups f) (t : Tracer σ) (e : Event) :
    (t.mapSources f).handle e = (t.handle e).map id (mapSources f) := by
  have hclassify : (t.mapSources f).rules.classify e.context (t.mapSources f).sources =
      (t.rules.classify e.context t.sources).map id f :=
    t.rules.classify_map e.context t.sources hf
  cases t.effect e with
  | ignored h =>
    rw [handle_ignored h]
    exact handle_ignored h
  | crashed sources hk hp hfound =>
    rw [hfound] at hclassify
    rw [handle_crashed hk hp hfound]
    exact handle_crashed hk hp hclassify
  | entered c sources hk hp hfound =>
    rw [hfound] at hclassify
    rw [handle_entered hk hp hfound]
    exact handle_entered hk hp hclassify
  | left hk hp =>
    rw [handle_left hk hp]
    exact handle_left hk hp

namespace Lifecycle

omit [LineSource σ] [LineSource τ] in
theorem answerSetup_mapSources (l : Lifecycle σ) (effect : HookEffect) (config : TracerConfig)
    (state : LifecycleState) (armed : Bool) :
    (l.mapSources f).answerSetup effect
        (((l.mapSources f).tracer.configure config).map fun tracer => ⟨tracer, state, armed⟩) =
      (l.answerSetup effect
        ((l.tracer.configure config).map fun tracer => ⟨tracer, state, armed⟩)).mapSources f := by
  unfold Tracer.configure
  cases ModuleFilter.ofText config.modulePattern <;> rfl

omit [LineSource σ] [LineSource τ] in
theorem release_mapSources (l : Lifecycle σ) :
    (l.mapSources f).release = l.release.mapSources f := by
  unfold release
  show (if l.armed = true then _ else _) = _
  split <;> rfl

omit [LineSource σ] [LineSource τ] in
theorem drop_mapSources (l : Lifecycle σ) : (l.mapSources f).drop = l.drop.mapSources f := by
  unfold drop
  rw [release_mapSources]
  show (if l.state = .dropped then _ else _) = _
  split <;> rfl

theorem liveStep_mapSources (hf : PassesLookups f) (l : Lifecycle σ) (step : LifecycleStep) :
    (l.mapSources f).liveStep step = (l.liveStep step).mapSources f := by
  cases step with
  | setup config => exact l.answerSetup_mapSources .take config .active true
  | configure config => exact l.answerSetup_mapSources .keep config l.state l.armed
  | handle e =>
    have hhandle : (l.mapSources f).tracer.handle e = _ := l.tracer.handle_mapSources hf e
    rw [liveStep, hhandle]
    rfl
  | release =>
    rw [liveStep, release_mapSources]
    rfl
  | drop =>
    rw [liveStep, drop_mapSources]
    rfl
  | teardown | report | channel change => rfl

theorem step_mapSources (hf : PassesLookups f) (l : Lifecycle σ) (step : LifecycleStep) :
    (l.mapSources f).step step = (l.step step).mapSources f := by
  unfold Lifecycle.step
  show (if l.state = .dropped then _ else _) = _
  split
  · cases step with
    | channel change => exact l.liveStep_mapSources hf (.channel change)
    | _ => rfl
  · exact l.liveStep_mapSources hf step

end Lifecycle

namespace Session

omit [LineSource σ] [LineSource τ] in
theorem getElem?_mapSources (s : Session σ) (j : Nat) :
    (s.mapSources f).lifecycles[j]? = (s.lifecycles[j]?).map (·.mapSources f) := List.getElem?_map

theorem stepAt_mapSources (hf : PassesLookups f) (s : Session σ) (step : SessionStep) (j : Nat)
    (l : Lifecycle σ) :
    (s.mapSources f).stepAt step j (l.mapSources f) = (s.stepAt step j l).mapSources f := by
  cases step with
  | dispatch e =>
    have hevent : (l.mapSources f).tracer.onEvent e = (l.tracer.onEvent e).mapSources f :=
      congrArg Prod.snd (l.tracer.handle_mapSources hf e)
    show (if s.hook = some j then _ else _) =
      Lifecycle.mapSources f (if s.hook = some j then _ else _)
    split
    · rw [hevent]
      rfl
    · rfl
  | uninstall => rfl
  | on i own =>
    rw [stepAt, stepAt]
    split
    · rw [l.step_mapSources hf]
      rfl
    · rfl

theorem step_mapSources (hf : PassesLookups f) (s : Session σ) (step : SessionStep) :
    (s.mapSources f).step step = ((s.step step).1, (s.step step).2.mapSources f) := by
  have hlifecycles : ∀ j : Nat, ((s.mapSources f).step step).2.lifecycles[j]? =
      ((s.step step).2.mapSources f).lifecycles[j]? := by
    intro j
    rw [getElem?_step, getElem?_mapSources, getElem?_mapSources, getElem?_step]
    cases s.lifecycles[j]? with
    | none => rfl
    | some l => exact congrArg some (s.stepAt_mapSources hf step j l)
  cases step with
  | dispatch e =>
    refine Prod.ext rfl (eq_of_getElem? ?_ hlifecycles)
    rw [hook_dispatch]
    exact (s.hook_dispatch e).symm
  | uninstall => rfl
  | on i own =>
    refine Prod.ext ?_ (eq_of_getElem? ?_ hlifecycles)
    · rw [outcome_step, outcome_step, getElem?_mapSources]
      cases s.lifecycles[i]? with
      | none => rfl
      | some l => exact congrArg LifecycleAnswer.outcome (l.step_mapSources hf own)
    · show _ = (s.step (.on i own)).2.hook
      rw [hook_step, hook_step, getElem?_mapSources]
      cases s.lifecycles[i]? with
      | none => rfl
      | some l =>
        exact congrArg (fun a => hookAfter s.hook i a.effect) (l.step_mapSources hf own)

theorem run_mapSources (hf : PassesLookups f) (s : Session σ) (steps : List SessionStep) :
    (s.mapSources f).run steps = (s.run steps).mapSources f := by
  induction steps generalizing s with
  | nil => rfl
  | cons step rest ih =>
    show ((s.mapSources f).step step).2.run rest = ((s.step step).2.run rest).mapSources f
    rw [step_mapSources hf]
    exact ih _

end Session

end

end CallTrace
