import CallTrace.Proofs.Tracing.Recalls
import CallTrace.Tracing.Program

/-!
# What the steps of a program do

`Program.Turn` lists all that a step of a program can do, and `turn` says that each step does one
of these things.  A program that has not made its lifecycle yet is like one that has made it and
not set it up (`ownLifecycle`), but for teardowns: without a lifecycle they write nothing.
-/

namespace CallTrace

/-- The step as one of the only lifecycle of the program. -/
def ProgramStep.soloStep : ProgramStep → SoloStep
  | .setup config => .setup config
  | .teardown => .teardown
  | .release => .release
  | .dispatch e => .event e

namespace Program

variable {p : Program} {l : Lifecycle FileLines}

/-! ## The lifecycle -/

theorem ownLifecycle_of_some (h : p.lifecycle = some l) : p.ownLifecycle = l := by
  rw [ownLifecycle, h, Option.getD_some]

theorem ownLifecycle_of_none (h : p.lifecycle = none) :
    p.ownLifecycle = .ofTracer (.fresh .standard (.ofDisk p.disk) .unlimited) := by
  rw [ownLifecycle, h, Option.getD_none]

/-- Nothing is written before there is a lifecycle. -/
theorem standardError_eq (p : Program) :
    p.standardError = p.ownLifecycle.tracer.channel.bytes := by
  unfold standardError
  cases h : p.lifecycle with
  | none =>
    rw [ownLifecycle_of_none h]
    rfl
  | some l =>
    rw [ownLifecycle_of_some h]
    rfl

/-- Without a lifecycle nobody has the hook. -/
theorem not_installed_of_none (hmade : p.installed = true → p.lifecycle.isSome = true)
    (hnone : p.lifecycle = none) : p.installed = false := by
  refine Bool.eq_false_iff.2 fun hi => ?_
  have hsome := hmade hi
  rw [hnone] at hsome
  cases hsome

/-! ## Steps -/

/-- All that a step can do. -/
inductive Turn (p : Program) : ProgramStep → Program → Prop
  | refused (config : TracerConfig) (hfilter : config.filter? = none) :
      Turn p (.setup config) { p with lifecycle := some p.ownLifecycle }
  | setUp (config : TracerConfig) (filter : ModuleFilter) (hfilter : config.filter? = some filter) :
      Turn p (.setup config) { p with
        lifecycle := some (p.ownLifecycle.setUpWith filter config.printLocation)
        installed := true
        exitHandlers := max p.exitHandlers 1 }
  | unmadeTeardown (hnone : p.lifecycle = none) : Turn p .teardown p
  | tornDown (l : Lifecycle FileLines) (hsome : p.lifecycle = some l) :
      Turn p .teardown { p with lifecycle := some l.teardown, installed := false }
  | unarmed (hunarmed : p.ownLifecycle.armed = false) : Turn p .release p
  | released (l : Lifecycle FileLines) (hsome : p.lifecycle = some l) (harmed : l.armed = true) :
      Turn p .release
        { p with lifecycle := some { l with armed := false }.teardown, installed := false }
  | unheard (e : Event) (hidle : p.installed = false) : Turn p (.dispatch e) p
  | delivered (e : Event) (l : Lifecycle FileLines) (hinstalled : p.installed = true)
      (hsome : p.lifecycle = some l) :
      Turn p (.dispatch e) { p with lifecycle := some { l with tracer := l.tracer.onEvent e } }

theorem turn_setup (p : Program) (config : TracerConfig) :
    p.Turn (.setup config) (p.step (.setup config)).2 := by
  show p.Turn _ (p.setup config).2
  unfold setup
  obtain ⟨e, hnone, hsetup⟩ | ⟨filter, hsome, hsetup⟩ := p.ownLifecycle.setup_cases config
  · rw [hsetup]
    exact .refused config hnone
  · rw [hsetup]
    exact .setUp config filter hsome

theorem turn_release (p : Program) : p.Turn .release (p.step .release).2 := by
  show p.Turn _ p.release
  cases hl : p.lifecycle with
  | none =>
    have hsame : p.release = p := by rw [release, hl]
    rw [hsame]
    refine .unarmed ?_
    rw [ownLifecycle_of_none hl]
    rfl
  | some l =>
    have hrelease : p.release =
        { p with lifecycle := some l.release, installed := p.installed && !l.armed } := by
      rw [release, hl]
    rw [hrelease, Lifecycle.release]
    cases ha : l.armed with
    | false =>
      have hsame : p = { p with lifecycle := some l, installed := p.installed && !false } := by
        rw [← hl, Bool.not_false, Bool.and_true]
      rw [if_neg Bool.false_ne_true, ← hsame]
      refine .unarmed ?_
      rw [ownLifecycle_of_some hl, ha]
    | true =>
      rw [if_pos rfl, Bool.not_true, Bool.and_false]
      exact .released l hl ha

/-- A step does one of these things, if there is a lifecycle where there is a hook. -/
theorem turn (hmade : p.installed = true → p.lifecycle.isSome = true) (step : ProgramStep) :
    p.Turn step (p.step step).2 := by
  cases step with
  | setup config => exact p.turn_setup config
  | teardown =>
    show p.Turn _ p.teardown
    unfold teardown
    cases hl : p.lifecycle with
    | none => exact .unmadeTeardown hl
    | some l => exact .tornDown l hl
  | release => exact p.turn_release
  | dispatch e =>
    show p.Turn _ (p.dispatch e)
    cases hi : p.installed with
    | false =>
      have hsame : p.dispatch e = p := by
        rw [dispatch, hi]
        rfl
      rw [hsame]
      exact .unheard e hi
    | true =>
      obtain ⟨l, hl⟩ := Option.isSome_iff_exists.1 (hmade hi)
      have hdispatch : p.dispatch e =
          { p with lifecycle := some { l with tracer := l.tracer.onEvent e } } := by
        rw [dispatch, if_pos hi, hl]
        rfl
      rw [hdispatch]
      exact .delivered e l hi hl

theorem run_append (p : Program) (steps steps' : List ProgramStep) :
    p.run (steps ++ steps') = (p.run steps).run steps' := List.foldl_append

end Program

end CallTrace
