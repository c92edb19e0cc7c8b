import CallTrace.Proofs.Tracing.Sessions
import CallTrace.Source.Snapshots

/-!
# Steps that can be left out

`log` is what is seen of a run: its steps in order, each with the session before and after it and
the way it ended.  Steps that leave the session as it was can be left out (`log_kept`): the others
are then taken in the same sessions, end the same way and lead to the same end.

A setup or a configuration whose pattern is refused is such a step, so refused patterns are
invisible in every run (`refused_configuration_invisible`).
-/

namespace CallTrace

variable {σ : Type}

/-- A step that was taken: the session before it, how it ended, and the session after it. -/
structure Taken (σ : Type) where
  before : Session σ
  step : SessionStep
  outcome : Except StepError Unit
  after : Session σ

namespace Session

variable [LineSource σ] {s : Session σ}

/-! ## What is seen of a run -/

/-- The steps of a run as they were taken. -/
def log (s : Session σ) : List SessionStep → List (Taken σ)
  | [] => []
  | step :: rest => ⟨s, step, (s.step step).1, (s.step step).2⟩ :: (s.step step).2.log rest

theorem step_of_mem_log {steps : List SessionStep} {t : Taken σ} (h : t ∈ s.log steps) :
    t.before.step t.step = (t.outcome, t.after) := by
  induction steps generalizing s with
  | nil => cases h
  | cons step rest ih =>
    rcases List.mem_cons.1 h with rfl | h
    · rfl
    · exact ih h

/-- Steps that leave the session as it was can be left out of a run. -/
theorem log_kept {steps : List SessionStep} {keep : Taken σ → Bool}
    (h : ∀ t ∈ s.log steps, keep t = false → t.after = t.before) :
    let kept := (s.log steps).filter keep
    s.log (kept.map Taken.step) = kept ∧ s.run (kept.map Taken.step) = s.run steps := by
  induction steps generalizing s with
  | nil => exact ⟨rfl, rfl⟩
  | cons step rest ih =>
    intro kept
    obtain ⟨hlog, hrun⟩ := ih fun t ht => h t (List.mem_cons_of_mem _ ht)
    cases hkeep : keep ⟨s, step, (s.step step).1, (s.step step).2⟩ with
    | true =>
      have hkept : kept = ⟨s, step, (s.step step).1, (s.step step).2⟩
          :: ((s.step step).2.log rest).filter keep := List.filter_cons_of_pos hkeep
      rw [hkept, List.map_cons, log, hlog]
      exact ⟨rfl, hrun⟩
    | false =>
      -- the rest of the run begins where this step began
      have hsame : (s.step step).2 = s := h _ List.mem_cons_self hkeep
      have hkept : kept = ((s.step step).2.log rest).filter keep :=
        List.filter_cons_of_neg (by rw [hkeep]; exact Bool.false_ne_true)
      rw [hsame] at hlog hrun hkept
      rw [hkept]
      refine ⟨hlog, hrun.trans ?_⟩
      show s.run rest = (s.step step).2.run rest
      rw [hsame]

/-- A step that changes neither the hook nor any lifecycle changes nothing. -/
theorem step_eq_self {step : SessionStep} (hhook : (s.step step).2.hook = s.hook)
    (hl : ∀ (j : Nat) (l : Lifecycle σ), s.lifecycles[j]? = some l → s.stepAt step j l = l) :
    (s.step step).2 = s := by
  refine eq_of_getElem? hhook fun j => ?_
  rw [s.getElem?_step]
  cases hj : s.lifecycles[j]? with
  | none => rfl
  | some l => exact congrArg some (hl j l hj)

end Session

/-! ## Refused patterns -/

theorem ModuleFilter.ofText_eq_error {text : String} {e : InvalidPattern}
    (h : ModuleFilter.ofText text = .error e) : e = ⟨text⟩ := by
  unfold ofText at h
  split at h
  · cases h
  · exact (Except.error.inj h).symm

theorem Tracer.configure_eq_error {t : Tracer σ} {config : TracerConfig} {e : InvalidPattern}
    (h : t.configure config = .error e) : e = ⟨config.modulePattern⟩ := by
  unfold configure at h
  cases hf : ModuleFilter.ofText config.modulePattern with
  | ok filter =>
    rw [hf] at h
    cases h
  | error e' =>
    rw [hf] at h
    cases h
    exact ModuleFilter.ofText_eq_error hf

/-- The step is a setup or a configuration. -/
def LifecycleStep.Configures (step : LifecycleStep) (config : TracerConfig) : Prop :=
  step = .setup config ∨ step = .configure config

/-- The step ended because its pattern was refused. -/
def Taken.refused (t : Taken σ) : Bool :=
  match t.outcome with
  | .error (.invalidPattern _) => true
  | _ => false

theorem Taken.refused_iff {t : Taken σ} :
    t.refused = true ↔ ∃ e, t.outcome = .error (.invalidPattern e) := by
  unfold refused
  split
  · next e h => simp [h]
  · next h =>
    constructor
    · intro hf
      cases hf
    · rintro ⟨e, he⟩
      exact absurd he (h e)

variable [LineSource σ]

namespace Lifecycle

variable {l : Lifecycle σ} {step : LifecycleStep} {e : InvalidPattern}

omit [LineSource σ] in
theorem answerSetup_refused {effect : HookEffect} {config : TracerConfig}
    {f : Tracer σ → Lifecycle σ}
    (h : (l.answerSetup effect ((l.tracer.configure config).map f)).outcome =
      .error (.invalidPattern e)) :
    e = ⟨config.modulePattern⟩ ∧
      (l.answerSetup effect ((l.tracer.configure config).map f)).lifecycle = l ∧
      (l.answerSetup effect ((l.tracer.configure config).map f)).effect = .keep := by
  cases hc : l.tracer.configure config with
  | ok tracer =>
    rw [hc] at h
    cases h
  | error e' =>
    rw [hc] at h
    cases h
    exact ⟨Tracer.configure_eq_error hc, rfl, rfl⟩

/-- Only setups and configurations are refused, and then the lifecycle is left as it was. -/
theorem liveStep_refused (h : (l.liveStep step).outcome = .error (.invalidPattern e)) :
    (∃ config, step.Configures config ∧ e = ⟨config.modulePattern⟩) ∧
      (l.liveStep step).lifecycle = l ∧ (l.liveStep step).effect = .keep := by
  cases step with
  | setup config =>
    obtain ⟨htext, hsame⟩ := answerSetup_refused h
    exact ⟨⟨config, .inl rfl, htext⟩, hsame⟩
  | configure config =>
    obtain ⟨htext, hsame⟩ := answerSetup_refused h
    exact ⟨⟨config, .inr rfl, htext⟩, hsame⟩
  | handle e' =>
    have hcrash : (if (l.tracer.handle e').1 = .crashed then Except.error StepError.crashed
        else .ok ()) = .error (.invalidPattern e) := h
    split at hcrash <;> cases hcrash
  | teardown | release | report | drop | channel change => cases h

theorem step_refused (h : (l.step step).outcome = .error (.invalidPattern e)) :
    (∃ config, step.Configures config ∧ e = ⟨config.modulePattern⟩) ∧
      (l.step step).lifecycle = l ∧ (l.step step).effect = .keep := by
  unfold Lifecycle.step at h ⊢
  split
  · next hd =>
    rw [if_pos hd] at h
    cases step with
    | channel change => exact liveStep_refused h
    | _ => cases h
  · next hd =>
    rw [if_neg hd] at h
    exact liveStep_refused h

end Lifecycle

namespace Session

variable {s : Session σ} {step : SessionStep} {e : InvalidPattern}

/-- A step that is refused leaves the session as it was. -/
theorem step_refused (h : (s.step step).1 = .error (.invalidPattern e)) :
    (∃ i own config, step = .on i own ∧ own.Configures config ∧ e = ⟨config.modulePattern⟩) ∧
      (s.step step).2 = s := by
  cases step with
  | dispatch e' => cases h
  | uninstall => cases h
  | on i own =>
    rw [outcome_step] at h
    cases hl : s.lifecycles[i]? with
    | none =>
      rw [hl] at h
      cases h
    | some l =>
      rw [hl, Option.elim_some] at h
      obtain ⟨⟨config, hconfig, htext⟩, hlifecycle, heffect⟩ := Lifecycle.step_refused h
      refine ⟨⟨i, own, config, rfl, hconfig, htext⟩, step_eq_self ?_ fun j l' hl' => ?_⟩
      · rw [hook_step, hl, Option.elim_some, heffect]
        rfl
      · rw [stepAt]
        split
        · next hij =>
          subst hij
          rw [hl] at hl'
          cases hl'
          exact hlifecycle
        · rfl

/-- **Refused patterns are invisible.**  Whenever a pattern is refused, by a setup or a
configuration of any lifecycle, the whole session is as it was: who has the hook and, of each
lifecycle, its state, arming, filter, location flag, depth, inventory and output.  So the refused
steps of a run can be left out.  All other steps are then taken in the same sessions and end the
same way. -/
theorem refused_configuration_invisible (s : Session σ) (steps : List SessionStep) :
    (∀ t ∈ s.log steps, t.refused = true → t.after = t.before ∧
      ∃ i own config, t.step = .on i own ∧ own.Configures config ∧
        t.outcome = .error (.invalidPattern ⟨config.modulePattern⟩)) ∧
    let accepted := (s.log steps).filter fun t => !t.refused
    s.log (accepted.map Taken.step) = accepted ∧ s.run (accepted.map Taken.step) = s.run steps := by
  have hrefused : ∀ t ∈ s.log steps, t.refused = true → t.after = t.before ∧
      ∃ i own config, t.step = .on i own ∧ own.Configures config ∧
        t.outcome = .error (.invalidPattern ⟨config.modulePattern⟩) := by
    intro t ht hr
    obtain ⟨e, he⟩ := Taken.refused_iff.1 hr
    have hstep := step_of_mem_log ht
    have houtcome : (t.before.step t.step).1 = .error (.invalidPattern e) := by rw [hstep, he]
    obtain ⟨⟨i, own, config, hown, hconfig, rfl⟩, hsame⟩ := step_refused houtcome
    rw [hstep] at hsame
    exact ⟨hsame, i, own, config, hown, hconfig, he⟩
  refine ⟨hrefused, log_kept fun t ht hkeep => (hrefused t ht ?_).1⟩
  simpa using hkeep

/-- A lifecycle that was never set up is refused, and another one while it is active, once by a
setup and once by a configuration.  Then both are dropped. -/
theorem refused_configuration_invisible_unarmed_and_active :
    let tracer : Tracer FileLines := .fresh .standard (.ofDisk .empty) .unlimited
    let s : Session FileLines := .ofTracers [tracer, tracer]
    let unclosed : TracerConfig := ⟨"demo(", true⟩
    let setup : SessionStep := .on 0 (.setup ⟨"demo", false⟩)
    let call : SessionStep := .dispatch ⟨.called, .ofFunction "demo" "main"⟩
    let drops : List SessionStep := [.on 1 .drop, .on 0 .drop]
    let steps := [.on 1 (.setup unclosed), setup, .on 0 (.setup unclosed), call,
      .on 0 (.configure unclosed)] ++ drops
    let accepted := setup :: call :: drops
    (s.log steps).map Taken.refused = [true, false, true, false, true, false, false] ∧
      (∀ t ∈ s.log steps, t.refused = true → t.after = t.before) ∧
      s.log accepted = (s.log steps).filter (fun t => !t.refused) ∧
      s.run accepted = s.run steps := by
  intro tracer s unclosed setup call drops steps accepted
  obtain ⟨hrefused, hlog, hrun⟩ := refused_configuration_invisible s steps
  have haccepted : ((s.log steps).filter fun t => !t.refused).map Taken.step = accepted := by decide
  rw [haccepted] at hlog hrun
  exact ⟨by decide, fun t ht h => (hrefused t ht h).1, hlog, hrun⟩

end Session

end CallTrace
