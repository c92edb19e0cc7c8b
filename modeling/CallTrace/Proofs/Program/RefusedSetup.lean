import CallTrace.Proofs.Program.Exit
import CallTrace.Proofs.Tracing.OutputIndependence

/-!
# What a refused setup leaves behind

A setup whose pattern is refused changes nothing of the lifecycle, but it makes the lifecycle if
there was none.  So it is seen as long as no setup has succeeded: there is a lifecycle, and every
teardown until then writes an empty report, where it would write nothing without the refused
setup.

`Mirrors` relates a run to the run without its refused setups: all is equal but for these two
things (`mirrors_step`, `mirrors_run`).  `refused_setups_seen_in` says exactly what is seen of
them.
-/

namespace CallTrace

open History

/-! ## Refused setups -/

def SoloStep.isSetup : SoloStep → Bool
  | .setup _ => true
  | _ => false

theorem isSetup_of_setsUp {step : SoloStep} (h : setsUp step = true) : step.isSetup = true := by
  cases step with
  | setup config => rfl
  | teardown | release | event e => cases h

theorem any_isSetup_of_any_setsUp {log : History} (h : log.any setsUp = true) :
    log.any SoloStep.isSetup = true := by
  obtain ⟨step, hmem, hstep⟩ := List.any_eq_true.1 h
  exact List.any_eq_true.2 ⟨step, hmem, isSetup_of_setsUp hstep⟩

namespace ProgramStep

/-- Whether the step is a setup whose pattern is refused. -/
def refused (step : ProgramStep) : Bool := step.soloStep.isSetup && !setsUp step.soloStep

/-- A step fails, in whatever program, exactly if it is a refused setup. -/
theorem refused_iff (step : ProgramStep) (p : Program) :
    step.refused = true ↔ ∃ e, (p.step step).1 = .error e := by
  cases step with
  | setup config =>
    have hok := p.setup_eq_ok_iff config
    have hrefused : (ProgramStep.setup config).refused = !setsUp (.setup config) := rfl
    rw [hrefused, Bool.not_eq_true', Bool.eq_false_iff, ne_eq, ← hok]
    show _ ↔ ∃ e, (p.setup config).1 = .error e
    cases (p.setup config).1 with
    | ok _ => simp
    | error e => simp
  | teardown | release | dispatch e => exact ⟨nofun, nofun⟩

end ProgramStep

namespace History

/-- Setups were tried, and all of them were refused. -/
def onlyRefused (past : History) : Bool := past.any SoloStep.isSetup && !past.any setsUp

/-- The number of teardowns that came when all setups so far had been refused. -/
def idleTeardowns (log : History) : Nat :=
  (withPast log).countP fun p => p.2 = .teardown && onlyRefused p.1

theorem idleTeardowns_append (log : History) (step : SoloStep) :
    idleTeardowns (log ++ [step]) =
      idleTeardowns log + if step = .teardown && onlyRefused log then 1 else 0 := by
  unfold idleTeardowns
  rw [withPast_append, List.countP_append]
  simp [List.countP_cons]

end History

/-! ## Empty reports -/

/-- The report of a tracer that has recorded nothing. -/
def emptyReport : String :=
  "********** Trace Results **********\n"
    ++ "Used classes:\n  only static init:\n  not only static init:\nFree functions:\n"

theorem reportText_empty : Inventory.empty.view.reportText = emptyReport := by decide

/-- What the teardowns wrote that came when all setups so far had been refused. -/
def idleReports (log : History) : String :=
  String.join (List.replicate (idleTeardowns log) emptyReport)

theorem idleReports_append (log : History) (step : SoloStep) :
    idleReports (log ++ [step]) =
      idleReports log ++ if step = .teardown && onlyRefused log then emptyReport else "" := by
  unfold idleReports
  rw [idleTeardowns_append]
  split
  · rw [List.replicate_succ', String.join_append, String.join_cons, String.join_nil,
      String.append_empty]
  · rw [Nat.add_zero, String.append_empty]

theorem idleReports_append_of_ne (log : History) (step : SoloStep) (h : step ≠ .teardown) :
    idleReports (log ++ [step]) = idleReports log := by
  rw [idleReports_append]
  simp [h]

/-- The first channel has received a text more, before all that both have received. -/
def Ahead (more : String) (c c' : Channel) : Prop :=
  ∃ stream, c.Keeps none (Channel.utf8 more ++ stream) ∧ c'.Keeps none stream

theorem lasting_ahead (more : String) : Lasting (Ahead more) := by
  rintro printing c c' ⟨stream, hc, hc'⟩
  refine ⟨stream ++ printing.bytes, ?_, Channel.keeps_onto hc' printing⟩
  rw [← List.append_assoc]
  exact Channel.keeps_onto hc printing

theorem Ahead.bytes {more : String} {c c' : Channel} (h : Ahead more c c') :
    c.bytes.toList = Channel.utf8 more ++ c'.bytes.toList := by
  obtain ⟨stream, hc, hc'⟩ := h
  rw [hc.bytes, hc'.bytes]
  rfl

/-! ## Both runs step by step -/

namespace Lifecycle.Alike

variable {R : Channel → Channel → Prop} {l l' : Lifecycle FileLines}

theorem setUpWith (h : Alike R l l') (filter : ModuleFilter) (printLocation : Bool) :
    Alike R (l.setUpWith filter printLocation) (l'.setUpWith filter printLocation) := by
  refine ⟨?_, h.channels⟩
  rw [Lifecycle.eq_withChannel h.silent]
  rfl

theorem disarmed (h : Alike R l l') :
    Alike R { l with armed := false } { l' with armed := false } := by
  refine ⟨?_, h.channels⟩
  rw [Lifecycle.eq_withChannel h.silent]
  rfl

theorem teardown (hR : Lasting R) (h : Alike R l l') : Alike R l.teardown l'.teardown := by
  rw [Lifecycle.eq_withChannel h.silent]
  exact ⟨rfl, hR (.report (.banner :: l'.tracer.inventory.view.lines)) _ _ h.channels⟩

/-- A teardown of the first lifecycle only, where the second one has done nothing yet. -/
theorem idleTeardown {more : String} {disk : FileSystem}
    (h : Alike (Ahead more) l (.ofTracer (.fresh .standard (.ofDisk disk) .unlimited))) :
    Alike (Ahead (more ++ emptyReport)) l.teardown
      (.ofTracer (.fresh .standard (.ofDisk disk) .unlimited)) := by
  obtain ⟨stream, hc, hc'⟩ := h.channels
  have hnothing : stream = [] := hc'.bytes.symm
  rw [hnothing, List.append_nil] at hc
  rw [Lifecycle.eq_withChannel h.silent]
  refine ⟨rfl, [], ?_, Channel.keeps_nil rfl rfl⟩
  rw [List.append_nil, Channel.utf8_append, ← reportText_empty]
  exact Channel.keeps_report hc _

end Lifecycle.Alike

namespace Program

/-- The first program is like the second one, which was spared the refused setups of the log. -/
structure Mirrors (log : History) (p q : Program) : Prop where
  installed : p.installed = q.installed
  exitHandlers : p.exitHandlers = q.exitHandlers
  made : p.lifecycle.isSome = log.any SoloStep.isSetup
  spared : q.lifecycle.isSome = log.any setsUp
  hooked : q.installed = true → log.any setsUp = true
  lifecycles : Lifecycle.Alike (Ahead (idleReports log)) p.ownLifecycle q.ownLifecycle

theorem mirrors_start (disk : FileSystem) : Mirrors [] (start disk) (start disk) where
  installed := rfl
  exitHandlers := rfl
  made := rfl
  spared := rfl
  hooked := nofun
  lifecycles := ⟨rfl, [], Channel.keeps_nil rfl rfl, Channel.keeps_nil rfl rfl⟩

namespace Mirrors

variable {log : History} {p q : Program}

theorem made_of_installed (h : Mirrors log p q) (hi : p.installed = true) :
    p.lifecycle.isSome = true := by
  rw [h.made]
  exact any_isSetup_of_any_setsUp (h.hooked (h.installed ▸ hi))

theorem spared_of_installed (h : Mirrors log p q) (hi : q.installed = true) :
    q.lifecycle.isSome = true := h.spared.trans (h.hooked hi)

theorem armed (h : Mirrors log p q) : p.ownLifecycle.armed = q.ownLifecycle.armed := by
  have hsilent : p.ownLifecycle.silent.armed = q.ownLifecycle.silent.armed := by
    rw [h.lifecycles.silent]
  exact hsilent

/-- A refused setup only makes the lifecycle. -/
theorem refused (h : Mirrors log p q) {config : TracerConfig}
    (hno : setsUp (.setup config) = false) :
    Mirrors (log ++ [.setup config]) { p with lifecycle := some p.ownLifecycle } q where
  installed := h.installed
  exitHandlers := h.exitHandlers
  made := by simp [SoloStep.isSetup]
  spared := by simp [hno, h.spared]
  hooked := fun hi => by simp [h.hooked hi]
  lifecycles := by
    rw [idleReports_append_of_ne log (.setup config) (by simp)]
    exact h.lifecycles

theorem setUp (h : Mirrors log p q) {config : TracerConfig} {filter : ModuleFilter}
    (hfilter : config.filter? = some filter) :
    Mirrors (log ++ [.setup config])
      { p with
        lifecycle := some (p.ownLifecycle.setUpWith filter config.printLocation)
        installed := true
        exitHandlers := max p.exitHandlers 1 }
      { q with
        lifecycle := some (q.ownLifecycle.setUpWith filter config.printLocation)
        installed := true
        exitHandlers := max q.exitHandlers 1 } where
  installed := rfl
  exitHandlers := congrArg (max · 1) h.exitHandlers
  made := by simp [SoloStep.isSetup]
  spared := by simp [setsUp, hfilter]
  hooked := fun _ => by simp [setsUp, hfilter]
  lifecycles := by
    rw [idleReports_append_of_ne log (.setup config) (by simp)]
    exact h.lifecycles.setUpWith filter config.printLocation

/-- A step that is no setup, so that no lifecycle is made. -/
theorem proceed (h : Mirrors log p q) {step : SoloStep} (hstep : step.isSetup = false)
    {own own' : Option (Lifecycle FileLines)} {hooked hooked' : Bool}
    (hmade : own.isSome = p.lifecycle.isSome) (hspared : own'.isSome = q.lifecycle.isSome)
    (hinstalled : hooked = hooked') (hhooked : hooked' = true → q.installed = true)
    (hlifecycles : Lifecycle.Alike (Ahead (idleReports (log ++ [step])))
      { p with lifecycle := own, installed := hooked }.ownLifecycle
      { q with lifecycle := own', installed := hooked' }.ownLifecycle) :
    Mirrors (log ++ [step]) { p with lifecycle := own, installed := hooked }
      { q with lifecycle := own', installed := hooked' } := by
  have hno : setsUp step = false := by
    rw [Bool.eq_false_iff]
    intro hyes
    rw [isSetup_of_setsUp hyes] at hstep
    cases hstep
  refine ⟨hinstalled, h.exitHandlers, ?_, ?_, fun hi => ?_, hlifecycles⟩
  · simpa [hstep, hmade] using h.made
  · simpa [hno, hspared] using h.spared
  · simp [h.hooked (hhooked hi)]

theorem teardown (h : Mirrors log p q) :
    Mirrors (log ++ [.teardown]) (p.step .teardown).2 (q.step .teardown).2 := by
  have hp := p.turn h.made_of_installed .teardown
  have hq := q.turn h.spared_of_installed .teardown
  have hmade := h.made
  have hspared := h.spared
  have hlifecycles := h.lifecycles
  generalize (p.step .teardown).2 = p' at hp ⊢
  generalize (q.step .teardown).2 = q' at hq ⊢
  cases hp with
  | unmadeTeardown hnone =>
    have hsetup : log.any SoloStep.isSetup = false := by rw [← hmade, hnone, Option.isSome_none]
    cases hq with
    | unmadeTeardown hnone' =>
      have hquiet : idleReports (log ++ [.teardown]) = idleReports log := by
        simp [idleReports_append, onlyRefused, hsetup]
      exact h.proceed rfl rfl rfl h.installed id (by rw [hquiet]; exact hlifecycles)
    | tornDown l' hsome' =>
      rw [hsome', Option.isSome_some] at hspared
      rw [any_isSetup_of_any_setsUp hspared.symm] at hsetup
      cases hsetup
  | tornDown l hsome =>
    rw [ownLifecycle_of_some hsome] at hlifecycles
    cases hq with
    | unmadeTeardown hnone' =>
      -- only refused setups so far: the first program reports, the second has nothing to report
      have hidle := not_installed_of_none h.spared_of_installed hnone'
      have hreport : idleReports (log ++ [.teardown]) = idleReports log ++ emptyReport := by
        rw [hsome, Option.isSome_some] at hmade
        rw [hnone', Option.isSome_none] at hspared
        simp [idleReports_append, onlyRefused, ← hmade, ← hspared]
      refine h.proceed rfl (by rw [hsome]; rfl) rfl hidle.symm id ?_
      rw [hreport]
      rw [ownLifecycle_of_none hnone'] at hlifecycles ⊢
      exact hlifecycles.idleTeardown
    | tornDown l' hsome' =>
      rw [ownLifecycle_of_some hsome'] at hlifecycles
      have hquiet : idleReports (log ++ [.teardown]) = idleReports log := by
        rw [hsome', Option.isSome_some] at hspared
        simp [idleReports_append, onlyRefused, ← hspared]
      refine h.proceed rfl (by rw [hsome]; rfl) (by rw [hsome']; rfl) rfl Bool.noConfusion ?_
      rw [hquiet]
      exact hlifecycles.teardown (lasting_ahead _)

theorem release (h : Mirrors log p q) :
    Mirrors (log ++ [.release]) (p.step .release).2 (q.step .release).2 := by
  have hp := p.turn_release
  have hq := q.turn_release
  have harmed := h.armed
  have hlifecycles := h.lifecycles
  rw [← idleReports_append_of_ne log .release (by simp)] at hlifecycles
  generalize (p.step .release).2 = p' at hp ⊢
  generalize (q.step .release).2 = q' at hq ⊢
  cases hp with
  | unarmed hno =>
    cases hq with
    | unarmed hno' => exact h.proceed rfl rfl rfl h.installed id hlifecycles
    | released l' hsome' hyes' =>
      rw [hno, ownLifecycle_of_some hsome', hyes'] at harmed
      cases harmed
  | released l hsome hyes =>
    cases hq with
    | unarmed hno' =>
      rw [hno', ownLifecycle_of_some hsome, hyes] at harmed
      cases harmed
    | released l' hsome' hyes' =>
      rw [ownLifecycle_of_some hsome, ownLifecycle_of_some hsome'] at hlifecycles
      refine h.proceed rfl (by rw [hsome]; rfl) (by rw [hsome']; rfl) rfl Bool.noConfusion ?_
      exact hlifecycles.disarmed.teardown (lasting_ahead _)

theorem dispatch (h : Mirrors log p q) (e : Event) :
    Mirrors (log ++ [.event e]) (p.step (.dispatch e)).2 (q.step (.dispatch e)).2 := by
  have hp := p.turn h.made_of_installed (.dispatch e)
  have hq := q.turn h.spared_of_installed (.dispatch e)
  have hinstalled := h.installed
  have hlifecycles := h.lifecycles
  rw [← idleReports_append_of_ne log (.event e) (by simp)] at hlifecycles
  generalize (p.step (.dispatch e)).2 = p' at hp ⊢
  generalize (q.step (.dispatch e)).2 = q' at hq ⊢
  cases hp with
  | unheard e hno =>
    cases hq with
    | unheard e hno' => exact h.proceed rfl rfl rfl hinstalled id hlifecycles
    | delivered e l' hyes' hsome' =>
      rw [hno, hyes'] at hinstalled
      cases hinstalled
  | delivered e l hyes hsome =>
    cases hq with
    | unheard e hno' =>
      rw [hyes, hno'] at hinstalled
      cases hinstalled
    | delivered e l' hyes' hsome' =>
      rw [ownLifecycle_of_some hsome, ownLifecycle_of_some hsome'] at hlifecycles
      refine h.proceed rfl (by rw [hsome]; rfl) (by rw [hsome']; rfl) hinstalled id ?_
      exact hlifecycles.onEvent (lasting_ahead _) e

end Mirrors

/-! ## Runs -/

variable {log : History} {p q : Program}

/-- A step of the first program, which the second one takes unless it is a refused setup. -/
theorem mirrors_step (h : Mirrors log p q) (step : ProgramStep) :
    Mirrors (log ++ [step.soloStep]) (p.step step).2
      (q.run ([step].filter fun step => !step.refused)) := by
  cases step with
  | setup config =>
    have hp := p.turn_setup config
    have hq := q.turn_setup config
    generalize (p.step (.setup config)).2 = p' at hp ⊢
    cases hp with
    | refused config hfilter =>
      have hno : setsUp (.setup config) = false := by simp [setsUp, hfilter]
      have hrefused : (ProgramStep.setup config).refused = true := by
        simp [ProgramStep.refused, ProgramStep.soloStep, SoloStep.isSetup, hno]
      rw [List.filter_cons_of_neg (by simp [hrefused])]
      exact h.refused hno
    | setUp config filter hfilter =>
      have hrefused : (ProgramStep.setup config).refused = false := by
        simp [ProgramStep.refused, ProgramStep.soloStep, setsUp, hfilter]
      rw [List.filter_cons_of_pos (by simp [hrefused])]
      show Mirrors _ _ (q.step (.setup config)).2
      generalize (q.step (.setup config)).2 = q' at hq ⊢
      cases hq with
      | refused config hnone =>
        rw [hfilter] at hnone
        cases hnone
      | setUp config filter' hfilter' =>
        cases hfilter.symm.trans hfilter'
        exact h.setUp hfilter
  | teardown => exact h.teardown
  | release => exact h.release
  | dispatch e => exact h.dispatch e

/-- A run and the run without its refused setups. -/
theorem mirrors_run (disk : FileSystem) (steps : List ProgramStep) :
    Mirrors (history steps) ((start disk).run steps)
      ((start disk).run (steps.filter fun step => !step.refused)) := by
  induction steps using List.reverseRecOn with
  | nil => exact mirrors_start disk
  | append_singleton steps step ih =>
    rw [run_append, history_append, List.filter_append, run_append]
    exact mirrors_step ih step

theorem Mirrors.standardError (h : Mirrors log p q) :
    p.standardError.toList = Channel.utf8 (idleReports log) ++ q.standardError.toList := by
  rw [standardError_eq, standardError_eq]
  exact h.lifecycles.channels.bytes

/-- How a step ends does not depend on the program. -/
theorem outcome_step (p q : Program) (step : ProgramStep) : (p.step step).1 = (q.step step).1 := by
  cases step with
  | setup config =>
    show (p.setup config).1 = (q.setup config).1
    rw [setup, setup, Lifecycle.setup, Lifecycle.setup, Tracer.configure, Tracer.configure]
    cases ModuleFilter.ofText config.modulePattern <;> rfl
  | teardown | release | dispatch e => rfl

/-- **What is seen of refused setups.**  A run and the same run without its refused setups agree
after every number of steps on the hook, the exit handlers, the lifecycle (made or not) but for
its output, how the next step ends, and what the exit writes.  They differ in two things: there is
a lifecycle too when setups were tried and all refused, and every teardown that comes then writes
an empty report. -/
theorem refused_setups_seen_in (disk : FileSystem) (steps : List ProgramStep) :
    let p := (start disk).run steps
    let q := (start disk).run (steps.filter fun step => !step.refused)
    (p.installed = q.installed ∧ p.exitHandlers = q.exitHandlers ∧
        p.ownLifecycle.silent = q.ownLifecycle.silent ∧
        (∀ step, (p.step step).1 = (q.step step).1) ∧
        ∃ atExit, p.exit.standardError.toList = p.standardError.toList ++ atExit ∧
          q.exit.standardError.toList = q.standardError.toList ++ atExit) ∧
      q.lifecycle.isSome = (history steps).any setsUp ∧
      p.lifecycle.isSome = (q.lifecycle.isSome || onlyRefused (history steps)) ∧
      p.standardError.toList =
        Channel.utf8 (String.join (List.replicate (idleTeardowns (history steps)) emptyReport)) ++
          q.standardError.toList := by
  intro p q
  have h : Mirrors (history steps) p q := mirrors_run disk steps
  have hp : p.Recalls disk (history steps) := recalls_run disk steps
  have hq : q.Recalls disk (history (steps.filter fun step => !step.refused)) := recalls_run disk _
  have hmade : p.lifecycle.isSome = (q.lifecycle.isSome || onlyRefused (history steps)) := by
    rw [h.made, h.spared, onlyRefused]
    cases hany : (history steps).any setsUp with
    | true => exact any_isSetup_of_any_setsUp hany
    | false => rw [Bool.not_false, Bool.and_true, Bool.false_or]
  refine ⟨⟨h.installed, h.exitHandlers, h.lifecycles.silent, outcome_step p q, ?_⟩, h.spared, hmade,
    h.standardError⟩
  -- what a release would write is the same, since the releases mirror each other too
  have hrelease : p.release.standardError.toList =
      Channel.utf8 (idleReports (history steps ++ [.release])) ++ q.release.standardError.toList :=
    h.release.standardError
  rw [idleReports_append_of_ne (history steps) .release (by simp), hp.standardError_release,
    hq.standardError_release, h.standardError, List.append_assoc] at hrelease
  have htext := List.append_cancel_left (List.append_cancel_left hrelease)
  refine ⟨Channel.utf8 (stepText .standard (.ofDisk disk) (history steps) .release), ?_, ?_⟩
  · rw [hp.exit_eq_release, hp.standardError_release]
  · rw [hq.exit_eq_release, hq.standardError_release, ← htext]

/-- A group that is not closed is refused, and yet there is a lifecycle and the teardown reports. -/
theorem lifecycle_after_refused_setup :
    let refused : ProgramStep := .setup ⟨"demo(", false⟩
    ((start .empty).step refused).1 = .error ⟨"demo("⟩ ∧
      (((start .empty).run [refused]).lifecycle.isSome = true ∧
        ((start .empty).run []).lifecycle.isSome = false) ∧
      ((start .empty).run [refused, .teardown]).standardError.toList = Channel.utf8 emptyReport ∧
      Channel.utf8 emptyReport ≠ [] ∧
      ((start .empty).run [.teardown]).standardError.toList = [] := by
  exact ⟨by decide, ⟨by decide, rfl⟩, by decide, by decide, rfl⟩

end Program

end CallTrace
