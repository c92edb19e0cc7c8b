import CallTrace.Proofs.Program.Steps
import CallTrace.Proofs.Source.Watched

/-!
# What a program writes when it exits

The first setup that succeeds registers the exit handler, once, and a release uses up what the
setups before it armed.  So a report is owed at the exit if some successful setup has no release
after it, and it covers the calls of the whole run (`exit_reports_iff_owed`), since neither setups
nor teardowns take anything out of the inventory.

`Recalls` relates the state of a program to the steps it has taken: hook and handlers are what
`History` reads off the past, and the lifecycle recalls it.
-/

namespace CallTrace

open History

/-! ## Files as sources of fixed declarations -/

/-- The declarations of files that do not change. -/
def Declarations.ofDisk (disk : FileSystem) : Declarations := ⟨[], disk⟩

theorem passesLookups_over {σ : Type} [LineSource σ] :
    PassesLookups (Overlay.over : σ → Overlay σ) :=
  fun _ _ _ => rfl

/-- The files answer as those of the disk, whatever was read of them before. -/
def FileLines.Unchanged (disk : FileSystem) (files : FileLines) : Prop :=
  (Declarations.ofDisk disk).ServedBy (.over files)

theorem FileLines.unchanged_ofDisk (disk : FileSystem) : (ofDisk disk).Unchanged disk :=
  (Declarations.ofDisk disk).servedBy_source

theorem FileLines.answeredBy_unchanged (disk : FileSystem) :
    (Declarations.ofDisk disk).AnsweredBy (Unchanged disk) := by
  intro rules e files h
  obtain ⟨hclass, hserved⟩ := h.classify_serves rules e.context
  rw [rules.classify_map e.context files passesLookups_over] at hclass hserved
  exact ⟨_, hserved, Prod.ext hclass rfl⟩

/-! ## What the state has to do with the past -/

abbrev RecallsFiles (disk : FileSystem) (log : History) (l : Lifecycle FileLines) : Prop :=
  l.Recalls (FileLines.Unchanged disk) .standard (.ofDisk disk) log

/-- The program is what the past says. -/
structure Program.Recalls (disk : FileSystem) (log : History) (p : Program) : Prop where
  made : p.installed = true → p.lifecycle.isSome = true
  installed : p.installed = (inForce? log).isSome
  handlers : p.exitHandlers = if log.any setsUp then 1 else 0
  lifecycle : RecallsFiles disk log p.ownLifecycle

variable {disk : FileSystem} {log : History}

namespace Program

variable {p : Program}

/-! ## Runs -/

theorem recalls_start (disk : FileSystem) : (start disk).Recalls disk [] where
  made := nofun
  installed := rfl
  handlers := rfl
  lifecycle := ⟨rfl, nofun, rfl, FileLines.unchanged_ofDisk disk, rfl, rfl⟩

/-- A step that registers no handler. -/
theorem Recalls.handlers_append (h : p.Recalls disk log) {step : SoloStep}
    (hstep : setsUp step = false) :
    p.exitHandlers = if (log ++ [step]).any setsUp then 1 else 0 := by
  rw [List.any_append, List.any_cons, hstep, List.any_nil, Bool.or_false, Bool.or_false]
  exact h.handlers

theorem Recalls.inForce?_eq_none (h : p.Recalls disk log) (hidle : p.installed = false) :
    inForce? log = none := by
  rw [h.installed] at hidle
  cases hforce : inForce? log with
  | none => rfl
  | some config =>
    rw [hforce] at hidle
    cases hidle

/-- Every step keeps the state what the past says. -/
theorem recalls_step (h : p.Recalls disk log) (step : ProgramStep) :
    (p.step step).2.Recalls disk (log ++ [step.soloStep]) := by
  have hown : ∀ l, p.lifecycle = some l → RecallsFiles disk log l := by
    intro l hl
    rw [← ownLifecycle_of_some hl]
    exact h.lifecycle
  have hturn := p.turn h.made step
  generalize (p.step step).2 = p' at hturn ⊢
  cases hturn with
  | refused config hfilter =>
    have hno : setsUp (.setup config) = false := by simp [setsUp, hfilter]
    refine ⟨fun _ => rfl, ?_, h.handlers_append hno, h.lifecycle.refused hfilter⟩
    rw [ProgramStep.soloStep, inForce?_append_refused hfilter]
    exact h.installed
  | setUp config filter hfilter =>
    refine ⟨fun _ => rfl, ?_, ?_, h.lifecycle.setUpWith hfilter⟩
    · rw [ProgramStep.soloStep, inForce?_append_setup hfilter]
      rfl
    · have hone : max p.exitHandlers 1 = 1 := by
        rw [h.handlers]
        split <;> rfl
      simp [ProgramStep.soloStep, setsUp, hfilter, hone]
  | unmadeTeardown hnone =>
    have hidle := not_installed_of_none h.made hnone
    have hforce := inForce?_append_teardown log
    refine ⟨h.made, ?_, h.handlers_append rfl,
      h.lifecycle.idle (armed_append_teardown log) ?_ rfl⟩
    · rw [ProgramStep.soloStep, hforce, hidle]
      rfl
    · rw [ProgramStep.soloStep, hforce, h.inForce?_eq_none hidle]
  | tornDown l hsome =>
    refine ⟨Bool.noConfusion, ?_, h.handlers_append rfl, (hown l hsome).teardown⟩
    rw [ProgramStep.soloStep, inForce?_append_teardown]
    rfl
  | unarmed hunarmed =>
    have hpast : History.armed log = false := by rw [← h.lifecycle.armed, hunarmed]
    refine ⟨h.made, ?_, h.handlers_append rfl, h.lifecycle.unarmed hunarmed⟩
    rw [ProgramStep.soloStep, inForce?_append_unarmed hpast]
    exact h.installed
  | released l hsome harmed =>
    have hpast : History.armed log = true := by rw [← (hown l hsome).armed, harmed]
    refine ⟨Bool.noConfusion, ?_, h.handlers_append rfl, (hown l hsome).released harmed⟩
    rw [ProgramStep.soloStep, inForce?_append_released hpast]
    rfl
  | unheard e hidle =>
    refine ⟨h.made, ?_, h.handlers_append rfl, h.lifecycle.unheard (h.inForce?_eq_none hidle) e⟩
    rw [ProgramStep.soloStep, inForce?_append_event]
    exact h.installed
  | delivered e l hinstalled hsome =>
    have hsome' : (inForce? log).isSome = true := by rw [← h.installed, hinstalled]
    obtain ⟨config, hforce⟩ := Option.isSome_iff_exists.1 hsome'
    refine ⟨fun _ => rfl, ?_, h.handlers_append rfl,
      (hown l hsome).onEvent (FileLines.answeredBy_unchanged disk) hforce e⟩
    rw [ProgramStep.soloStep, inForce?_append_event]
    exact h.installed

def history (steps : List ProgramStep) : History := steps.map ProgramStep.soloStep

theorem history_append (steps : List ProgramStep) (step : ProgramStep) :
    history (steps ++ [step]) = history steps ++ [step.soloStep] := by
  simp [history]

/-- A run leads to the state that its history says. -/
theorem recalls_run (disk : FileSystem) (steps : List ProgramStep) :
    ((start disk).run steps).Recalls disk (history steps) := by
  induction steps using List.reverseRecOn with
  | nil => exact recalls_start disk
  | append_singleton steps step ih =>
    rw [run_append, history_append]
    exact recalls_step ih step

/-! ## What is owed -/

/-- A report is owed: some setup succeeds and no release comes after it. -/
def Owed (disk : FileSystem) (steps : List ProgramStep) : Prop :=
  ∃ before config after, steps = before ++ .setup config :: after ∧
    (((start disk).run before).setup config).1 = .ok () ∧ ProgramStep.release ∉ after

/-- Whether a setup succeeds does not depend on the program. -/
theorem setup_eq_ok_iff (p : Program) (config : TracerConfig) :
    (p.setup config).1 = .ok () ↔ setsUp (.setup config) = true := by
  have hsetsUp : setsUp (.setup config) = config.filter?.isSome := rfl
  rw [hsetsUp, setup]
  obtain ⟨e, hnone, hsetup⟩ | ⟨filter, hsome, hsetup⟩ := p.ownLifecycle.setup_cases config
  · rw [hsetup, hnone]
    exact ⟨nofun, nofun⟩
  · rw [hsetup, hsome]
    exact ⟨fun _ => rfl, fun _ => rfl⟩

theorem not_owed_nil (disk : FileSystem) : ¬ Owed disk [] := by
  rintro ⟨before, config, after, h, -⟩
  exact List.append_ne_nil_of_right_ne_nil before (List.cons_ne_nil _ after) h.symm

theorem owed_append (disk : FileSystem) (steps : List ProgramStep) (step : ProgramStep) :
    Owed disk (steps ++ [step]) ↔
      step ≠ .release ∧ (setsUp step.soloStep = true ∨ Owed disk steps) := by
  constructor
  · rintro ⟨before, config, after, hsteps, hok, hafter⟩
    cases after using List.reverseRecOn with
    | nil =>
      obtain ⟨rfl, h⟩ := List.append_inj' hsteps rfl
      cases h
      exact ⟨nofun, .inl ((setup_eq_ok_iff _ config).1 hok)⟩
    | append_singleton after last =>
      have hsteps' : steps ++ [step] = (before ++ .setup config :: after) ++ [last] := by
        rw [hsteps, List.append_assoc, List.cons_append]
      obtain ⟨rfl, h⟩ := List.append_inj' hsteps' rfl
      cases h
      rw [List.mem_append, not_or, List.mem_singleton] at hafter
      exact ⟨fun h => hafter.2 h.symm, .inr ⟨before, config, after, rfl, hok, hafter.1⟩⟩
  · rintro ⟨hstep, hlast | ⟨before, config, after, rfl, hok, hafter⟩⟩
    · cases step with
      | setup config =>
        exact ⟨steps, config, [], rfl, (setup_eq_ok_iff _ config).2 hlast, List.not_mem_nil⟩
      | teardown | release | dispatch e => cases hlast
    · refine ⟨before, config, after ++ [step], by simp, hok, ?_⟩
      rw [List.mem_append, not_or, List.mem_singleton]
      exact ⟨hafter, Ne.symm hstep⟩

/-- A release would fire at the end if a report is owed. -/
theorem armed_history_iff (disk : FileSystem) (steps : List ProgramStep) :
    History.armed (history steps) = true ↔ Owed disk steps := by
  induction steps using List.reverseRecOn with
  | nil => exact iff_of_false nofun (not_owed_nil disk)
  | append_singleton steps step ih =>
    have hrelease : step.soloStep = .release ↔ step = .release := by
      cases step <;> simp [ProgramStep.soloStep]
    rw [history_append, armed_append, owed_append]
    by_cases h : step = .release
    · rw [if_pos (hrelease.2 h)]
      simp [h]
    · rw [if_neg (mt hrelease.1 h), Bool.or_eq_true, ih]
      simp [h]

instance (disk : FileSystem) (steps : List ProgramStep) : Decidable (Owed disk steps) :=
  decidable_of_iff _ (armed_history_iff disk steps)

/-! ## The exit -/

theorem any_setsUp_of_armed (log : History) (h : History.armed log = true) :
    log.any setsUp = true := by
  induction log using List.reverseRecOn with
  | nil => cases h
  | append_singleton log step ih =>
    rw [armed_append] at h
    rw [List.any_append, Bool.or_eq_true]
    split at h
    · cases h
    · rcases Bool.or_eq_true _ _ ▸ h with hstep | hlog
      · exact .inr (by simp [hstep])
      · exact .inl (ih hlog)

/-- An armed lifecycle has its exit handler. -/
theorem Recalls.exitHandlers_of_armed (h : p.Recalls disk log) (harmed : History.armed log = true) :
    p.exitHandlers = 1 := by
  rw [h.handlers, if_pos (any_setsUp_of_armed log harmed)]

/-- The exit does what one release would do, registered or not. -/
theorem Recalls.exit_eq_release (h : p.Recalls disk log) : p.exit = p.release := by
  rw [exit]
  cases hany : log.any setsUp with
  | true =>
    rw [h.handlers, hany]
    rfl
  | false =>
    have hunarmed : p.ownLifecycle.armed = false := by
      rw [h.lifecycle.armed, Bool.eq_false_iff]
      intro harmed
      rw [any_setsUp_of_armed log harmed] at hany
      cases hany
    rw [h.handlers, hany]
    have hturn := p.turn_release
    generalize hp' : (p.step .release).2 = p' at hturn
    cases hturn with
    | unarmed _ => exact hp'.symm
    | released l hsome harmed =>
      rw [ownLifecycle_of_some hsome, harmed] at hunarmed
      cases hunarmed

/-- A release writes the report of the past if it fires. -/
theorem Recalls.standardError_release (h : p.Recalls disk log) :
    p.release.standardError.toList = p.standardError.toList ++
      Channel.utf8 (stepText .standard (.ofDisk disk) log .release) := by
  have hturn := p.turn_release
  have hrelease : (p.step .release).2 = p.release := rfl
  rw [hrelease] at hturn
  generalize p.release = p' at hturn ⊢
  rw [stepText, ← h.lifecycle.armed]
  cases hturn with
  | unarmed hunarmed =>
    rw [hunarmed]
    exact (List.append_nil _).symm
  | released l hsome harmed =>
    have hl : RecallsFiles disk log l := by
      rw [← ownLifecycle_of_some hsome]
      exact h.lifecycle
    rw [standardError_eq p, ownLifecycle_of_some hsome, harmed, if_pos rfl]
    exact hl.bytes_report

/-- **One report at the exit, if one is owed.**  After any steps the exit writes the banner and the
report of all calls that were traced since the program began if some setup succeeded with no release
after it, and nothing otherwise.  There is never more than one exit handler, and there is one while
the lifecycle is armed. -/
theorem exit_reports_iff_owed (disk : FileSystem) (steps : List ProgramStep) :
    let p := (start disk).run steps
    p.exit.standardError.toList = p.standardError.toList ++
        (if Owed disk steps then
          Channel.utf8 (report .standard (.ofDisk disk) (history steps))
        else []) ∧
      p.exitHandlers ≤ 1 ∧ (p.ownLifecycle.armed = true → p.exitHandlers = 1) := by
  intro p
  have h : p.Recalls disk (history steps) := recalls_run disk steps
  refine ⟨?_, ?_, ?_⟩
  · rw [h.exit_eq_release, h.standardError_release, stepText]
    by_cases howed : Owed disk steps
    · rw [if_pos howed, if_pos ((armed_history_iff disk steps).2 howed)]
    · rw [if_neg howed, if_neg (mt (armed_history_iff disk steps).1 howed)]
      rfl
  · rw [h.handlers]
    split <;> decide
  · intro harmed
    exact h.exitHandlers_of_armed (h.lifecycle.armed ▸ harmed)

/-- Neither a teardown nor a refused setup settles what is owed, and a release does. -/
example :
    Owed .empty [.setup ⟨"demo", false⟩, .teardown, .setup ⟨"demo(", false⟩] ∧
      ¬ Owed .empty [.setup ⟨"demo", false⟩, .teardown, .release, .teardown] := by decide

end Program

end CallTrace
