import CallTrace.Proofs.Files.Create
import CallTrace.Replay.Run

/-!
# Replays that fail

A replay that fails has written neither trace nor report, and has left all files as they were, but
for one case: a refused module pattern is noticed after the output file was made, which is then
empty (`replay_failed`).
-/

namespace CallTrace

/-! ## Where a replay stops -/

/-- What is needed before the output file is made fails for other reasons than the pattern. -/
theorem load_ne_pattern {disk : FileSystem} {config recording : String} {e : ReplayError}
    (h : ReplayInput.load disk config recording = .error e) (p : InvalidPattern) :
    e ≠ .pattern p := by
  intro hp
  subst hp
  obtain hconfig | ⟨c, -, h⟩ := bind_eq_error.1 h
  · obtain ⟨e, -, he⟩ := mapError_eq_error.1 hconfig
    cases he
  obtain htext | ⟨text, -, h⟩ := bind_eq_error.1 h
  · obtain ⟨e, -, he⟩ := mapError_eq_error.1 htext
    cases he
  obtain hrecorded | ⟨recorded, -, h⟩ := bind_eq_error.1 h
  · obtain ⟨e, -, he⟩ := mapError_eq_error.1 hrecorded
    cases he
  obtain hevents | ⟨events, -, h⟩ := bind_eq_error.1 h
  · obtain ⟨e, -, he⟩ := mapError_eq_error.1 hevents
    cases he
  cases h

/-- A first setup succeeds unless the module pattern is refused. -/
theorem outcome_setup {σ : Type} [LineSource σ] (t : Tracer σ) (config : TracerConfig) :
    ((Session.ofTracers [t]).step (.on 0 (.setup config))).1 =
      match ModuleFilter.ofText config.modulePattern with
      | .ok _ => .ok ()
      | .error p => .error (.invalidPattern p) := by
  show ((Lifecycle.ofTracer t).answerSetup .take ((Lifecycle.ofTracer t).setup config)).outcome = _
  unfold Lifecycle.setup Tracer.configure
  cases ModuleFilter.ofText config.modulePattern <;> rfl

/-- Tracing fails only if the module pattern is refused. -/
theorem trace_eq_error {disk : FileSystem} {config : TraceConfig} {recorded : List RecordedEvent}
    {events : List Event} {p : InvalidPattern} (h : trace disk config recorded events = .error p) :
    ModuleFilter.ofText config.modulePattern = .error p := by
  have hsetup := outcome_setup (replayTracer disk config recorded) config.tracerConfig
  unfold trace at h
  dsimp only at h
  split at h
  · next e _ hstep =>
    cases h
    rw [hstep] at hsetup
    change _ =
      match ModuleFilter.ofText config.modulePattern with | .ok _ => _ | .error p => _ at hsetup
    cases hf : ModuleFilter.ofText config.modulePattern with
    | ok filter =>
      rw [hf] at hsetup
      cases hsetup
    | error p =>
      rw [hf] at hsetup
      cases hsetup
      rfl
  · cases h

/-- The pattern that the configuration of a replay gives is refused. -/
def RefusesPattern (disk : FileSystem) (config recording : String) (p : InvalidPattern) : Prop :=
  ∃ input, ReplayInput.load disk config recording = .ok input ∧
    ModuleFilter.ofText input.config.modulePattern = .error p

/-- How a replay can fail: with all files as they were, or by its pattern after the output file was
made. -/
theorem replay_error_cases {disk : FileSystem} {config recording : String} {output : Option String}
    {e : ReplayError} (h : (replay disk config recording output).outcome = .error e) :
    (replay disk config recording output = ⟨.error e, disk, #[]⟩ ∧
      ((∀ p, e ≠ .pattern p) ∨
        output = none ∧ ∃ p, e = .pattern p ∧ RefusesPattern disk config recording p)) ∨
    ∃ path here disk' p, output = some path ∧ disk.create path = .ok (here, disk') ∧
      e = .pattern p ∧ RefusesPattern disk config recording p ∧
      replay disk config recording output = ⟨.error e, disk', #[]⟩ := by
  unfold replay at h ⊢
  cases hload : ReplayInput.load disk config recording with
  | error e' =>
    rw [hload] at h
    cases h
    exact .inl ⟨rfl, .inl (load_ne_pattern hload)⟩
  | ok input =>
    rw [hload] at h
    dsimp only at h ⊢
    cases output with
    | none =>
      dsimp only at h ⊢
      cases htrace : trace disk input.config input.recorded input.events with
      | error p =>
        rw [htrace] at h
        cases h
        exact .inl ⟨rfl, .inr ⟨rfl, p, rfl, input, hload, trace_eq_error htrace⟩⟩
      | ok bytes =>
        rw [htrace] at h
        cases h
    | some path =>
      dsimp only at h ⊢
      cases hcreate : disk.create path with
      | error cause =>
        rw [hcreate] at h
        cases h
        refine .inl ⟨rfl, .inl ?_⟩
        intro p hp
        cases hp
      | ok created =>
        obtain ⟨here, disk'⟩ := created
        rw [hcreate] at h
        dsimp only at h ⊢
        cases htrace : trace disk' input.config input.recorded input.events with
        | error p =>
          rw [htrace] at h
          cases h
          exact .inr ⟨path, here, disk', p, rfl, hcreate, rfl,
            ⟨input, hload, trace_eq_error htrace⟩, rfl⟩
        | ok bytes =>
          rw [htrace] at h
          cases h

/-! ## What is left behind -/

/-- **A failed replay leaves the files as they were, or has emptied its output.**  Nothing is
written to the standard error.  The output file reads as before exactly if the replay did not fail
by its module pattern or the file was there and empty before. -/
theorem replay_failed (disk : FileSystem) (config recording : String) (output : Option String)
    (e : ReplayError) (h : (replay disk config recording output).outcome = .error e) :
    (replay disk config recording output).standardError = #[] ∧
      (∀ path, output = some path →
        ((replay disk config recording output).disk.read path = disk.read path ↔
          (∀ p, e ≠ .pattern p) ∨ disk.read path = .ok .empty)) ∧
      ((∀ p, e ≠ .pattern p) ∨ output = none →
        (replay disk config recording output).disk = disk) ∧
      ∀ p, e = .pattern p → RefusesPattern disk config recording p ∧
        ∀ path, output = some path →
          ∃ here, disk.create path = .ok (here, (replay disk config recording output).disk) ∧
            (replay disk config recording output).disk.read path = .ok .empty := by
  obtain ⟨hreplay, hcause⟩ | ⟨path, here, disk', p, houtput, hcreate, hp, hrefused, hreplay⟩ :=
    replay_error_cases h
  · rw [hreplay]
    refine ⟨rfl, ?_, fun _ => rfl, ?_⟩
    · intro path houtput
      refine ⟨fun _ => ?_, fun _ => rfl⟩
      obtain hother | ⟨hnone, -⟩ := hcause
      · exact .inl hother
      · rw [hnone] at houtput
        cases houtput
    · intro p hp
      obtain hother | ⟨hnone, p', hp', hrefused⟩ := hcause
      · exact absurd hp (hother p)
      · cases hp.symm.trans hp'
        refine ⟨hrefused, ?_⟩
        intro path houtput
        rw [hnone] at houtput
        cases houtput
  · have hempty : disk'.read path = .ok .empty := FileSystem.read_create hcreate
    rw [hreplay]
    refine ⟨rfl, ?_, ?_, ?_⟩
    · intro path' houtput'
      cases houtput.symm.trans houtput'
      show disk'.read path = disk.read path ↔ _
      rw [hempty]
      constructor
      · intro hsame
        exact .inr hsame.symm
      · rintro (hother | hbefore)
        · exact absurd hp (hother p)
        · exact hbefore.symm
    · rintro (hother | hnone)
      · exact absurd hp (hother p)
      · rw [hnone] at houtput
        cases houtput
    · intro p' hp'
      cases hp.symm.trans hp'
      refine ⟨hrefused, ?_⟩
      intro path' houtput'
      cases houtput.symm.trans houtput'
      exact ⟨here, hcreate, hempty⟩

/-- The recording is not there, so the old trace is kept. -/
theorem replay_failed_without_recording :
    let disk := FileSystem.empty.store "trace.txt" "old".toUTF8
    let r := replay disk "" "recording.kdl" (some "trace.txt")
    r.outcome = .error (.recording (.file .notFound)) ∧ r.standardError = #[] ∧
      r.disk.read "trace.txt" = disk.read "trace.txt" := by
  intro disk r
  have h : r.outcome = .error (.recording (.file .notFound)) := rfl
  obtain ⟨herror, hread, -, -⟩ := replay_failed disk "" "recording.kdl" (some "trace.txt") _ h
  refine ⟨h, herror, (hread "trace.txt" rfl).2 (.inl ?_)⟩
  intro p hp
  cases hp

/-- A pattern that is refused costs the trace of an earlier replay. -/
theorem refused_pattern_empties_output :
    let disk := (FileSystem.empty.store "recording.kdl" .empty).store "trace.txt" "old".toUTF8
    let r := replay disk "module-pattern \"(\"" "recording.kdl" (some "trace.txt")
    r.outcome = .error (.pattern ⟨"("⟩) ∧ disk.read "trace.txt" = .ok "old".toUTF8 ∧
      r.disk.read "trace.txt" = .ok .empty ∧ r.disk.read "trace.txt" ≠ disk.read "trace.txt" := by
  intro disk r
  have hbefore : disk.read "trace.txt" = .ok "old".toUTF8 := rfl
  have hafter : r.disk.read "trace.txt" = .ok .empty := rfl
  refine ⟨rfl, hbefore, hafter, ?_⟩
  rw [hbefore, hafter]
  intro h
  have hsize : ByteArray.empty.size = "old".toUTF8.size := congrArg ByteArray.size (Except.ok.inj h)
  cases hsize

end CallTrace
