import CallTrace.Proofs.Tracing.Recalls

/-!
# A whole run writes what its history says

`Follows log l` relates the state of a lifecycle that has the hook to itself to the steps it has
taken: it recalls its past, and depth and output too are what `History` reads off the past.  Every
step keeps the relation (`follows_step`), so the bytes of a run are those of the text
`History.written` (`bytes_run_eq_written`).
-/

namespace CallTrace

open History

/-- The state of the lifecycle is what the past says. -/
structure Follows (rules : ClassifierRules) (d : Declarations) (log : History)
    (l : Lifecycle (Overlay FileLines)) : Prop extends l.Recalls d.ServedBy rules d log where
  live : l.state ≠ .dropped
  depth : l.tracer.depth = (traced log .called).length - (traced log .returned).length
  bytes : l.tracer.channel.bytes.toList = Channel.utf8 (written rules d log false)

/-- The session of the lifecycle: it has the hook while a setup is in force. -/
def soloSession {σ : Type} (log : History) (l : Lifecycle σ) : Session σ :=
  ⟨if (inForce? log).isSome then some 0 else none, [l]⟩

theorem step_single {σ : Type} [LineSource σ] (hook : Option Nat) (l : Lifecycle σ)
    (h : l.state ≠ .dropped) (step : LifecycleStep) :
    ((⟨hook, [l]⟩ : Session σ).step (.on 0 step)).2 =
      ⟨Session.hookAfter hook 0 (l.liveStep step).effect, [(l.liveStep step).lifecycle]⟩ := by
  have hlive : l.step step = l.liveStep step := by
    unfold Lifecycle.step
    exact if_neg h
  rw [← hlive]
  rfl

variable {rules : ClassifierRules} {d : Declarations} {log : History}
  {l : Lifecycle (Overlay FileLines)}

theorem follows_nil : Follows rules d [] (.ofTracer (.fresh rules d.source .unlimited)) where
  armed := rfl
  configured := nofun
  ruled := rfl
  sources := d.servedBy_source
  inventory := rfl
  unlimited := rfl
  live := by simp [Lifecycle.ofTracer]
  depth := rfl
  bytes := rfl

/-! ## Steps without events that are heard -/

/-- A step that is no event that is heard, and writes a text. -/
theorem Follows.wrote (h : Follows rules d log l) {step : SoloStep}
    {l' : Lifecycle (Overlay FileLines)}
    (hrecalls : l'.Recalls d.ServedBy rules d (log ++ [step])) (hlive : l'.state ≠ .dropped)
    (hdepth : l'.tracer.depth = l.tracer.depth) (hevent : ∀ kind, tracedAs? kind log step = none)
    (hbytes : l'.tracer.channel.bytes.toList =
      l.tracer.channel.bytes.toList ++ Channel.utf8 (stepText rules d log step)) :
    Follows rules d (log ++ [step]) l' :=
  { hrecalls with
    live := hlive
    depth := by simpa [traced_append, hevent, hdepth] using h.depth
    bytes := by rw [hbytes, h.bytes, written_append, Channel.utf8_append] }

/-- A step that writes nothing. -/
theorem Follows.kept (h : Follows rules d log l) {step : SoloStep}
    {l' : Lifecycle (Overlay FileLines)}
    (hrecalls : l'.Recalls d.ServedBy rules d (log ++ [step])) (hlive : l'.state ≠ .dropped)
    (hdepth : l'.tracer.depth = l.tracer.depth) (hevent : ∀ kind, tracedAs? kind log step = none)
    (hchannel : l'.tracer.channel = l.tracer.channel) (htext : stepText rules d log step = "") :
    Follows rules d (log ++ [step]) l' := by
  refine h.wrote hrecalls hlive hdepth hevent ?_
  rw [hchannel, htext]
  exact (List.append_nil _).symm

theorem follows_setup (h : Follows rules d log l) (config : TracerConfig) :
    ∃ l', Follows rules d (log ++ [.setup config]) l' ∧
      ((soloSession log l).step (.on 0 (.setup config))).2 =
        soloSession (log ++ [.setup config]) l' := by
  rw [soloSession, step_single _ _ h.live]
  obtain ⟨e, hnone, hsetup⟩ | ⟨filter, hsome, hsetup⟩ := l.setup_cases config
  · have hlive : l.liveStep (.setup config) = ⟨.error (.invalidPattern e), l, .keep⟩ := by
      rw [Lifecycle.liveStep, hsetup]
      rfl
    refine ⟨l, h.kept (h.refused hnone) h.live rfl (fun _ => rfl) rfl rfl, ?_⟩
    rw [hlive, soloSession, inForce?_append_refused hnone]
    rfl
  · have hlive : l.liveStep (.setup config) =
        ⟨.ok (), l.setUpWith filter config.printLocation, .take⟩ := by
      rw [Lifecycle.liveStep, hsetup]
      rfl
    refine ⟨_, h.kept (h.setUpWith hsome)
      (by simp [Lifecycle.setUpWith]) rfl (fun _ => rfl) rfl rfl, ?_⟩
    rw [hlive, soloSession, inForce?_append_setup hsome]
    rfl

theorem follows_teardown (h : Follows rules d log l) :
    ∃ l', Follows rules d (log ++ [.teardown]) l' ∧
      ((soloSession log l).step (.on 0 .teardown)).2 = soloSession (log ++ [.teardown]) l' := by
  refine ⟨_, h.wrote h.teardown (by simp [Lifecycle.teardown])
      rfl (fun _ => rfl) h.bytes_report, ?_⟩
  rw [soloSession, step_single _ _ h.live, soloSession, inForce?_append_teardown]
  rfl

theorem follows_release (h : Follows rules d log l) :
    Follows rules d (log ++ [.release]) l.release ∧
      ((soloSession log l).step (.on 0 .release)).2 =
        soloSession (log ++ [.release]) l.release := by
  rw [soloSession, step_single _ _ h.live, soloSession]
  cases hl : l.armed with
  | true =>
    have hpast : History.armed log = true := by rw [← h.armed, hl]
    have hrelease : l.release = { l with armed := false }.teardown := if_pos hl
    rw [hrelease, inForce?_append_released hpast]
    constructor
    · refine h.wrote (h.released hl) (by simp [Lifecycle.teardown]) rfl (fun _ => rfl) ?_
      rw [stepText, if_pos hpast]
      exact h.bytes_report
    · simp [Lifecycle.liveStep, Lifecycle.releaseEffect, hrelease, hl, Session.hookAfter]
  | false =>
    have hpast : History.armed log = false := by rw [← h.armed, hl]
    have hrelease : l.release = l := by
      rw [Lifecycle.release, hl]
      rfl
    rw [hrelease, inForce?_append_unarmed hpast]
    constructor
    · refine h.kept (h.unarmed hl) h.live rfl (fun _ => rfl) rfl ?_
      rw [stepText, hpast]
      rfl
    · simp [Lifecycle.liveStep, Lifecycle.releaseEffect, hrelease, hl, Session.hookAfter]

/-! ## Events -/

/-- An event that reaches the tracer. -/
theorem Follows.delivered (h : Follows rules d log l) {config : TracerConfig}
    (hforce : inForce? log = some config) (e : Event) (hlow : Depth.bottom < l.tracer.depth)
    (hhigh : l.tracer.depth < Depth.top) :
    Follows rules d (log ++ [.event e]) { l with tracer := l.tracer.onEvent e } := by
  have hrecalls := h.onEvent d.answeredBy_servedBy hforce e
  have hturn := h.turn d.answeredBy_servedBy hforce e
  generalize l.tracer.onEvent e = t at hrecalls hturn ⊢
  cases hturn with
  | ignored hcalled hreturned =>
    have htext := stepText_of_not_called rules d hcalled
    refine { hrecalls with live := h.live, depth := ?_, bytes := ?_ }
    · simpa [traced_append, hcalled, hreturned] using h.depth
    · simpa [written_append, htext] using h.bytes
  | entered sources hkind htraces hk =>
    have hcalled : tracedAs? .called log (.event e) = some e := by simp [tracedAs?, hk, htraces]
    have hreturned : tracedAs? .returned log (.event e) = none := by simp [tracedAs?, hk]
    have htext : stepText rules d log (.event e) =
        OutputLine.textOf (l.tracer.callLines e.context (callOf rules d e)) := by
      have hindent : 2 * l.tracer.depth.toNat = indent log := by
        rw [h.depth, History.indent]
        omega
      rw [stepText_of_called rules d hforce htraces hk, callText, Tracer.callLines,
        OutputLine.textOf_append, (h.configured config hforce).2, OutputLine.location,
        OutputLine.atDepth, OutputLine.atDepth, hindent]
      cases config.printLocation <;> rfl
    refine { hrecalls with live := h.live, depth := ?_, bytes := ?_ }
    · show Depth.deeper l.tracer.depth = _
      rw [Depth.deeper_of_lt hhigh, h.depth]
      simp only [traced_append, hcalled, hreturned, Option.toList, List.length_append,
        List.length_singleton, List.append_nil]
      omega
    · rw [written_append, htext, Channel.utf8_append, ← h.bytes]
      exact (Channel.keeps_lines (Channel.keeps_self h.unlimited) _).bytes
  | left htraces hk =>
    have hcalled : tracedAs? .called log (.event e) = none := by simp [tracedAs?, hk]
    have hreturned : tracedAs? .returned log (.event e) = some e := by simp [tracedAs?, hk, htraces]
    have htext := stepText_of_not_called rules d hcalled
    refine { hrecalls with live := h.live, depth := ?_, bytes := ?_ }
    · show Depth.shallower l.tracer.depth = _
      rw [Depth.shallower_of_lt hlow, h.depth]
      simp only [traced_append, hcalled, hreturned, Option.toList, List.length_append,
        List.length_singleton, List.append_nil]
      omega
    · show l.tracer.channel.bytes.toList = _
      simpa [written_append, htext] using h.bytes

theorem follows_event (h : Follows rules d log l) (e : Event)
    (hbound : (log ++ [SoloStep.event e]).countP SoloStep.isEvent < 2 ^ 63) :
    ∃ l', Follows rules d (log ++ [.event e]) l' ∧
      ((soloSession log l).step (.dispatch e)).2 = soloSession (log ++ [.event e]) l' := by
  have hone : [SoloStep.event e].countP SoloStep.isEvent = 1 := rfl
  have hle := length_traced_le log
  rw [List.countP_append, hone] at hbound
  have hlow : Depth.bottom < l.tracer.depth := by
    rw [h.depth, Depth.bottom]
    omega
  have hhigh : l.tracer.depth < Depth.top := by
    rw [h.depth, Depth.top]
    omega
  unfold soloSession
  rw [inForce?_append_event]
  cases hforce : inForce? log with
  | none =>
    refine ⟨l, h.kept (h.unheard hforce e) h.live rfl (fun kind => ?_) rfl ?_, rfl⟩
    · simp [tracedAs?, traces, hforce]
    · rw [stepText, hforce]
  | some config => exact ⟨_, h.delivered hforce e hlow hhigh, rfl⟩

/-! ## Runs -/

/-- Every step keeps the state what the past says. -/
theorem follows_step (h : Follows rules d log l) (step : SoloStep)
    (hbound : (log ++ [step]).countP SoloStep.isEvent < 2 ^ 63) :
    ∃ l', Follows rules d (log ++ [step]) l' ∧
      ((soloSession log l).step step.sessionStep).2 = soloSession (log ++ [step]) l' := by
  cases step with
  | setup config => exact follows_setup h config
  | teardown => exact follows_teardown h
  | release => exact ⟨_, follows_release h⟩
  | event e => exact follows_event h e hbound

/-- A run leads to the state that its history says. -/
theorem follows_run (rules : ClassifierRules) (d : Declarations) (log : History)
    (hbound : log.countP SoloStep.isEvent < 2 ^ 63) :
    ∃ l, Follows rules d log l ∧
      (Session.ofTracers [.fresh rules d.source .unlimited]).run (log.map SoloStep.sessionStep)
        = soloSession log l := by
  induction log using List.reverseRecOn with
  | nil => exact ⟨_, follows_nil, rfl⟩
  | append_singleton log step ih =>
    have hshort : log.countP SoloStep.isEvent < 2 ^ 63 := by
      rw [List.countP_append] at hbound
      omega
    obtain ⟨l, hl, hrun⟩ := ih hshort
    obtain ⟨l', hl', hstep⟩ := follows_step hl step hbound
    refine ⟨l', hl', ?_⟩
    rw [← hstep, ← hrun, List.map_append]
    exact List.foldl_append

/-- Dropping the lifecycle at the end writes what a release would. -/
theorem written_dropped (rules : ClassifierRules) (d : Declarations) (log : History) :
    written rules d log true = written rules d (log ++ [.release]) false := by
  rw [written_append]
  simp [written]

/-- **A run writes what its history says.**  The bytes of a run of fewer than `2 ^ 63` events, which
may end with the lifecycle being dropped, are those of the text read off its steps. -/
theorem bytes_run_eq_written (rules : ClassifierRules) (d : Declarations) (log : History)
    (dropped : Bool) (hbound : log.countP SoloStep.isEvent < 2 ^ 63) :
    ((Session.ofTracers [.fresh rules d.source .unlimited]).run
        (log.map SoloStep.sessionStep ++ if dropped then [.on 0 .drop] else [])).lifecycles.map
        (fun l => l.tracer.channel.bytes.toList)
      = [Channel.utf8 (written rules d log dropped)] := by
  obtain ⟨l, hl, hrun⟩ := follows_run rules d log hbound
  cases dropped with
  | false =>
    rw [if_neg Bool.false_ne_true, List.append_nil, hrun]
    exact congrArg (fun bytes => [bytes]) hl.bytes
  | true =>
    have hdrop : l.drop = { l.release with state := .dropped } := by
      rw [Lifecycle.drop, if_neg hl.live]
    have hrun' : (Session.ofTracers [.fresh rules d.source .unlimited]).run
        (log.map SoloStep.sessionStep ++ [.on 0 .drop]) =
          ((soloSession log l).step (.on 0 .drop)).2 := by
      rw [← hrun]
      exact List.foldl_append
    rw [if_pos rfl, hrun', soloSession, step_single _ _ hl.live, written_dropped]
    show [l.drop.tracer.channel.bytes.toList] = _
    rw [hdrop]
    exact congrArg (fun bytes => [bytes]) (follows_release hl).1.bytes

/-- A class body is run at its declared place, then the pattern is refused, the call returns, and
the release reports once though the lifecycle is dropped afterwards. -/
theorem bytes_run_eq_written_class_body :
    let d : Declarations := ⟨[(("demo.py", 1), "class Foo:")], .empty⟩
    let ctx := (CallContext.ofFunction "demo" "Foo").declaredAt "demo.py" 1
    let log : History := [.setup ⟨"demo", true⟩, .event ⟨.called, ctx⟩, .setup ⟨"(", false⟩,
      .event ⟨.returned, ctx⟩, .release, .event ⟨.called, ctx⟩, .release]
    log.countP SoloStep.isEvent < 2 ^ 63 ∧
      ((Session.ofTracers [.fresh .standard d.source .unlimited]).run
          (log.map SoloStep.sessionStep ++ if true then [.on 0 .drop] else [])).lifecycles.map
          (fun l => l.tracer.channel.bytes.toList)
        = [Channel.utf8 (written .standard d log true)] :=
  ⟨by decide, bytes_run_eq_written _ _ _ true (by decide)⟩

end CallTrace
