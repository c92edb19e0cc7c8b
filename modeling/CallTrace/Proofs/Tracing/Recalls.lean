import CallTrace.Proofs.Tracing.Events
import CallTrace.Proofs.Tracing.History

/-!
# A lifecycle that recalls its past

`Lifecycle.Recalls` relates a lifecycle to the steps it has taken: arming, configuration, rules,
sources and inventory are what `History` reads off the past.  Depth and what was written are left
to themselves, so that no bound on the number of events is needed.

A step can do four things to a lifecycle, and each has its lemma: nothing (`Recalls.idle`), set it
up (`setUpWith`), end tracing with a report (`reported`), and give it an event (`onEvent`).  What
an event does is said once, in `Recalls.Turn`, for whoever follows depth and output too.
-/

namespace CallTrace

open History

variable {σ : Type}

/-- The lifecycle, set up with an accepted filter. -/
def Lifecycle.setUpWith (l : Lifecycle σ) (filter : ModuleFilter) (printLocation : Bool) :
    Lifecycle σ :=
  ⟨{ l.tracer with filter, printLocation }, .active, true⟩

/-- A setup fails exactly if its pattern is refused. -/
theorem Lifecycle.setup_cases (l : Lifecycle σ) (config : TracerConfig) :
    (∃ e, config.filter? = none ∧ l.setup config = .error e) ∨
      ∃ filter, config.filter? = some filter ∧
        l.setup config = .ok (l.setUpWith filter config.printLocation) := by
  unfold TracerConfig.filter? Lifecycle.setup Tracer.configure
  cases ModuleFilter.ofText config.modulePattern with
  | error e => exact .inl ⟨e, rfl, rfl⟩
  | ok filter => exact .inr ⟨filter, rfl, rfl⟩

section
variable (Kind : σ → Prop) (rules : ClassifierRules) (d : Declarations) (log : History)

/-- The lifecycle is what the past says, depth and output left to themselves. -/
structure Lifecycle.Recalls (l : Lifecycle σ) : Prop where
  armed : l.armed = History.armed log
  configured : ∀ config, inForce? log = some config →
    config.filter? = some l.tracer.filter ∧ l.tracer.printLocation = config.printLocation
  ruled : l.tracer.rules = rules
  sources : Kind l.tracer.sources
  inventory : l.tracer.inventory = .recordAll ((traced log .called).map (callOf rules d))
  unlimited : l.tracer.channel.room = none

end

namespace Lifecycle.Recalls

variable {Kind : σ → Prop} {rules : ClassifierRules} {d : Declarations} {log : History}
  {l : Lifecycle σ}

/-! ## Steps without events that are heard -/

/-- A step that neither changes what the past says of the lifecycle nor the lifecycle. -/
theorem idle (h : l.Recalls Kind rules d log) {step : SoloStep}
    (harmed : History.armed (log ++ [step]) = History.armed log)
    (hforce : inForce? (log ++ [step]) = inForce? log)
    (hcalled : tracedAs? .called log step = none) : l.Recalls Kind rules d (log ++ [step]) where
  armed := by rw [harmed]; exact h.armed
  configured := by rw [hforce]; exact h.configured
  ruled := h.ruled
  sources := h.sources
  inventory := by simpa [traced_append, hcalled] using h.inventory
  unlimited := h.unlimited

theorem refused (h : l.Recalls Kind rules d log) {config : TracerConfig}
    (hfilter : config.filter? = none) : l.Recalls Kind rules d (log ++ [.setup config]) :=
  h.idle (armed_append_refused hfilter log) (inForce?_append_refused hfilter log) rfl

theorem setUpWith (h : l.Recalls Kind rules d log) {config : TracerConfig} {filter : ModuleFilter}
    (hfilter : config.filter? = some filter) :
    (l.setUpWith filter config.printLocation).Recalls Kind rules d (log ++ [.setup config]) where
  armed := by simp [Lifecycle.setUpWith, armed_append, setsUp, hfilter]
  configured := by
    intro c hc
    cases (inForce?_append_setup hfilter log).symm.trans hc
    exact ⟨hfilter, rfl⟩
  ruled := h.ruled
  sources := h.sources
  inventory := by
    show l.tracer.inventory = _
    simpa [traced_append, tracedAs?] using h.inventory
  unlimited := h.unlimited

/-- A step that ends tracing and reports. -/
theorem reported (h : l.Recalls Kind rules d log) (step : SoloStep) {armed : Bool}
    (harmed : History.armed (log ++ [step]) = armed) (hforce : inForce? (log ++ [step]) = none)
    (hcalled : tracedAs? .called log step = none) :
    Lifecycle.Recalls Kind rules d (log ++ [step]) ⟨l.tracer.report, .uninstalled, armed⟩ where
  armed := harmed.symm
  configured := by simp [hforce]
  ruled := h.ruled
  sources := h.sources
  inventory := by
    show l.tracer.inventory = _
    simpa [traced_append, hcalled] using h.inventory
  unlimited := (Channel.keeps_report (Channel.keeps_self h.unlimited) _).room

theorem teardown (h : l.Recalls Kind rules d log) :
    l.teardown.Recalls Kind rules d (log ++ [.teardown]) := by
  refine h.reported .teardown ?_ (inForce?_append_teardown log) rfl
  rw [armed_append_teardown, h.armed]

theorem unarmed (h : l.Recalls Kind rules d log) (hl : l.armed = false) :
    l.Recalls Kind rules d (log ++ [.release]) := by
  have hpast : History.armed log = false := by rw [← h.armed, hl]
  refine h.idle ?_ (inForce?_append_unarmed hpast) rfl
  rw [armed_append_release, hpast]

theorem released (h : l.Recalls Kind rules d log) (hl : l.armed = true) :
    Lifecycle.Recalls Kind rules d (log ++ [.release]) { l with armed := false }.teardown := by
  have hpast : History.armed log = true := by rw [← h.armed, hl]
  exact h.reported .release (armed_append_release log) (inForce?_append_released hpast) rfl

/-- A report goes on with that of the past. -/
theorem bytes_report (h : l.Recalls Kind rules d log) :
    l.tracer.report.channel.bytes.toList =
      l.tracer.channel.bytes.toList ++ Channel.utf8 (report rules d log) := by
  have hview : l.tracer.inventory.view.reportText = report rules d log := by
    rw [h.inventory, Inventory.recordAll_eq_ofCalls]
    rfl
  rw [← hview]
  exact (Channel.keeps_report (Channel.keeps_self h.unlimited) _).bytes

/-- An event while nobody has the hook. -/
theorem unheard (h : l.Recalls Kind rules d log) (hforce : inForce? log = none) (e : Event) :
    l.Recalls Kind rules d (log ++ [.event e]) := by
  refine h.idle (armed_append_event log e) (inForce?_append_event log e) ?_
  simp [tracedAs?, traces, hforce]

/-- The configuration in force traces what the filter lets pass. -/
theorem traces_eq (h : l.Recalls Kind rules d log) {config : TracerConfig}
    (hforce : inForce? log = some config) (e : Event) :
    traces log e = l.tracer.filter.passes e.context.module := by
  rw [traces_of_inForce hforce, TracerConfig.traces, (h.configured config hforce).1,
    Option.any_some]

end Lifecycle.Recalls

/-! ## Events -/

section
variable (Kind : σ → Prop) (rules : ClassifierRules) (d : Declarations) (log : History)

/-- All that an event does to a tracer, by what the past makes of it. -/
inductive Lifecycle.Recalls.Turn (t : Tracer σ) (e : Event) : Tracer σ → Prop
  | ignored (hcalled : tracedAs? .called log (.event e) = none)
      (hreturned : tracedAs? .returned log (.event e) = none) : Turn t e t
  | entered (sources : σ) (hkind : Kind sources) (htraces : traces log e = true)
      (hk : e.kind = .called) : Turn t e (t.entered e.context (callOf rules d e) sources)
  | left (htraces : traces log e = true) (hk : e.kind = .returned) : Turn t e t.leave

end

variable [LineSource σ]

/-- Sources of this kind answer as the declarations do, and are of this kind afterwards. -/
def Declarations.AnsweredBy (d : Declarations) (Kind : σ → Prop) : Prop :=
  ∀ rules e sources, Kind sources →
    ∃ sources', Kind sources' ∧
      ClassifierRules.classify rules e.context sources = (some (callOf rules d e), sources')

theorem Declarations.answeredBy_servedBy (d : Declarations) : d.AnsweredBy d.ServedBy := by
  intro rules e sources h
  obtain ⟨hclass, hserved⟩ := h.classify_serves rules e.context
  exact ⟨_, hserved, Prod.ext hclass rfl⟩

namespace Lifecycle.Recalls

variable {Kind : σ → Prop} {rules : ClassifierRules} {d : Declarations} {log : History}
  {l : Lifecycle σ}

/-- An event that reaches the tracer does one of these things. -/
theorem turn (h : l.Recalls Kind rules d log) (hd : d.AnsweredBy Kind) {config : TracerConfig}
    (hforce : inForce? log = some config) (e : Event) :
    Turn Kind rules d log l.tracer e (l.tracer.onEvent e) := by
  have htraces := h.traces_eq hforce e
  have hruled := h.ruled
  subst hruled
  obtain ⟨sources, hkind, hclass⟩ := hd l.tracer.rules e l.tracer.sources h.sources
  cases l.tracer.effect e with
  | ignored hignores =>
    have hsame : l.tracer.onEvent e = l.tracer :=
      congrArg Prod.snd (Tracer.handle_ignored hignores)
    rw [hsame]
    refine .ignored (if_neg fun hcalled => ?_) (if_neg fun hreturned => ?_)
    · rw [htraces, Bool.and_eq_true, decide_eq_true_eq] at hcalled
      exact (hignores hcalled.1).1 hcalled.2
    · rw [htraces, Bool.and_eq_true, decide_eq_true_eq] at hreturned
      exact (hignores hreturned.1).2 hreturned.2
  | crashed _ hk hp hfound => cases hfound.symm.trans hclass
  | entered c _ hk hp hfound =>
    cases hfound.symm.trans hclass
    have hentered : l.tracer.onEvent e =
        l.tracer.entered e.context (callOf l.tracer.rules d e) sources :=
      congrArg Prod.snd (Tracer.handle_entered hk hp hfound)
    rw [hentered]
    exact .entered sources hkind (htraces.trans hp) hk
  | left hk hp =>
    have hleft : l.tracer.onEvent e = l.tracer.leave :=
      congrArg Prod.snd (Tracer.handle_left hk hp)
    rw [hleft]
    exact .left (htraces.trans hp) hk

/-- An event that reaches the tracer. -/
theorem onEvent (h : l.Recalls Kind rules d log) (hd : d.AnsweredBy Kind) {config : TracerConfig}
    (hforce : inForce? log = some config) (e : Event) :
    Lifecycle.Recalls Kind rules d (log ++ [.event e]) { l with tracer := l.tracer.onEvent e } := by
  have harmed := armed_append_event log e
  have hforce' := inForce?_append_event log e
  have hturn := h.turn hd hforce e
  generalize l.tracer.onEvent e = t at hturn ⊢
  cases hturn with
  | ignored hcalled hreturned => exact h.idle harmed hforce' hcalled
  | entered sources hkind htraces hk =>
    have hcalled : tracedAs? .called log (.event e) = some e := by simp [tracedAs?, hk, htraces]
    refine ⟨harmed.symm ▸ h.armed, hforce'.symm ▸ h.configured, h.ruled, hkind, ?_, ?_⟩
    · show (callOf rules d e).recordInto l.tracer.inventory = _
      rw [traced_append, hcalled, h.inventory, Option.toList, List.map_append]
      exact (Inventory.recordAll_append _ _).symm
    · exact (Channel.keeps_lines (Channel.keeps_self h.unlimited) _).room
  | left htraces hk =>
    have hcalled : tracedAs? .called log (.event e) = none := by simp [tracedAs?, hk]
    exact { h.idle harmed hforce' hcalled with }

end Lifecycle.Recalls

end CallTrace
