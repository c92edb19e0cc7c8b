import CallTrace.Proofs.Inventory.Canonical
import CallTrace.Proofs.Output.Texts
import CallTrace.Proofs.Source.Declarations
import CallTrace.Tracing.Session

/-!
# What a history writes

The output of a lifecycle that has the hook to itself, said of the steps taken so far and of nothing
else: no filter, depth, inventory or arming is remembered, each is read off the past when it is
asked for.

* `armed past`: a release now would fire, because the last successful setup or release was a setup.
* `inForce? past`: the configuration of the last step that had an effect, if that was a setup.  An
  event is traced if this configuration lets its module pass.
* `traced past kind`: the events of a kind that were traced, in order.  Those that are calls and
  returns give the indentation, and the calls alone the inventory.
* `written log dropped`: the text of a whole run.
-/

namespace CallTrace

/-! ## Steps -/

/-- A step of a lifecycle that has the hook to itself. -/
inductive SoloStep
  | setup (config : TracerConfig)
  | teardown
  | release
  | event (e : Event)
deriving DecidableEq, Repr

namespace SoloStep

/-- The step as one of a session with a single lifecycle. -/
def sessionStep : SoloStep → SessionStep
  | .setup config => .on 0 (.setup config)
  | .teardown => .on 0 .teardown
  | .release => .on 0 .release
  | .event e => .dispatch e

def isEvent : SoloStep → Bool
  | .event _ => true
  | _ => false

end SoloStep

namespace TracerConfig

/-- The filter that is asked for, if the pattern is accepted. -/
def filter? (config : TracerConfig) : Option ModuleFilter :=
  (ModuleFilter.ofText config.modulePattern).toOption

def traces (config : TracerConfig) (module : String) : Bool :=
  config.filter?.any fun filter => filter.passes module

end TracerConfig

/-- The steps taken so far, the first one first. -/
abbrev History := List SoloStep

namespace History

/-! ## Reading the past -/

/-- Each step with those before it. -/
def withPast (log : History) : List (History × SoloStep) :=
  log.zipIdx.map fun p => (log.take p.2, p.1)

def setsUp : SoloStep → Bool
  | .setup config => config.filter?.isSome
  | _ => false

/-- Whether a release would fire: the last successful setup or release is a setup. -/
def armed (past : History) : Bool :=
  (past.filter fun step => setsUp step || step = .release).getLast?.any setsUp

def hasEffect (past : History) : SoloStep → Bool
  | .setup config => setsUp (.setup config)
  | .teardown => true
  | .release => armed past
  | .event _ => false

def effects (past : History) : List SoloStep :=
  ((withPast past).filter fun p => hasEffect p.1 p.2).map Prod.snd

/-- The configuration of the last step that had an effect, if that was a setup. -/
def inForce? (past : History) : Option TracerConfig :=
  match (effects past).getLast? with
  | some (.setup config) => some config
  | _ => none

def traces (past : History) (e : Event) : Bool :=
  (inForce? past).any fun config => config.traces e.context.module

/-- The event of a step, if it is of the kind and traced. -/
def tracedAs? (kind : EventKind) (past : History) : SoloStep → Option Event
  | .event e => if traces past e && e.kind = kind then some e else none
  | _ => none

/-- The events of a kind that were traced. -/
def traced (past : History) (kind : EventKind) : List Event :=
  (withPast past).filterMap fun p => tracedAs? kind p.1 p.2

/-- Twice the number of calls that are still open, none if there were more returns than calls. -/
def indent (past : History) : Nat :=
  2 * ((traced past .called).length - (traced past .returned).length)

/-! ## Writing -/

section
variable (rules : ClassifierRules) (d : Declarations)

def callOf (e : Event) : Classification :=
  rules.classificationBy e.context (d.line? e.context.file e.context.firstLine)

/-- The text for a call: its place, if that is asked for, and its name, each on a line. -/
def callText (past : History) (config : TracerConfig) (e : Event) : String :=
  (if config.printLocation then
      OutputLine.asText ⟨indent past, e.context.file ++ ":" ++ toString e.context.line⟩ else "")
    ++ OutputLine.asText ⟨indent past, (callOf rules d e).displayName⟩

/-- Banner and report of the calls that were traced. -/
def report (past : History) : String :=
  (Inventory.ofCalls ((traced past .called).map (callOf rules d))).view.reportText

/-- The text that a step writes. -/
def stepText (past : History) : SoloStep → String
  | .setup _ => ""
  | .teardown => report rules d past
  | .release => if armed past then report rules d past else ""
  | .event e =>
    match inForce? past with
    | some config =>
      if config.traces e.context.module && e.kind = .called then callText rules d past config e
      else ""
    | none => ""

/-- The text of a run, which may end with the lifecycle being dropped. -/
def written (log : History) (dropped : Bool) : String :=
  String.join ((withPast log).map fun p => stepText rules d p.1 p.2)
    ++ if dropped then stepText rules d log .release else ""

end

/-! ## One more step -/

theorem withPast_append (log : History) (step : SoloStep) :
    withPast (log ++ [step]) = withPast log ++ [(log, step)] := by
  unfold withPast
  rw [List.zipIdx_append, List.map_append]
  congr 1
  · apply List.map_congr_left
    rintro ⟨s, n⟩ h
    have hn : n < log.length := by
      have := List.snd_lt_add_of_mem_zipIdx h
      omega
    rw [List.take_append_of_le_length (Nat.le_of_lt hn)]
  · simp

theorem armed_append (log : History) (step : SoloStep) :
    armed (log ++ [step]) = if step = .release then false else setsUp step || armed log := by
  unfold armed
  rw [List.filter_append]
  cases step with
  | setup config =>
    cases h : setsUp (.setup config) <;> simp [h]
  | teardown => simp [setsUp]
  | release => simp [setsUp]
  | event e => simp [setsUp]

theorem inForce?_append (log : History) (step : SoloStep) :
    inForce? (log ++ [step]) =
      if hasEffect log step then
        match step with
        | .setup config => some config
        | _ => none
      else inForce? log := by
  unfold inForce? effects
  rw [withPast_append, List.filter_append, List.map_append]
  cases h : hasEffect log step with
  | false => simp [h]
  | true => cases step <;> simp [h]

theorem armed_append_refused {config : TracerConfig} (h : config.filter? = none) (log : History) :
    armed (log ++ [.setup config]) = armed log := by
  simp [armed_append, setsUp, h]

theorem inForce?_append_refused {config : TracerConfig} (h : config.filter? = none)
    (log : History) : inForce? (log ++ [.setup config]) = inForce? log := by
  simp [inForce?_append, hasEffect, setsUp, h]

theorem inForce?_append_setup {config : TracerConfig} {filter : ModuleFilter}
    (h : config.filter? = some filter) (log : History) :
    inForce? (log ++ [.setup config]) = some config := by
  simp [inForce?_append, hasEffect, setsUp, h]

theorem armed_append_teardown (log : History) : armed (log ++ [.teardown]) = armed log := by
  simp [armed_append, setsUp]

theorem inForce?_append_teardown (log : History) : inForce? (log ++ [.teardown]) = none := by
  simp [inForce?_append, hasEffect]

theorem armed_append_release (log : History) : armed (log ++ [.release]) = false := by
  simp [armed_append]

theorem inForce?_append_unarmed {log : History} (h : armed log = false) :
    inForce? (log ++ [.release]) = inForce? log := by
  simp [inForce?_append, hasEffect, h]

theorem inForce?_append_released {log : History} (h : armed log = true) :
    inForce? (log ++ [.release]) = none := by
  simp [inForce?_append, hasEffect, h]

theorem armed_append_event (log : History) (e : Event) : armed (log ++ [.event e]) = armed log := by
  simp [armed_append, setsUp]

theorem inForce?_append_event (log : History) (e : Event) :
    inForce? (log ++ [.event e]) = inForce? log := by
  simp [inForce?_append, hasEffect]

theorem traced_append (log : History) (step : SoloStep) (kind : EventKind) :
    traced (log ++ [step]) kind = traced log kind ++ (tracedAs? kind log step).toList := by
  unfold traced
  rw [withPast_append, List.filterMap_append]
  cases h : tracedAs? kind log step <;> simp [h]

theorem written_append (rules : ClassifierRules) (d : Declarations) (log : History)
    (step : SoloStep) :
    written rules d (log ++ [step]) false =
      written rules d log false ++ stepText rules d log step := by
  unfold written
  rw [withPast_append, List.map_append, String.join_append]
  simp

theorem traces_of_inForce {log : History} {config : TracerConfig} (h : inForce? log = some config)
    (e : Event) : traces log e = config.traces e.context.module := by
  rw [traces, h, Option.any_some]

/-- Only a traced call is written. -/
theorem stepText_of_not_called (rules : ClassifierRules) (d : Declarations) {log : History}
    {e : Event}
    (h : tracedAs? .called log (.event e) = none) : stepText rules d log (.event e) = "" := by
  have hnot : ¬ (traces log e && decide (e.kind = .called)) = true := by
    intro hyes
    have hsome : tracedAs? .called log (.event e) = some e := if_pos hyes
    rw [hsome] at h
    cases h
  rw [stepText]
  cases hforce : inForce? log with
  | none => rfl
  | some config =>
    rw [traces_of_inForce hforce] at hnot
    exact if_neg hnot

theorem stepText_of_called (rules : ClassifierRules) (d : Declarations) {log : History} {e : Event}
    {config : TracerConfig} (hforce : inForce? log = some config)
    (htraces : traces log e = true) (hk : e.kind = .called) :
    stepText rules d log (.event e) = callText rules d log config e := by
  rw [traces_of_inForce hforce] at htraces
  rw [stepText, hforce]
  exact if_pos (by simp [htraces, hk])

/-- No event is both a call and a return. -/
theorem length_tracedAs?_le (log : History) (step : SoloStep) :
    (tracedAs? .called log step).toList.length + (tracedAs? .returned log step).toList.length
      ≤ [step].countP SoloStep.isEvent := by
  cases step with
  | event e =>
    have hone : [SoloStep.event e].countP SoloStep.isEvent = 1 := rfl
    rw [hone]
    unfold tracedAs?
    cases hk : e.kind <;> cases ht : traces log e <;> simp [hk, ht]
  | _ => exact Nat.zero_le _

/-- There are at most as many traced calls and returns as events. -/
theorem length_traced_le (log : History) :
    (traced log .called).length + (traced log .returned).length ≤ log.countP SoloStep.isEvent := by
  induction log using List.reverseRecOn with
  | nil => exact Nat.le_refl 0
  | append_singleton log step ih =>
    have hstep := length_tracedAs?_le log step
    rw [traced_append, traced_append, List.countP_append, List.length_append, List.length_append]
    omega

end History

end CallTrace
