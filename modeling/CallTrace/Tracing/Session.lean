import CallTrace.Tracing.Lifecycle

/-!
# Lifecycles that share a hook

In a session several lifecycles share the one hook of the running program. Setting up takes the hook
from whoever has it; teardown, a release that fires and a drop that fires clear it, whoever has it.
An event goes to the tracer that has the hook at that moment, or to none.
-/

namespace CallTrace

/-! ## Sessions -/

/-- Lifecycles by number, and the one that has the hook. -/
structure Session (σ : Type) where
  hook : Option Nat
  lifecycles : List (Lifecycle σ)

structure ChannelChange where
  room : Option (Option Nat)
  flushFails : Option Bool
deriving DecidableEq, Repr

def ChannelChange.apply (change : ChannelChange) (c : Channel) : Channel :=
  { c with room := change.room.getD c.room, flushFails := change.flushFails.getD c.flushFails }

inductive LifecycleStep
  | setup (config : TracerConfig)
  | configure (config : TracerConfig)
  | handle (e : Event)
  | teardown
  | release
  | report
  | drop
  | channel (change : ChannelChange)
deriving DecidableEq, Repr

inductive SessionStep
  | dispatch (e : Event)
  | uninstall
  | on (lifecycle : Nat) (step : LifecycleStep)
deriving DecidableEq, Repr

inductive StepError
  | invalidPattern (e : InvalidPattern)
  | crashed
  | dropped
deriving DecidableEq, Repr

/-! ## Steps of a lifecycle -/

/-- What a step does to the hook. -/
inductive HookEffect
  | keep
  | take
  | clear
deriving DecidableEq, Repr

/-- How a step of a lifecycle ends. -/
structure LifecycleAnswer (σ : Type) where
  outcome : Except StepError Unit
  lifecycle : Lifecycle σ
  effect : HookEffect

namespace Lifecycle

variable {σ : Type}

/-- The answer when a configuration was tried. -/
def answerSetup (l : Lifecycle σ) (effect : HookEffect) :
    Except InvalidPattern (Lifecycle σ) → LifecycleAnswer σ
  | .ok l => ⟨.ok (), l, effect⟩
  | .error e => ⟨.error (.invalidPattern e), l, .keep⟩

def releaseEffect (l : Lifecycle σ) : HookEffect := if l.armed then .clear else .keep

/-- A step of a lifecycle that is not dropped. -/
def liveStep [LineSource σ] (l : Lifecycle σ) : LifecycleStep → LifecycleAnswer σ
  | .setup config => l.answerSetup .take (l.setup config)
  | .configure config => l.answerSetup .keep (l.configure config)
  | .handle e =>
    let (handled, tracer) := l.tracer.handle e
    ⟨if handled = .crashed then .error .crashed else .ok (), { l with tracer }, .keep⟩
  | .teardown => ⟨.ok (), l.teardown, .clear⟩
  | .release => ⟨.ok (), l.release, l.releaseEffect⟩
  | .report => ⟨.ok (), { l with tracer := l.tracer.report }, .keep⟩
  | .drop => ⟨.ok (), l.drop, l.releaseEffect⟩
  | .channel change =>
    ⟨.ok (), { l with tracer := { l.tracer with channel := change.apply l.tracer.channel } }, .keep⟩

/-- A step of a lifecycle. Of one that is dropped only the channel can still be changed, and to drop
it again does nothing. -/
def step [LineSource σ] (l : Lifecycle σ) (s : LifecycleStep) : LifecycleAnswer σ :=
  if l.state = .dropped then
    match s with
    | .drop => ⟨.ok (), l, .keep⟩
    | .channel _ => l.liveStep s
    | _ => ⟨.error .dropped, l, .keep⟩
  else l.liveStep s

end Lifecycle

/-! ## Steps of a session -/

namespace Session

variable {σ : Type}

/-- A session of tracers that are not set up. -/
def ofTracers (tracers : List (Tracer σ)) : Session σ := ⟨none, tracers.map .ofTracer⟩

/-- Who has the hook after a step of lifecycle `i`. -/
def hookAfter (hook : Option Nat) (i : Nat) : HookEffect → Option Nat
  | .keep => hook
  | .take => some i
  | .clear => none

/-- Gives an event to the lifecycle with the given number. -/
def deliver [LineSource σ] (s : Session σ) (i : Nat) (e : Event) : Session σ :=
  { s with lifecycles :=
      s.lifecycles.modify i fun l => { l with tracer := l.tracer.onEvent e } }

/-- Gives an event to whoever has the hook. -/
def dispatch [LineSource σ] (s : Session σ) (e : Event) : Session σ :=
  match s.hook with
  | none => s
  | some i => s.deliver i e

/-- A step of lifecycle `i`; there is nothing to do if there is none. -/
def stepOf [LineSource σ] (s : Session σ) (i : Nat) (step : LifecycleStep) :
    Except StepError Unit × Session σ :=
  match s.lifecycles[i]? with
  | none => (.ok (), s)
  | some l =>
    let a := l.step step
    (a.outcome, ⟨hookAfter s.hook i a.effect, s.lifecycles.set i a.lifecycle⟩)

def step [LineSource σ] (s : Session σ) : SessionStep → Except StepError Unit × Session σ
  | .dispatch e => (.ok (), s.dispatch e)
  | .uninstall => (.ok (), { s with hook := none })
  | .on i step => s.stepOf i step

def run [LineSource σ] (s : Session σ) (steps : List SessionStep) : Session σ :=
  steps.foldl (fun s step => (s.step step).2) s

/-! ## Who is changed -/

theorem getElem?_stepOf_of_ne [LineSource σ] (s : Session σ) (step : LifecycleStep) {i j : Nat}
    (h : i ≠ j) : (s.stepOf i step).2.lifecycles[j]? = s.lifecycles[j]? := by
  unfold stepOf
  split
  · rfl
  · simp [h]

theorem length_step [LineSource σ] (s : Session σ) (step : SessionStep) :
    (s.step step).2.lifecycles.length = s.lifecycles.length := by
  cases step with
  | dispatch e =>
    show (s.dispatch e).lifecycles.length = _
    unfold dispatch
    split <;> simp [deliver]
  | uninstall => rfl
  | on i step =>
    show (s.stepOf i step).2.lifecycles.length = _
    unfold stepOf
    split <;> simp

end Session

end CallTrace
