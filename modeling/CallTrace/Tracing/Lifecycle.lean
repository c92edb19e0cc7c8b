import CallTrace.Tracing.Tracer

/-!
# The lifecycle of a tracer

A lifecycle remembers whether its tracer was set up, and owes one report for it: setting up arms it,
and the release that follows tears it down once. An explicit teardown reports too and leaves it
armed. Whether the tracer really has the hook is known by who owns the hook, not here.
-/

namespace CallTrace

inductive LifecycleState
  | uninstalled
  | active
  | dropped
deriving DecidableEq, Repr

/-- A tracer with its lifecycle. -/
structure Lifecycle (σ : Type) where
  tracer : Tracer σ
  state : LifecycleState
  armed : Bool

namespace Lifecycle

variable {σ : Type}

/-- The lifecycle of a tracer that was not set up yet. -/
def ofTracer (tracer : Tracer σ) : Lifecycle σ := ⟨tracer, .uninstalled, false⟩

/-- Configures the tracer without setting it up. -/
def configure (l : Lifecycle σ) (config : TracerConfig) : Except InvalidPattern (Lifecycle σ) :=
  (l.tracer.configure config).map fun tracer => { l with tracer }

/-- Configures the tracer and sets it up. -/
def setup (l : Lifecycle σ) (config : TracerConfig) : Except InvalidPattern (Lifecycle σ) :=
  (l.tracer.configure config).map fun tracer => ⟨tracer, .active, true⟩

/-- Ends tracing and writes the report, each time anew. -/
def teardown (l : Lifecycle σ) : Lifecycle σ :=
  { l with state := .uninstalled, tracer := l.tracer.report }

/-- Tears down if armed, and disarms. -/
def release (l : Lifecycle σ) : Lifecycle σ :=
  if l.armed then { l with armed := false }.teardown else l

/-- Releases for the last time. -/
def drop (l : Lifecycle σ) : Lifecycle σ :=
  if l.state = .dropped then l else { l.release with state := .dropped }

end Lifecycle

end CallTrace
