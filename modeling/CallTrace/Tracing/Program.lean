import CallTrace.Source.Snapshots
import CallTrace.Tracing.Lifecycle

/-!
# The tracer of a program

A program has one lifecycle, made by the first attempt to set it up, with files as its only sources
and the standard error as its channel. The first setup that succeeds registers an exit handler,
which releases the lifecycle when the program exits.
-/

namespace CallTrace

/-- The tracing state of a program. -/
structure Program where
  disk : FileSystem
  lifecycle : Option (Lifecycle FileLines)
  installed : Bool
  exitHandlers : Nat

inductive ProgramStep
  | setup (config : TracerConfig)
  | teardown
  | release
  | dispatch (e : Event)
deriving DecidableEq, Repr

namespace Program

/-- A program that has just begun. -/
def start (disk : FileSystem) : Program := ⟨disk, none, false, 0⟩

/-- The lifecycle, made now if there is none. -/
def ownLifecycle (p : Program) : Lifecycle FileLines :=
  p.lifecycle.getD (.ofTracer (.fresh .standard (.ofDisk p.disk) .unlimited))

/-- Sets the tracer up. The lifecycle is there from now on even if this fails. -/
def setup (p : Program) (config : TracerConfig) : Except InvalidPattern Unit × Program :=
  match p.ownLifecycle.setup config with
  | .ok l =>
    (.ok (),
      { p with lifecycle := some l, installed := true, exitHandlers := max p.exitHandlers 1 })
  | .error e => (.error e, { p with lifecycle := some p.ownLifecycle })

/-- Tears the tracer down; nothing happens if there is none. -/
def teardown (p : Program) : Program :=
  match p.lifecycle with
  | none => p
  | some l => { p with lifecycle := some l.teardown, installed := false }

def release (p : Program) : Program :=
  match p.lifecycle with
  | none => p
  | some l => { p with lifecycle := some l.release, installed := p.installed && !l.armed }

/-- Gives an event to the tracer if it has the hook. -/
def dispatch (p : Program) (e : Event) : Program :=
  if p.installed then
    { p with lifecycle := p.lifecycle.map fun l => { l with tracer := l.tracer.onEvent e } }
  else p

def step (p : Program) : ProgramStep → Except InvalidPattern Unit × Program
  | .setup config => p.setup config
  | .teardown => (.ok (), p.teardown)
  | .release => (.ok (), p.release)
  | .dispatch e => (.ok (), p.dispatch e)

def run (p : Program) (steps : List ProgramStep) : Program :=
  steps.foldl (fun p step => (p.step step).2) p

/-- The exit of the program: each exit handler is run once. -/
def exit (p : Program) : Program := Nat.repeat release p.exitHandlers p

/-- What the standard error has received. -/
def standardError (p : Program) : Array UInt8 :=
  p.lifecycle.elim #[] fun l => l.tracer.channel.bytes

end Program

end CallTrace
