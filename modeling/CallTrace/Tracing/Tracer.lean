import CallTrace.Calls.Classification
import CallTrace.ModuleFilter
import CallTrace.Output.Report

/-!
# The tracer

A tracer handles the events of modules that pass its filter: it prints each call at the current
depth and records it in the inventory, and a return takes the depth back by one. Output that fails
is dropped and changes nothing else. A lookup that crashes leaves all but the sources as it was.
-/

namespace CallTrace

/-! ## Configuration -/

/-- What to trace and how to print it. -/
structure TracerConfig where
  modulePattern : String
  printLocation : Bool
deriving DecidableEq, Repr

/-- Traces all modules and prints no locations. -/
def TracerConfig.standard : TracerConfig := ⟨".*", false⟩

/-! ## Depths -/

namespace Depth

/-- The largest depth, one less than `2 ^ 63`. -/
def top : Int := 9223372036854775807

/-- The smallest depth, `2 ^ 63` below zero. -/
def bottom : Int := -9223372036854775808

/-- The depth within a call. -/
def deeper (depth : Int) : Int := if depth < top then depth + 1 else depth

/-- The depth after a return. -/
def shallower (depth : Int) : Int := if bottom < depth then depth - 1 else depth

theorem deeper_of_lt {d : Int} (h : d < top) : deeper d = d + 1 := if_pos h
theorem shallower_of_lt {d : Int} (h : bottom < d) : shallower d = d - 1 := if_pos h

end Depth

/-! ## Tracers -/

/-- The state of a tracer that looks declarations up in a source of type `σ`. -/
structure Tracer (σ : Type) where
  filter : ModuleFilter
  printLocation : Bool
  rules : ClassifierRules
  sources : σ
  inventory : Inventory
  depth : Int
  channel : Channel

/-- Whether an event was dealt with. -/
inductive Handled
  | done
  | crashed
deriving DecidableEq, Repr

namespace Tracer

variable {σ : Type}

/-- A tracer that has seen nothing. -/
def fresh (rules : ClassifierRules) (sources : σ) (channel : Channel) : Tracer σ :=
  ⟨.any, false, rules, sources, .empty, 0, channel⟩

/-- Replaces filter and location flag, unless the pattern is refused. -/
def configure (t : Tracer σ) (config : TracerConfig) : Except InvalidPattern (Tracer σ) :=
  (ModuleFilter.ofText config.modulePattern).map fun filter =>
    { t with filter, printLocation := config.printLocation }

/-- The lines that print a call. -/
def callLines (t : Tracer σ) (ctx : CallContext) (c : Classification) : List OutputLine :=
  (if t.printLocation then [.location t.depth ctx.file ctx.line] else [])
    ++ [.atDepth t.depth c.displayName]

def enter [LineSource σ] (t : Tracer σ) (ctx : CallContext) : Handled × Tracer σ :=
  match t.rules.classify ctx t.sources with
  | (none, sources) => (.crashed, { t with sources })
  | (some c, sources) =>
    (.done, { t with
      sources
      inventory := c.recordInto t.inventory
      channel := (t.channel.writeLines (t.callLines ctx c)).2
      depth := Depth.deeper t.depth })

def leave (t : Tracer σ) : Tracer σ := { t with depth := Depth.shallower t.depth }

def handle [LineSource σ] (t : Tracer σ) (e : Event) : Handled × Tracer σ :=
  if t.filter.passes e.context.module then
    match e.kind with
    | .called => t.enter e.context
    | .returned => (.done, t.leave)
    | .reachedLine | .raised | .other => (.done, t)
  else (.done, t)

/-- Handles an event on behalf of the running program, which a crash must not reach. -/
def onEvent [LineSource σ] (t : Tracer σ) (e : Event) : Tracer σ := (t.handle e).2

/-- Writes banner and report of what was recorded. -/
def report (t : Tracer σ) : Tracer σ :=
  { t with channel := (t.channel.writeReport (.banner :: t.inventory.view.lines)).2 }

end Tracer

end CallTrace
