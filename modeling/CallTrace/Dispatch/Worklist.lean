import CallTrace.Dispatch.Basic

/-!
# Dispatch by a worklist

The same hooks without nesting: a list of pending actions, of which the first is taken at each step.
An event that is delivered puts the actions of its hook in front of what is pending.
-/

namespace CallTrace.Dispatch

/-- A dispatcher with the actions that it still has to perform. -/
structure Worklist where
  state : State
  pending : List Action
deriving DecidableEq, Repr

namespace Worklist

/-- Takes the first pending action. -/
def step (hooks : List Hook) (w : Worklist) : Worklist :=
  match w.pending with
  | [] => w
  | .install hook :: rest => ⟨{ w.state with installed := some hook }, rest⟩
  | .uninstall :: rest => ⟨{ w.state with installed := none }, rest⟩
  | .event kind function :: rest =>
    match w.state.installed with
    | none => ⟨w.state, rest⟩
    | some hook => ⟨w.state.note hook kind function, actionsOf hooks hook ++ rest⟩

def run (hooks : List Hook) : Nat → Worklist → Worklist
  | 0, w => w
  | n + 1, w => run hooks n (w.step hooks)

end Worklist

end CallTrace.Dispatch
