import CallTrace.Pattern.Parser
import CallTrace.Pattern.Reach
import CallTrace.Pattern.Weight
import CallTrace.Text.Quoted

/-!
# Which modules are traced

A module filter lets every module pass, or those whose name a pattern matches from its very start;
the match need not go up to the end. Patterns that nest too deep or become too large when written
out are refused like those that are malformed.
-/

namespace CallTrace

/-! ## Patterns that are accepted -/

def Pattern.maxDepth : Nat := 250

/-- How large a pattern may become: ten times `2 ^ 20`. -/
def Pattern.maxWeight : Nat := 10485760

/-- The pattern that a text describes, if the text is a pattern and within the limits. -/
def Pattern.compile? (text : String) : Option Pattern :=
  match Pattern.read? text.toList with
  | none => none
  | some p =>
    if p.depth ≤ Pattern.maxDepth ∧ p.pattern.weight + Pattern.frameWeight ≤ Pattern.maxWeight then
      some p.pattern
    else none

/-! ## Filters -/

inductive ModuleFilter
  | any
  | startingWith (p : Pattern)
deriving Repr

structure InvalidPattern where
  text : String
deriving DecidableEq, Repr

def InvalidPattern.message (e : InvalidPattern) : String :=
  "invalid module pattern " ++ Text.quoted e.text

def ModuleFilter.ofText (text : String) : Except InvalidPattern ModuleFilter :=
  match Pattern.compile? text with
  | some p => .ok (.startingWith p)
  | none => .error ⟨text⟩

def ModuleFilter.passes (f : ModuleFilter) (module : String) : Bool :=
  match f with
  | .any => true
  | .startingWith p => p.matchesStart module.toList

end CallTrace
