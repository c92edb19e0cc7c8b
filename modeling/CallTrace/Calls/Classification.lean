import CallTrace.Calls.Declaration
import CallTrace.Context
import CallTrace.Inventory
import CallTrace.Source.Lookup

/-!
# What kind of call it is

A call of a function whose frame binds the receiver object is that of an instance method; one that
binds the receiver class is that of a class method. For all others the declaration line of the
function is looked up: it tells class bodies, static methods and free functions apart. A line that
is not available is taken for that of a free function, and so is a static method whose owner the
qualified name does not give.
-/

namespace CallTrace

/-! ## Kinds of calls -/

/-- How a called member relates to its class. -/
inductive MemberKind
  | instanceMethod
  | classMethod
  | staticMethod
  | staticInit
deriving DecidableEq, Repr

/-- What a call was found to be. -/
inductive Classification
  | member (kind : MemberKind) (className member : String)
  | free (module function : String)
deriving DecidableEq, Repr

namespace Classification

def displayName : Classification → String
  | .member _ className called => className ++ "." ++ called
  | .free module function => module ++ "." ++ function

def recordInto (c : Classification) (inv : Inventory) : Inventory :=
  match c with
  | .member _ className called => inv.recordMember className called
  | .free _ function => inv.recordFunction function

end Classification

namespace ClassifierRules

variable (rules : ClassifierRules) (ctx : CallContext)

/-! ## Receivers -/

/-- What the call is if a receiver is bound. The receiver object comes before the receiver
class. -/
def byReceiver? : Option Classification :=
  match ctx.bindings.get? rules.instanceBinding with
  | some receiver =>
    some (.member .instanceMethod (ctx.module ++ "." ++ receiver.className) ctx.function)
  | none =>
    match ctx.bindings.get? rules.classBinding with
    | some receiver =>
      some (.member .classMethod (ctx.module ++ "." ++ receiver.className)
        (rules.classMemberPrefix ++ ctx.function))
    | none => none

/-! ## Declarations -/

/-- What stands before the ending, if the text ends so. -/
def withoutEnding? (text ending : List Char) : Option (List Char) :=
  if ending.isSuffixOf text then some (text.take (text.length - ending.length)) else none

/-- The class that a static method belongs to: what stands before the function and a dot in the
qualified name. -/
def staticOwner? : Option String :=
  match withoutEnding? ctx.qualifiedName.toList ctx.function.toList with
  | none => none
  | some outer =>
    match withoutEnding? outer ['.'] with
    | none => none
    | some owner => if owner.isEmpty then none else some (String.ofList owner)

/-- What the call is if its function is declared in the given way. -/
def byDeclaration (kind : DeclarationKind) : Classification :=
  match kind with
  | .staticInit => .member .staticInit (ctx.module ++ "." ++ ctx.function) staticInitMember
  | .free => .free ctx.module ctx.function
  | .staticMethod =>
    match staticOwner? ctx with
    | some owner =>
      .member .staticMethod (ctx.module ++ "." ++ owner) (rules.staticMemberPrefix ++ ctx.function)
    | none => .free ctx.module ctx.function

/-- The kind of declaration that a lookup gives, unless it crashes. -/
def kindOfLookup? (answer : Lookup) : Option DeclarationKind :=
  match answer with
  | .found line => some (rules.declarationKind line ctx.function)
  | .failed _ => some .free
  | .crashed => none

/-- What a call is; nothing if the lookup of its declaration crashes. -/
def classify {σ : Type} [LineSource σ] (sources : σ) : Option Classification × σ :=
  match rules.byReceiver? ctx with
  | some c => (some c, sources)
  | none =>
    let (answer, sources) := lookup sources ctx.file ctx.firstLine
    ((rules.kindOfLookup? ctx answer).map (rules.byDeclaration ctx), sources)

end ClassifierRules

end CallTrace
