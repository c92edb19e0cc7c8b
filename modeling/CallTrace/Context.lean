/-!
# The context of an event

What is known of the frame that an event comes from: its function and module, where the function
is declared, the line being run, and the names bound at its entry.
-/

namespace CallTrace

/-! ## Bindings -/

inductive BoundValue
  | instanceOf (typeName : String)
  | classNamed (name : String)
deriving DecidableEq, Repr

/-- The class that the value belongs to, or is. -/
def BoundValue.className : BoundValue → String
  | .instanceOf typeName => typeName
  | .classNamed name => name

/-- Names and their values, the latest first. -/
abbrev Bindings := List (String × BoundValue)

/-- The value bound last to a name. -/
def Bindings.get? (b : Bindings) (name : String) : Option BoundValue := b.lookup name

/-! ## Contexts -/

/-- The frame that an event comes from. -/
structure CallContext where
  function : String
  module : String
  file : String
  firstLine : Nat
  qualifiedName : String
  line : Nat
  bindings : Bindings
deriving DecidableEq, Repr

namespace CallContext

/-- The file of a function that is not known to be declared in one. -/
def unknownFile : String := "<unknown>"

/-- A function of which nothing else is known. -/
def ofFunction (module function : String) : CallContext :=
  ⟨function, module, unknownFile, 1, function, 1, []⟩

/-- States where the function is declared; the line being run is the first one then. -/
def declaredAt (c : CallContext) (file : String) (firstLine : Nat) : CallContext :=
  { c with file, firstLine, line := firstLine }

def withQualifiedName (c : CallContext) (qualifiedName : String) : CallContext :=
  { c with qualifiedName }

def atLine (c : CallContext) (line : Nat) : CallContext := { c with line }

def bind (c : CallContext) (name : String) (value : BoundValue) : CallContext :=
  { c with bindings := (name, value) :: c.bindings }

end CallContext

/-! ## Events -/

/-- What happened in a frame. -/
inductive EventKind
  | called
  | returned
  | reachedLine
  | raised
  | other
deriving DecidableEq, Repr

structure Event where
  kind : EventKind
  context : CallContext
deriving DecidableEq, Repr

end CallTrace
