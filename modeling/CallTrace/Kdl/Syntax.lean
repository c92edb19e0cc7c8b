/-!
# KDL documents

A document is a list of nodes. A node has a name, arguments in order, properties by name and
children. Names and values may be given a type. Of a property that is given twice the last value
counts, and properties are kept in increasing order of their names.
-/

namespace CallTrace.Kdl

/-- A value without its type. An integer keeps its sign, since `-0` is not `0`. Of a decimal number
nothing but its presence matters. -/
inductive Literal
  | string (text : String)
  | integer (negative : Bool) (magnitude : Nat)
  | decimal
  | boolean (b : Bool)
  | null
deriving DecidableEq, Repr

/-- A value, perhaps with a type. -/
structure Value where
  typeName : Option String
  literal : Literal
deriving DecidableEq, Repr

structure Node where
  typeName : Option String
  name : String
  arguments : List Value
  properties : List (String × Value)
  children : List Node
deriving Repr

/-- Sets a property among properties in increasing order of their names. -/
def setProperty (name : String) (value : Value) : List (String × Value) → List (String × Value)
  | [] => [(name, value)]
  | p :: rest =>
    if name < p.1 then (name, value) :: p :: rest
    else if name = p.1 then (name, value) :: rest
    else p :: setProperty name value rest

/-- What stands after the name of a node. -/
inductive Entry
  | argument (value : Value)
  | property (name : String) (value : Value)
deriving DecidableEq, Repr

def argumentsOf (entries : List Entry) : List Value :=
  entries.filterMap fun
    | .argument v => some v
    | .property _ _ => none

def propertiesOf (entries : List Entry) : List (String × Value) :=
  entries.foldl (fun properties entry =>
    match entry with
    | .argument _ => properties
    | .property name value => setProperty name value properties) []

end CallTrace.Kdl
