import CallTrace.Kdl.Parser
import CallTrace.Text.Quoted

/-!
# Decoding nodes

A decoder takes nodes apart and notes what is wrong with them. Some faults end the decoding of a
node and of those around it; after others it goes on, to find further ones. A document is accepted
only if nothing was noted. A node is decoded in the order type, arguments, properties, children.
-/

namespace CallTrace.Kdl

/-! ## Faults -/

inductive Kind
  | string
  | integer
  | decimal
  | boolean
  | null
deriving DecidableEq, Repr

def Kind.name : Kind → String
  | .string => "string"
  | .integer => "integer"
  | .decimal => "decimal"
  | .boolean => "boolean"
  | .null => "null"

def Literal.kind : Literal → Kind
  | .string _ => .string
  | .integer _ _ => .integer
  | .decimal => .decimal
  | .boolean _ => .boolean
  | .null => .null

/-- Types of the fields that values are decoded to. -/
inductive FieldType
  | text
  | flag
  | count
deriving DecidableEq, Repr

/-- The types that a value of the field may be given, as a message names them. -/
def FieldType.allowed : FieldType → String
  | .text => "no type for String"
  | .flag => "no type for bool"
  | .count => "u32 or no type for u32"

/-- The kind that a message asks for. Counts ask for a string too. -/
def FieldType.expected : FieldType → Kind
  | .text | .count => .string
  | .flag => .boolean

inductive Fault
  | typeOnNode
  | typeOnValue (field : FieldType) (typeName : String)
  | wrongKind (field : FieldType) (found : Kind)
  | tooLarge
  | negative
  | missingArgument (field : String)
  | surplusArgument
  | missingProperty (name : String)
  | unknownProperty (name : String)
  | unknownNode (name : String)
  | repeatedNode (name : String)
  | unknownEvent
deriving DecidableEq, Repr

def ticked (name : String) : String := "`" ++ name ++ "`"

def Fault.message : Fault → String
  | .typeOnNode => "no type name expected for this node"
  | .typeOnValue field typeName => field.allowed ++ ", found " ++ typeName
  | .wrongKind field found => "expected " ++ field.expected.name ++ " scalar, found " ++ found.name
  | .tooLarge => "number too large to fit in target type"
  | .negative => "invalid digit found in string"
  | .missingArgument field => "additional argument " ++ ticked field ++ " is required"
  | .surplusArgument => "unexpected argument"
  | .missingProperty name => "property " ++ ticked name ++ " is required"
  | .unknownProperty name => "unexpected property " ++ ticked (Text.escaped name)
  | .unknownNode name => "unexpected node " ++ ticked (Text.escaped name)
  | .repeatedNode name =>
    "duplicate node " ++ ticked (Text.escaped name) ++ ", single node expected"
  | .unknownEvent =>
    "expected " ++ ticked "call" ++ ", " ++ ticked "return" ++ ", or one of 2 others"

/-! ## Decoders -/

/-- A computation that notes faults, the latest first, and may stop at one. -/
abbrev Decoder := ExceptT Unit (StateM (List Fault))

namespace Decoder

/-- Notes a fault and goes on. -/
def note (fault : Fault) : Decoder Unit := modify (fault :: ·)

/-- Notes a fault and stops. -/
def refuse {α : Type} (fault : Fault) : Decoder α := do
  note fault
  throw ()

/-- The result and the faults in order. -/
def run {α : Type} (d : Decoder α) : Except (List Fault) α :=
  match (ExceptT.run d).run [] with
  | (.ok a, []) => .ok a
  | (_, faults) => .error faults.reverse

/-- Decodes each by itself: one that stops does not stop the others. -/
def each {α β : Type} (decode : α → Decoder β) (xs : List α) : Decoder (List β) := do
  let found ← xs.mapM fun x => tryCatch (some <$> decode x) fun _ => pure none
  return found.filterMap id

end Decoder

open Decoder

/-! ## Values -/

/-- The largest count, one less than `2 ^ 32`. -/
def maxCount : Nat := 4294967295

/-- Notes a type that the field does not allow. -/
def checkType (field : FieldType) (v : Value) : Decoder Unit :=
  match v.typeName with
  | none => pure ()
  | some t => if field = .count ∧ t = "u32" then pure () else note (.typeOnValue field t)

def decodeText (v : Value) : Decoder String := do
  checkType .text v
  match v.literal with
  | .string text => return text
  | l => do
    note (.wrongKind .text l.kind)
    return ""

def decodeFlag (v : Value) : Decoder Bool := do
  checkType .flag v
  match v.literal with
  | .boolean b => return b
  | l => do
    note (.wrongKind .flag l.kind)
    return false

/-- A number of 32 bits. -/
def decodeCount (v : Value) : Decoder Nat := do
  checkType .count v
  match v.literal with
  | .integer true _ => do
    note .negative
    return 0
  | .integer false n => do
    if maxCount < n then note .tooLarge
    return n
  | l => do
    note (.wrongKind .count l.kind)
    return 0

/-- A value that may be null. -/
def decodeOptional {α : Type} (field : FieldType) (decode : Value → Decoder α) (v : Value) :
    Decoder (Option α) :=
  match v.literal with
  | .null => do
    checkType field v
    return none
  | _ => some <$> decode v

/-! ## Parts of nodes -/

def checkNoType (n : Node) : Decoder Unit := if n.typeName.isSome then note .typeOnNode else pure ()

/-- Stops if there are arguments left. -/
def checkNoArguments (arguments : List Value) : Decoder Unit :=
  if arguments.isEmpty then pure () else refuse .surplusArgument

/-- Stops at the first property. -/
def checkNoProperties (n : Node) : Decoder Unit :=
  match n.properties with
  | [] => pure ()
  | p :: _ => refuse (.unknownProperty p.1)

/-- Notes each child. -/
def checkNoChildren (n : Node) : Decoder Unit := n.children.forM fun c => note (.unknownNode c.name)

def firstArgument (field : String) (n : Node) : Decoder (Value × List Value) :=
  match n.arguments with
  | [] => refuse (.missingArgument field)
  | v :: rest => return (v, rest)

/-- A node that stands for its only argument. Its type is not looked at. -/
def decodeWrapped {α : Type} (field : String) (decode : Value → Decoder α) (n : Node) :
    Decoder α := do
  let (v, rest) ← firstArgument field n
  let a ← decode v
  checkNoArguments rest
  checkNoProperties n
  checkNoChildren n
  return a

/-- A node that may stand once only; `before` is what was decoded of one before it. -/
def decodeOnce {α : Type} (before : Option α) (n : Node) (decode : Node → Decoder α) :
    Decoder (Option α) :=
  if before.isSome then refuse (.repeatedNode n.name) else some <$> decode n

/-! ## Documents -/

inductive DocumentError
  | notKdl
  | faulty (faults : List Fault)
deriving DecidableEq, Repr

def DocumentError.message : DocumentError → String
  | .notKdl => "error parsing KDL"
  | .faulty faults => "\n".intercalate (faults.map Fault.message)

def decodeDocument {α : Type} (decode : List Node → Decoder α) (text : String) :
    Except DocumentError α :=
  match read? text with
  | none => .error .notKdl
  | some nodes => (decode nodes).run.mapError .faulty

end CallTrace.Kdl
