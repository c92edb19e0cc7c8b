import CallTrace.Context
import CallTrace.Kdl.Decoder
import CallTrace.Source.Overlay
import CallTrace.Source.Snapshots

/-!
# Recordings

A recording is a KDL document with one node for each event. `prepare` turns the recorded events
into events with contexts, all of them or none: a binding that names neither a type nor a class
spoils the whole recording. `embeddedSources` registers the declaration lines that calls carry.
-/

namespace CallTrace

open Kdl Kdl.Decoder

/-! ## Recorded events -/

/-- A name bound at the entry of a call. -/
structure RecordedBinding where
  name : String
  instanceOf : Option String
  className : Option String
deriving DecidableEq, Repr

structure RecordedCall where
  function : String
  module : String
  file : Option String
  line : Option Nat
  firstLine : Option Nat
  qualifiedName : Option String
  bindings : List RecordedBinding
  declaration : Option String
deriving DecidableEq, Repr

/-- The frame of any other event. -/
structure RecordedFrame where
  function : Option String
  module : String
deriving DecidableEq, Repr

inductive RecordedEvent
  | called (call : RecordedCall)
  | returned (frame : RecordedFrame)
  | reachedLine (frame : RecordedFrame)
  | raised (frame : RecordedFrame)
deriving DecidableEq, Repr

/-! ## Contexts -/

/-- A binding that names neither a type nor a class. -/
structure UntypedBinding where
  binding : String
  function : String
deriving DecidableEq, Repr

def UntypedBinding.message (e : UntypedBinding) : String :=
  "binding " ++ Text.quoted e.binding ++ " of " ++ Text.quoted e.function
    ++ " needs an `instance` or `class` property"

/-- What the name is bound to. A class comes before a type. -/
def RecordedBinding.value? (b : RecordedBinding) : Option BoundValue :=
  match b.className, b.instanceOf with
  | some c, _ => some (.classNamed c)
  | none, some t => some (.instanceOf t)
  | none, none => none

namespace RecordedCall

def declarationLine (c : RecordedCall) : Nat := (c.firstLine <|> c.line).getD 1

def declarationFile (c : RecordedCall) : String := c.file.getD CallContext.unknownFile

def bound (c : RecordedCall) (b : RecordedBinding) : Except UntypedBinding (String × BoundValue) :=
  match b.value? with
  | some v => .ok (b.name, v)
  | none => .error ⟨b.name, c.function⟩

/-- The context without its bindings. -/
def frame (c : RecordedCall) : CallContext :=
  let ctx := (CallContext.ofFunction c.module c.function).declaredAt c.declarationFile
    c.declarationLine
  let ctx := ctx.atLine (c.line.getD c.declarationLine)
  match c.qualifiedName with
  | some q => ctx.withQualifiedName q
  | none => ctx

def context (c : RecordedCall) : Except UntypedBinding CallContext :=
  (c.bindings.mapM c.bound).map fun bindings => { c.frame with bindings := bindings.reverse }

end RecordedCall

/-- The context of an event other than a call. -/
def RecordedFrame.context (f : RecordedFrame) : CallContext :=
  .ofFunction f.module (f.function.getD "")

namespace RecordedEvent

def event : RecordedEvent → Except UntypedBinding Event
  | .called call => call.context.map (⟨.called, ·⟩)
  | .returned frame => .ok ⟨.returned, frame.context⟩
  | .reachedLine frame => .ok ⟨.reachedLine, frame.context⟩
  | .raised frame => .ok ⟨.raised, frame.context⟩

/-- All events with their contexts. -/
def prepare (events : List RecordedEvent) : Except UntypedBinding (List Event) :=
  events.mapM event

/-- Registers the declaration line that the event carries, if it does. -/
def embed {σ : Type} (sources : Overlay σ) : RecordedEvent → Overlay σ
  | .called call =>
    match call.declaration with
    | some text => sources.insert call.declarationFile call.declarationLine text
    | none => sources
  | _ => sources

/-- The declaration lines of the events, over the files of a disk. -/
def embeddedSources (disk : FileSystem) (events : List RecordedEvent) : Overlay FileLines :=
  events.foldl embed (.over (.ofDisk disk))

end RecordedEvent

/-! ## Decoding -/

def decodeProperties {α : Type} (n : Node) (start : α)
    (decode : α → String → Value → Decoder α) : Decoder α :=
  n.properties.foldlM (fun a p => decode a p.1 p.2) start

/-- A property that has to be there. -/
def required {α : Type} (name : String) : Option α → Decoder α
  | some a => return a
  | none => refuse (.missingProperty name)

namespace RecordedBinding

/-- Sets what a property of the node says. -/
def decodeProperty (b : RecordedBinding) (name : String) (v : Value) : Decoder RecordedBinding :=
  match name with
  | "instance" => do
    let t ← decodeOptional .text decodeText v
    return { b with instanceOf := t }
  | "class" => do
    let c ← decodeOptional .text decodeText v
    return { b with className := c }
  | _ => refuse (.unknownProperty name)

def decode (n : Node) : Decoder RecordedBinding := do
  checkNoType n
  let (v, rest) ← firstArgument "name" n
  let name ← decodeText v
  checkNoArguments rest
  let b ← decodeProperties n ⟨name, none, none⟩ decodeProperty
  checkNoChildren n
  return b

end RecordedBinding

/-- The properties of a call that were found so far. -/
structure RecordedCall.Draft where
  module : Option String
  file : Option String
  line : Option Nat
  firstLine : Option Nat
  qualifiedName : Option String

namespace RecordedCall

def Draft.decodeProperty (d : Draft) (name : String) (v : Value) : Decoder Draft :=
  match name with
  | "module" => do
    let m ← decodeText v
    return { d with module := some m }
  | "file" => do
    let f ← decodeOptional .text decodeText v
    return { d with file := f }
  | "line" => do
    let l ← decodeOptional .count decodeCount v
    return { d with line := l }
  | "first-line" => do
    let l ← decodeOptional .count decodeCount v
    return { d with firstLine := l }
  | "qualname" => do
    let q ← decodeOptional .text decodeText v
    return { d with qualifiedName := q }
  | _ => refuse (.unknownProperty name)

/-- Adds what a child of the node says: the bindings so far, the latest first, and the
declaration. -/
def decodeChild (found : List RecordedBinding × Option String) (n : Node) :
    Decoder (List RecordedBinding × Option String) :=
  match n.name with
  | "binding" => do
    let b ← RecordedBinding.decode n
    return (b :: found.1, found.2)
  | "declaration" => do
    let d ← decodeOnce found.2 n (decodeWrapped "declaration" decodeText)
    return (found.1, d)
  | name => do
    note (.unknownNode name)
    return found

def decode (n : Node) : Decoder RecordedCall := do
  checkNoType n
  let (v, rest) ← firstArgument "function" n
  let function ← decodeText v
  checkNoArguments rest
  let d ← decodeProperties n ⟨none, none, none, none, none⟩ Draft.decodeProperty
  let module ← required "module" d.module
  let (bindings, declaration) ← n.children.foldlM decodeChild ([], none)
  return ⟨function, module, d.file, d.line, d.firstLine, d.qualifiedName, bindings.reverse,
    declaration⟩

end RecordedCall

namespace RecordedFrame

/-- The module, if the property gives it. -/
def decodeProperty (_ : Option String) (name : String) (v : Value) : Decoder (Option String) :=
  match name with
  | "module" => some <$> decodeText v
  | _ => refuse (.unknownProperty name)

def decode (n : Node) : Decoder RecordedFrame := do
  checkNoType n
  let function ←
    match n.arguments with
    | [] => pure none
    | v :: _ => decodeOptional .text decodeText v
  checkNoArguments (n.arguments.drop 1)
  let module ← decodeProperties n none decodeProperty
  let module ← required "module" module
  checkNoChildren n
  return ⟨function, module⟩

end RecordedFrame

namespace RecordedEvent

def decode (n : Node) : Decoder RecordedEvent :=
  match n.name with
  | "call" => .called <$> RecordedCall.decode n
  | "return" => .returned <$> RecordedFrame.decode n
  | "line" => .reachedLine <$> RecordedFrame.decode n
  | "exception" => .raised <$> RecordedFrame.decode n
  | _ => refuse .unknownEvent

def ofText (text : String) : Except DocumentError (List RecordedEvent) :=
  decodeDocument (each decode) text

end RecordedEvent

end CallTrace
