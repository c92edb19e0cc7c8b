import CallTrace.Files.FileSystem
import CallTrace.Kdl.Decoder
import CallTrace.Tracing.Tracer

/-!
# Configurations

A configuration is a KDL document that says which modules to trace, whether to print locations, and
which naming conventions differ from the standard ones. It is given as text, or as the path of a
file if the last name of the text is one with the extension `kdl`.
-/

namespace CallTrace

open Kdl Kdl.Decoder

/-! ## Configurations -/

/-- Naming conventions that replace the standard ones. -/
structure RuleOverrides where
  instanceBinding : Option String
  classBinding : Option String
  classKeyword : Option String
  staticMarker : Option String
deriving DecidableEq, Repr

/-- What to trace and how. -/
structure TraceConfig where
  modulePattern : String
  printLocation : Bool
  rules : RuleOverrides
deriving DecidableEq, Repr

namespace RuleOverrides

def none : RuleOverrides := ⟨.none, .none, .none, .none⟩

/-- The conventions with the overrides put in. -/
def apply (o : RuleOverrides) (rules : ClassifierRules) : ClassifierRules :=
  { rules with
    instanceBinding := o.instanceBinding.getD rules.instanceBinding
    classBinding := o.classBinding.getD rules.classBinding
    classKeyword := o.classKeyword.getD rules.classKeyword
    staticMarker := o.staticMarker.getD rules.staticMarker }

end RuleOverrides

namespace TraceConfig

def tracerConfig (c : TraceConfig) : TracerConfig := ⟨c.modulePattern, c.printLocation⟩

def classifierRules (c : TraceConfig) : ClassifierRules := c.rules.apply .standard

end TraceConfig

/-! ## Decoding -/

def RuleOverrides.decodeChild (o : RuleOverrides) (n : Node) : Decoder RuleOverrides :=
  match n.name with
  | "instance-binding" => do
    let v ← decodeOnce o.instanceBinding n (decodeWrapped "instance_binding" decodeText)
    return { o with instanceBinding := v }
  | "class-binding" => do
    let v ← decodeOnce o.classBinding n (decodeWrapped "class_binding" decodeText)
    return { o with classBinding := v }
  | "class-keyword" => do
    let v ← decodeOnce o.classKeyword n (decodeWrapped "class_keyword" decodeText)
    return { o with classKeyword := v }
  | "static-marker" => do
    let v ← decodeOnce o.staticMarker n (decodeWrapped "static_marker" decodeText)
    return { o with staticMarker := v }
  | name => do
    note (.unknownNode name)
    return o

def RuleOverrides.decode (n : Node) : Decoder RuleOverrides := do
  checkNoType n
  checkNoArguments n.arguments
  checkNoProperties n
  n.children.foldlM RuleOverrides.decodeChild .none

/-- The parts of a configuration that were found so far. -/
structure TraceConfig.Draft where
  modulePattern : Option String
  printLocation : Option Bool
  rules : Option RuleOverrides

namespace TraceConfig.Draft

def empty : Draft := ⟨none, none, none⟩

def decodeNode (d : Draft) (n : Node) : Decoder Draft :=
  match n.name with
  | "module-pattern" => do
    let v ← decodeOnce d.modulePattern n (decodeWrapped "module_pattern" decodeText)
    return { d with modulePattern := v }
  | "print-location" => do
    let v ← decodeOnce d.printLocation n (decodeWrapped "print_location" decodeFlag)
    return { d with printLocation := v }
  | "rules" => do
    let v ← decodeOnce d.rules n RuleOverrides.decode
    return { d with rules := v }
  | name => do
    note (.unknownNode name)
    return d

/-- The configuration, where what is missing is as usual: all modules, no locations and standard
conventions. -/
def finish (d : Draft) : TraceConfig :=
  ⟨d.modulePattern.getD TracerConfig.standard.modulePattern,
    d.printLocation.getD TracerConfig.standard.printLocation, d.rules.getD .none⟩

end TraceConfig.Draft

namespace TraceConfig

def decode (nodes : List Node) : Decoder TraceConfig :=
  Draft.finish <$> nodes.foldlM Draft.decodeNode .empty

def ofText (text : String) : Except DocumentError TraceConfig := decodeDocument decode text

end TraceConfig

/-! ## Where a configuration comes from -/

inductive LoadError
  | file (error : FileError)
  | document (error : DocumentError)
deriving DecidableEq, Repr

def LoadError.message : LoadError → String
  | .file e => e.message
  | .document e => e.message

namespace TraceConfig

/-- The extension of configuration files, with its dot. -/
def extension : List Char := ".kdl".toList

/-- Whether a text is taken for the path of a configuration. -/
def isPath (source : String) : Bool :=
  match Path.lastName? source with
  | some name => Path.hasExtension extension name
  | none => false

/-- The configuration in a file, or in the text itself. -/
def load (disk : FileSystem) (source : String) : Except LoadError TraceConfig := do
  let text ← if isPath source then (disk.readText source).mapError .file else .ok source
  (ofText text).mapError .document

end TraceConfig

end CallTrace
