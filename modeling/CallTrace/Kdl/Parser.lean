import CallTrace.Kdl.Literal

/-!
# Reading KDL documents

`Kdl.read?` gives the nodes of a document, or nothing if the text is not one. A node is a name,
perhaps with a type, then arguments and properties with blanks before each, then at most one block
of children in braces, then the end of the node. What stands after a slash and a dash is read and
left out.
-/

namespace CallTrace.Kdl

/-! ## Arguments and properties -/

def bareProperty? (s : List Char) : Option (Entry × List Char) :=
  match bareIdentifier? s with
  | some (name, '=' :: rest) => (value? rest).map fun (v, rest) => (.property name v, rest)
  | _ => none

/-- An argument or property. A value with an equals sign after it is the name of a property, and
has to be a string. -/
def entry? (s : List Char) : Option (Entry × List Char) :=
  match literal? s with
  | some (l, rest) =>
    match rest with
    | '=' :: after =>
      match l with
      | .string name => (value? after).map fun (v, rest) => (.property name v, rest)
      | _ => none
    | _ => some (.argument ⟨none, l⟩, rest)
  | none =>
    match bareProperty? s with
    | some r => some r
    | none =>
      match typeName? s with
      | some (typeName, rest) =>
        (literal? rest).map fun (l, rest) => (.argument ⟨some typeName, l⟩, rest)
      | none => none

/-- The arguments and properties of a node that are not taken out. Each step takes characters of the
text and one of `bound`, which has at least as many. -/
def entries : List Char → List Char → List Entry × List Char
  | [], s => ([], s)
  | _ :: bound, s =>
    match nodeBlank? s with
    | none => ([], s)
    | some t =>
      let (out, t) := takenOut (skipNodeBlanks t)
      match entry? t with
      | none => ([], s)
      | some (e, rest) =>
        let (es, rest) := entries bound rest
        (if out then es else e :: es, rest)

/-! ## Nodes -/

/-- The block of children of a node, none if there is no block. -/
def block (nodes : List Char → List Node × List Char) (s : List Char) : List Node × List Char :=
  let (out, t) := takenOut (skipNodeBlanks s)
  match t with
  | '\x7b' :: inner =>
    match nodes inner with
    | (children, '\x7d' :: rest) => (if out then [] else children, rest)
    | _ => ([], s)
  | _ => ([], s)

/-- A node, where `nodes` reads the inside of a block. -/
def node? (nodes : List Char → List Node × List Char) (s : List Char) : Option (Node × List Char) :=
  let (typeName, s) :=
    match typeName? s with
    | some (t, rest) => (some t, rest)
    | none => (none, s)
  match identifier? s with
  | none => none
  | some (name, rest) =>
    let (es, rest) := entries rest rest
    let (children, rest) := block nodes rest
    match nodeEnd? (skipNodeBlanks rest) with
    | none => none
    | some rest => some (⟨typeName, name, argumentsOf es, propertiesOf es, children⟩, rest)

/-- The nodes up to the first place where none begins. Each step of `bound` takes at least a
character. -/
def nodes : Nat → List Char → List Node × List Char
  | 0, s => ([], s)
  | bound + 1, s =>
    let s := skipDocumentBlanks s
    let (out, t) := takenOut s
    match node? (nodes bound) t with
    | none => ([], s)
    | some (n, rest) =>
      let (ns, rest) := nodes bound rest
      (if out then ns else n :: ns, rest)

/-! ## Documents -/

def read? (text : String) : Option (List Node) :=
  let s := text.toList
  match nodes (s.length + 1) s with
  | (ns, []) => some ns
  | _ => none

end CallTrace.Kdl
