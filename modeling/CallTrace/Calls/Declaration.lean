import CallTrace.Unicode.Property

/-!
# What a declaration line declares

A line opens a class when the class keyword stands in it as a word, then white space, then the name
of the function as a word. Otherwise a line with the static marker declares a static method, and
any other line a free function. The keyword is looked for from left to right; an occurrence that
overlaps the one before is not looked at. `OpensClass` says the same of all occurrences.
-/

namespace CallTrace

open Unicode

/-! ## Rules -/

/-- Naming conventions of the traced program, and how members are marked in the output. -/
structure ClassifierRules where
  instanceBinding : String
  classBinding : String
  classKeyword : String
  staticMarker : String
  classMemberPrefix : String
  staticMemberPrefix : String
deriving DecidableEq, Repr

/-- The conventions where nothing else is said. -/
def ClassifierRules.standard : ClassifierRules :=
  ⟨"self", "cls", "class", "@staticmethod", "<class>", "<static>"⟩

inductive DeclarationKind
  | staticInit
  | staticMethod
  | free
deriving DecidableEq, Repr

namespace Declaration

/-! ## Lines that open a class -/

def isWordChar (c : Char) : Bool := isAlphanumeric c || c == '_'

/-- Whether no word goes on at the character, if there is one. -/
def endsWord (c : Option Char) : Bool :=
  match c with
  | none => true
  | some c => !isWordChar c

/-- Whether the text has the name after white space, as a word. -/
def namesAfterBlank (name after : List Char) : Bool :=
  let trimmed := after.dropWhile isWhiteSpace
  decide (trimmed.length < after.length) && name.isPrefixOf trimmed
    && endsWord (trimmed.drop name.length).head?

/-- Looks for the keyword in `rest`, before which the character `before` stands. The first `skip`
characters belong to an occurrence that was looked at. -/
def opensFrom (keyword name : List Char) (before : Option Char) (skip : Nat) : List Char → Bool
  | [] => false
  | c :: rest =>
    match skip with
    | skip + 1 => opensFrom keyword name (some c) skip rest
    | 0 =>
      if keyword.isPrefixOf (c :: rest) then
        (endsWord before && namesAfterBlank name ((c :: rest).drop keyword.length))
          || opensFrom keyword name (some c) (keyword.length - 1) rest
      else opensFrom keyword name (some c) 0 rest

def opensClass (keyword name line : String) : Bool :=
  !keyword.isEmpty && !name.isEmpty && opensFrom keyword.toList name.toList none 0 line.toList

/-- The line holds the keyword as a word, then white space that goes on as far as it can, then the
name as a word. -/
def OpensClass (keyword name line : List Char) : Prop :=
  ∃ before blank after,
    line = before ++ keyword ++ blank ++ name ++ after
      ∧ endsWord before.getLast? = true
      ∧ blank ≠ [] ∧ (∀ c ∈ blank, isWhiteSpace c = true)
      ∧ (∀ c ∈ (name ++ after).head?, isWhiteSpace c = false)
      ∧ endsWord after.head? = true

/-! ## Kinds of declarations -/

/-- Whether the text stands somewhere in the line. -/
def occurs (text : List Char) : List Char → Bool
  | [] => text.isEmpty
  | c :: rest => text.isPrefixOf (c :: rest) || occurs text rest

end Declaration

/-- What a line declares, if the function called has the given name. -/
def ClassifierRules.declarationKind (rules : ClassifierRules) (line function : String) :
    DeclarationKind :=
  if Declaration.opensClass rules.classKeyword function line then .staticInit
  else if !rules.staticMarker.isEmpty
      && Declaration.occurs rules.staticMarker.toList line.toList then .staticMethod
  else .free

end CallTrace
