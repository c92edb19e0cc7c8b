import CallTrace.Kdl.Blank
import CallTrace.Kdl.Syntax

/-!
# Identifiers, strings and numbers of KDL

A string stands between double quotes with escapes, or raw after an `r` and as many number signs as
after it. A number is an integer in base 2, 8, 10 or 16 or a decimal; underscores may stand among
its digits but not first. An identifier is bare or a string; a bare one does not begin like a number
and is none of the keywords.
-/

namespace CallTrace.Kdl

/-- A reader gives what it has read and what is left, or nothing. -/
abbrev Reader (α : Type) := List Char → Option (α × List Char)

/-! ## Strings -/

def escape? : Char → Option Char
  | '"' => some '"'
  | '\\' => some '\\'
  | '/' => some '/'
  | 'b' => some '\x08'
  | 'f' => some '\x0c'
  | 'n' => some '\n'
  | 'r' => some '\r'
  | 't' => some '\t'
  | _ => none

/-- The value of a digit in the given base. -/
def digit? (base : Nat) (c : Char) : Option Nat :=
  let n :=
    if c.isDigit then c.toNat - '0'.toNat
    else if 'a' ≤ c ∧ c ≤ 'f' then c.toNat - 'a'.toNat + 10
    else if 'A' ≤ c ∧ c ≤ 'F' then c.toNat - 'A'.toNat + 10
    else base
  if n < base then some n else none

def isDigitOf (base : Nat) (c : Char) : Bool := (digit? base c).isSome

/-- The number that digits write; other characters are passed over. -/
def numberOf (base : Nat) (digits : List Char) : Nat :=
  digits.foldl (fun n c => (digit? base c).elim n fun d => n * base + d) 0

/-- The character of a number that is one. -/
def charOf? (n : Nat) : Option Char := if n.isValidChar then some (Char.ofNat n) else none

/-- A character by one to six hexadecimal digits in braces. -/
def charNumber? (s : List Char) : Option (Char × List Char) :=
  match s with
  | '\x7b' :: s =>
    let digits := (s.take 6).takeWhile (isDigitOf 16)
    if digits.isEmpty then none
    else
      match s.drop digits.length with
      | '\x7d' :: rest => (charOf? (numberOf 16 digits)).map (·, rest)
      | _ => none
  | _ => none

/-- The text of a string and what is left after the quote that ends it. Each step takes a character
of the text and one of `bound`, which has at least as many. -/
def stringRest? (bound : List Char) : Reader (List Char)
  | [] => none
  | c :: rest =>
    match bound with
    | [] => none
    | _ :: bound =>
      if c = '"' then some ([], rest)
      else if c = '\\' then
        match rest with
        | [] => none
        | 'u' :: rest =>
          match charNumber? rest with
          | none => none
          | some (c, rest) => (stringRest? bound rest).map fun (text, rest) => (c :: text, rest)
        | e :: rest =>
          match escape? e with
          | none => none
          | some c => (stringRest? bound rest).map fun (text, rest) => (c :: text, rest)
      else (stringRest? bound rest).map fun (text, rest) => (c :: text, rest)

/-- The text of a raw string and what is left after `ending`. -/
def rawRest? (ending : List Char) : Reader (List Char)
  | [] => none
  | c :: rest =>
    if ending.isPrefixOf (c :: rest) then some ([], (c :: rest).drop ending.length)
    else (rawRest? ending rest).map fun (text, rest) => (c :: text, rest)

def rawString? (s : List Char) : Option (List Char × List Char) :=
  match s with
  | 'r' :: s =>
    let signs := s.takeWhile (· == '#')
    match s.drop signs.length with
    | '"' :: rest => rawRest? ('"' :: signs) rest
    | _ => none
  | _ => none

def string? (s : List Char) : Option (String × List Char) :=
  let text :=
    match s with
    | '"' :: rest => stringRest? rest rest
    | _ => rawString? s
  text.map fun (text, rest) => (String.ofList text, rest)

/-! ## Numbers -/

/-- A sign, if there is one, and whether it is a minus. -/
def sign (s : List Char) : Bool × List Char :=
  match s with
  | '-' :: rest => (true, rest)
  | '+' :: rest => (false, rest)
  | _ => (false, s)

/-- Digits and underscores, beginning with a digit. -/
def digits? (base : Nat) : Reader (List Char)
  | [] => none
  | c :: rest =>
    if isDigitOf base c then
      some ((c :: rest).span fun c => isDigitOf base c || c == '_')
    else none

/-- A number in a base that is named before it. -/
def basedNumber? (negative : Bool) (s : List Char) : Option (Literal × List Char) :=
  let inBase (base : Nat) (rest : List Char) : Option (Literal × List Char) :=
    (digits? base rest).map fun (digits, rest) => (.integer negative (numberOf base digits), rest)
  match s with
  | '0' :: 'b' :: rest => inBase 2 rest
  | '0' :: 'o' :: rest => inBase 8 rest
  | '0' :: 'x' :: rest => inBase 16 rest
  | _ => none

/-- The digits after a point, if there are any: whether there are, and what is left. -/
def fraction (s : List Char) : Bool × List Char :=
  match s with
  | '.' :: rest =>
    match digits? 10 rest with
    | some (_, rest) => (true, rest)
    | none => (false, s)
  | _ => (false, s)

/-- An exponent, if there is one, which need not have digits. -/
def exponent (s : List Char) : Bool × List Char :=
  match s with
  | c :: rest =>
    if c = 'e' ∨ c = 'E' then
      (true, (sign rest).2.dropWhile fun c => isDigitOf 10 c || c == '_')
    else (false, s)
  | [] => (false, s)

def decimalNumber? (negative : Bool) (s : List Char) : Option (Literal × List Char) :=
  match digits? 10 s with
  | none => none
  | some (digits, rest) =>
    let (hasFraction, rest) := fraction rest
    let (hasExponent, rest) := exponent rest
    some (if hasFraction || hasExponent then .decimal else .integer negative (numberOf 10 digits),
      rest)

def number? (s : List Char) : Option (Literal × List Char) :=
  let (negative, rest) := sign s
  match basedNumber? negative rest with
  | some r => some r
  | none => decimalNumber? negative rest

/-! ## Identifiers -/

/-- Punctuation and blanks that identifiers end at. -/
def endsIdentifier (c : Char) : Bool :=
  ['\\', '/', '(', ')', '\x7b', '\x7d', '<', '>', ';', '[', ']', '=', ',', '"'].contains c
    || isNamedBlank c || c == '\u0085' || c == '\u2028' || c == '\u2029'

def continuesIdentifier (c : Char) : Bool := decide ('!' < c) && !endsIdentifier c

/-- Whether an identifier may begin with the character, after a sign perhaps. -/
def startsIdentifier (c : Char) : Bool := decide (' ' < c) && !c.isDigit && !endsIdentifier c

def bareText? (s : List Char) : Option (List Char × List Char) :=
  match s with
  | [] => none
  | c :: rest =>
    if c = '-' ∨ c = '+' then
      match rest with
      | d :: rest' =>
        if startsIdentifier d then
          let (more, rest') := rest'.span continuesIdentifier
          some (c :: d :: more, rest')
        else some ([c], rest)
      | [] => some ([c], rest)
    else if startsIdentifier c then
      let (more, rest) := rest.span continuesIdentifier
      some (c :: more, rest)
    else none

/-- The words that are values. -/
def keywords : List (String × Literal) :=
  [("null", .null), ("true", .boolean true), ("false", .boolean false)]

def bareIdentifier? (s : List Char) : Option (String × List Char) :=
  match bareText? s with
  | none => none
  | some (text, rest) =>
    let name := String.ofList text
    if (keywords.lookup name).isSome then none else some (name, rest)

/-- An identifier. What begins like a number is none. -/
def identifier? (s : List Char) : Option (String × List Char) :=
  if (number? s).isSome then none
  else
    match string? s with
    | some r => some r
    | none => bareIdentifier? s

/-! ## Values -/

/-- A word that is a value, whatever follows it. -/
def keyword? (s : List Char) : Option (Literal × List Char) :=
  (keywords.find? fun k => k.1.toList.isPrefixOf s).map fun k => (k.2, s.drop k.1.length)

def literal? (s : List Char) : Option (Literal × List Char) :=
  match string? s with
  | some (text, rest) => some (.string text, rest)
  | none =>
    match number? s with
    | some r => some r
    | none => keyword? s

/-- A type in parentheses. -/
def typeName? (s : List Char) : Option (String × List Char) :=
  match s with
  | '(' :: s =>
    match identifier? s with
    | some (name, ')' :: rest) => some (name, rest)
    | _ => none
  | _ => none

/-- A value with its type, if it has one. -/
def value? (s : List Char) : Option (Value × List Char) :=
  match typeName? s with
  | some (typeName, rest) => (literal? rest).map fun (l, rest) => (⟨some typeName, l⟩, rest)
  | none => (literal? s).map fun (l, rest) => (⟨none, l⟩, rest)

end CallTrace.Kdl
