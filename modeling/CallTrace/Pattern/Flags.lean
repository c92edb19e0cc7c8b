import CallTrace.Unicode.Property

/-!
# Flags and blanks of pattern texts

The flags that a pattern can switch on and off for a group or for the rest of one, and how blanks
and comments are passed over in verbose mode.
-/

namespace CallTrace

open Unicode

/-! ## Flags -/

inductive Flag
  | caseless
  | multiline
  | dotAll
  | swapGreed
  | unicode
  | crlf
  | verbose
deriving DecidableEq, Repr

def Flag.ofChar? : Char → Option Flag
  | 'i' => some .caseless
  | 'm' => some .multiline
  | 's' => some .dotAll
  | 'U' => some .swapGreed
  | 'u' => some .unicode
  | 'R' => some .crlf
  | 'x' => some .verbose
  | _ => none

/-- The flags that are on. -/
abbrev Flags := List Flag

/-- A pattern starts with Unicode mode on and everything else off. -/
def Flags.initial : Flags := [.unicode]

def Flags.on (f : Flags) (g : Flag) : Bool := f.contains g

def Flags.set (f : Flags) (change : Flag × Bool) : Flags :=
  let others := f.filter (· != change.1)
  if change.2 then change.1 :: others else others

/-- Makes the changes of a flag group in order. -/
def Flags.apply (f : Flags) (changes : List (Flag × Bool)) : Flags := changes.foldl Flags.set f

/-- A flag group up to its closing colon or parenthesis: the changes, whether a parenthesis closed
it, and the rest. A flag may be named once, a minus may stand once and not at the end. -/
def readFlags (seen : List Flag) (negated dangling : Bool) :
    List Char → Option (List (Flag × Bool) × Bool × List Char)
  | [] => none
  | c :: rest =>
    if c = ':' ∨ c = ')' then
      if dangling then none else some ([], c == ')', rest)
    else if c = '-' then
      if negated then none else readFlags seen true true rest
    else
      match Flag.ofChar? c with
      | none => none
      | some g =>
        if seen.contains g then none
        else
          match readFlags (g :: seen) negated false rest with
          | none => none
          | some (changes, closed, rest) => some ((g, !negated) :: changes, closed, rest)

/-! ## Blanks -/

/-- Passes over white space and comments; a comment runs from `#` to the end of its line. -/
def skipVerbose (inComment : Bool) : List Char → List Char
  | [] => []
  | c :: rest =>
    if inComment then skipVerbose (c != '\n') rest
    else if isWhiteSpace c then skipVerbose false rest
    else if c = '#' then skipVerbose true rest
    else c :: rest

/-- Passes over blanks and comments where the flags say so. -/
def skipBlanks (f : Flags) (cs : List Char) : List Char :=
  if f.on .verbose then skipVerbose false cs else cs

/-- The text up to a closing brace, without the blanks and comments of verbose mode, and the
rest. -/
def untilBrace (f : Flags) (inComment : Bool) : List Char → Option (List Char × List Char)
  | [] => none
  | c :: rest =>
    if inComment then untilBrace f (c != '\n') rest
    else if c = '}' then some ([], rest)
    else if f.on .verbose && isWhiteSpace c then untilBrace f false rest
    else if f.on .verbose && c == '#' then untilBrace f true rest
    else (untilBrace f false rest).map fun p => (c :: p.1, p.2)

end CallTrace
