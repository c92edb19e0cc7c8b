/-!
# Blanks, line ends and comments of KDL

Readers take the characters that are left and give those left after them, or nothing if what they
look for does not stand there. Blanks within a node are white space, comments between `/*` and `*/`
and line ends after a backslash. A node ends at a line end, a comment to the end of the line, a
semicolon, or the end of the document.
-/

namespace CallTrace.Kdl

/-- What is left after the input that was read. -/
abbrev Skip := List Char → Option (List Char)

/-! ## Characters -/

/-- Blanks that identifiers end at. -/
def isNamedBlank (c : Char) : Bool :=
  c == '\u00A0' || c == '\u1680' || ('\u2000' ≤ c && c ≤ '\u200A') || c == '\u202F'
    || c == '\u205F' || c == '\u3000'

def isBlank (c : Char) : Bool := c == '\t' || c == ' ' || c == '\uFEFF' || isNamedBlank c

/-- Line ends of one character, the line feed and the carriage return included. -/
def isLineEnd (c : Char) : Bool :=
  c == '\n' || c == '\r' || c == '\x0c' || c == '\u0085' || c == '\u2028' || c == '\u2029'

/-! ## Comments and line ends -/

def lineEnd? : Skip
  | '\r' :: '\n' :: rest => some rest
  | c :: rest => if isLineEnd c then some rest else none
  | [] => none

/-- What is left after the next line end, or nothing if there is none. -/
def afterLine : List Char → List Char
  | [] => []
  | '\r' :: '\n' :: rest => rest
  | c :: rest => if isLineEnd c then rest else afterLine rest

def lineComment? : Skip
  | '/' :: '/' :: rest => some (afterLine rest)
  | _ => none

/-- The inside of a comment and its end. A comment that opens in it and is never closed is not one,
and its slash is like any other character. Each step takes a character of the text and one of
`bound`, which has at least as many. -/
def insideComment? (bound : List Char) : Skip
  | [] => none
  | c :: rest =>
    match bound with
    | [] => none
    | _ :: bound =>
      if c = '*' then
        match rest with
        | [] => none
        | '/' :: after => some after
        | _ => insideComment? bound rest
      else if c = '/' then
        match rest with
        | '*' :: inner =>
          match insideComment? bound inner with
          | some after => insideComment? bound after
          | none => insideComment? bound rest
        | _ => insideComment? bound rest
      else insideComment? bound rest

/-- A comment between `/*` and `*/`. -/
def comment? : Skip
  | '/' :: '*' :: rest => insideComment? rest rest
  | _ => none

/-! ## Blanks -/

/-- White space or a comment within a line. -/
def blank? (s : List Char) : Option (List Char) :=
  match s with
  | [] => none
  | c :: rest => if isBlank c then some (rest.dropWhile isBlank) else comment? s

/-- Reads as often as it can. Each reading takes a character, so that `bound` need not have more
than the text. -/
def skipMany (skip : Skip) : List Char → List Char → List Char
  | [], s => s
  | _ :: bound, s =>
    match skip s with
    | some rest => skipMany skip bound rest
    | none => s

def skipBlanks (s : List Char) : List Char := skipMany blank? s s

/-- A line end that a backslash takes back, with blanks between and perhaps a comment. -/
def continuation? : Skip
  | '\\' :: rest =>
    let rest := skipBlanks rest
    match lineComment? rest with
    | some after => some after
    | none => lineEnd? rest
  | _ => none

def nodeBlank? (s : List Char) : Option (List Char) :=
  match blank? s with
  | some rest => some rest
  | none => continuation? s

def skipNodeBlanks (s : List Char) : List Char := skipMany nodeBlank? s s

def documentBlank? (s : List Char) : Option (List Char) :=
  match lineEnd? s with
  | some rest => some rest
  | none =>
    match blank? s with
    | some rest => some rest
    | none => lineComment? s

def skipDocumentBlanks (s : List Char) : List Char := skipMany documentBlank? s s

def nodeEnd? (s : List Char) : Option (List Char) :=
  match lineEnd? s with
  | some rest => some rest
  | none =>
    match lineComment? s with
    | some rest => some rest
    | none =>
      match s with
      | [] => some []
      | ';' :: rest => some rest
      | _ => none

/-- The mark that takes out what follows it, with the blanks after it. -/
def takenOut (s : List Char) : Bool × List Char :=
  match s with
  | '/' :: '-' :: rest => (true, skipNodeBlanks rest)
  | _ => (false, s)

end CallTrace.Kdl
