import CallTrace.Pattern.Bracket

/-!
# Reading pattern texts

`Pattern.read?` turns the text of a pattern into a `Pattern`, or refuses it. Flags are worked out
on the way: a flag group without a colon holds until the end of the group it stands in, further
alternatives included. With each pattern comes the depth to which its text nests.
-/

namespace CallTrace

open Unicode

/-! ## Parts of a pattern -/

/-- A pattern with the depth to which its text nests. -/
structure DeepPattern where
  pattern : Pattern
  depth : Nat

/-- A part of a sequence. A flag group is a part that cannot be repeated. -/
structure Part where
  pattern : Pattern
  depth : Nat
  repeatable : Bool

/-- The sequence of the parts, given last part first. -/
def sequenceOf : List Part → DeepPattern
  | [] => ⟨.empty, 0⟩
  | [p] => ⟨p.pattern, p.depth⟩
  | p :: ps =>
    ⟨ps.foldl (fun acc q => .concat q.pattern acc) p.pattern,
      ps.foldl (fun d q => max d q.depth) p.depth + 1⟩

/-- The choice between the alternatives, given last alternative first. -/
def choiceOf (last : DeepPattern) : List DeepPattern → DeepPattern
  | [] => last
  | ps =>
    ⟨ps.foldl (fun acc q => .alt q.pattern acc) last.pattern,
      ps.foldl (fun d q => max d q.depth) last.depth + 1⟩

/-! ## Single characters -/

/-- The pattern of one character. Outside Unicode mode a byte above 127 is refused. -/
def literalPattern (f : Flags) (c : Char) (asByte : Bool) : Option Pattern :=
  let s := CharSet.single c
  if f.on .unicode then some (.chars (if f.on .caseless then s.closeCase else s))
  else if asByte && decide (127 < c.toNat) then none
  else some (.chars (if f.on .caseless then s.closeAsciiCase else s))

/-- The pattern of a dot: any character, or any but line ends. Outside Unicode mode it would
match single bytes, and is refused. -/
def dotPattern (f : Flags) : Option Pattern :=
  if !f.on .unicode then none
  else if f.on .dotAll then some (.chars CharSet.all)
  else if f.on .crlf then some (.chars (CharSet.ofChars ['\n', '\r']).compl)
  else some (.chars (CharSet.single '\n').compl)

def startLook (f : Flags) : Look :=
  if f.on .multiline then (if f.on .crlf then .lineStartCrlf else .lineStart) else .textStart

def endLook (f : Flags) : Look :=
  if f.on .multiline then (if f.on .crlf then .lineEndCrlf else .lineEnd) else .textEnd

/-! ## Repetition counts -/

/-- Decimal digits, passing over blanks and comments between them in verbose mode. -/
def readDigits (f : Flags) (inComment : Bool) : List Char → List Char × List Char
  | [] => ([], [])
  | c :: rest =>
    if inComment then readDigits f (c != '\n') rest
    else if c.isDigit then
      let (digits, rest) := readDigits f false rest
      (c :: digits, rest)
    else if f.on .verbose && isWhiteSpace c then readDigits f false rest
    else if f.on .verbose && c == '#' then readDigits f true rest
    else ([], c :: rest)

/-- The first number that a count cannot be, `2 ^ 32`. -/
def countLimit : Nat := 4294967296

/-- A count of 32 bits with the white space around it. -/
def readCount (f : Flags) (cs : List Char) : Option (Nat × List Char) :=
  let (digits, rest) := readDigits f false (cs.dropWhile isWhiteSpace)
  let n := digits.foldl (fun n c => 10 * n + (c.toNat - '0'.toNat)) 0
  if digits.isEmpty || decide (countLimit ≤ n) then none
  else some (n, skipBlanks f (rest.dropWhile isWhiteSpace))

/-- The bounds of a counted repetition after its opening brace. -/
def readBounds (f : Flags) (cs : List Char) : Option (Nat × Option Nat × List Char) :=
  match readCount f (skipBlanks f cs) with
  | none => none
  | some (low, '}' :: rest) => some (low, some low, rest)
  | some (low, ',' :: rest) =>
    match skipBlanks f rest with
    | '}' :: rest => some (low, none, rest)
    | rest =>
      match readCount f rest with
      | some (high, '}' :: rest) => if low ≤ high then some (low, some high, rest) else none
      | _ => none
  | _ => none

/-- A question mark after a repetition makes it reluctant. -/
def readReluctant : List Char → Bool × List Char
  | '?' :: rest => (true, rest)
  | cs => (false, cs)

/-- Repeats the last part of a sequence; there has to be one that can be repeated. -/
def repeatLast (f : Flags) (low : Nat) (high : Option Nat) (reluctant : Bool) :
    List Part → Option (List Part)
  | [] => none
  | p :: ps =>
    if p.repeatable then
      some (⟨.rep p.pattern low high (reluctant == f.on .swapGreed), p.depth + 1, true⟩ :: ps)
    else none

/-! ## Groups -/

/-- The name of a group up to its closing angle bracket. -/
def readGroupName (first : Bool) : List Char → Option (List Char × List Char)
  | [] => none
  | c :: rest =>
    if c = '>' then some ([], rest)
    else
      let allowed :=
        if first then c == '_' || isAlphabetic c
        else c == '_' || c == '.' || c == '[' || c == ']' || isAlphanumeric c
      if allowed then (readGroupName false rest).map fun p => (c :: p.1, p.2) else none

inductive InnerGroup
  /-- Captures nothing, under changed flags. -/
  | plain (changes : List (Flag × Bool))
  | capture (name : Option (List Char))

/-- The flags and names within the group. A name may be given once. -/
def InnerGroup.enter (f : Flags) (names : List (List Char)) :
    InnerGroup → Option (Flags × List (List Char))
  | .plain changes => some (f.apply changes, names)
  | .capture name => if name.any names.contains then none else some (f, name.toList ++ names)

def InnerGroup.wrap : InnerGroup → Pattern → Pattern
  | .plain _, p => p
  | .capture _, p => .capture p

inductive GroupStart
  /-- A flag group that holds for the rest of the group around it. -/
  | flags (changes : List (Flag × Bool))
  | inner (group : InnerGroup)

/-- Reads what follows an opening parenthesis. Groups that look around are refused. -/
def readGroupStart (f : Flags) (cs : List Char) : Option (GroupStart × List Char) :=
  let named := fun (rest : List Char) =>
    match readGroupName true rest with
    | none => none
    | some (name, rest) =>
        if name.isEmpty then none else some (GroupStart.inner (.capture (some name)), rest)
  match skipBlanks f cs with
  | '?' :: '=' :: _ => none
  | '?' :: '!' :: _ => none
  | '?' :: '<' :: '=' :: _ => none
  | '?' :: '<' :: '!' :: _ => none
  | '?' :: 'P' :: '<' :: rest => named rest
  | '?' :: '<' :: rest => named rest
  | '?' :: rest =>
    match readFlags [] false false rest with
    | none => none
    | some (changes, closed, rest) =>
      if closed then (if changes.isEmpty then none else some (.flags changes, rest))
      else some (.inner (.plain changes), rest)
  | rest => some (.inner (.capture none), rest)

/-! ## Constructs -/

/-- What a character of a pattern text introduces. -/
inductive Sign
  | closing
  | bar
  | optional
  | star
  | plus
  | bounds
  | group
  | bracket
  | dot
  | start
  | finish
  | escape
  | literal
deriving DecidableEq, Repr

def Sign.ofChar : Char → Sign
  | ')' => .closing
  | '|' => .bar
  | '?' => .optional
  | '*' => .star
  | '+' => .plus
  | '{' => .bounds
  | '(' => .group
  | '[' => .bracket
  | '.' => .dot
  | '^' => .start
  | '$' => .finish
  | '\\' => .escape
  | _ => .literal

/-- What stands next in a group. -/
inductive Construct
  /-- The end of the group: a parenthesis, or else the end of the text. -/
  | ending (closed : Bool)
  | bar
  | repetition (low : Nat) (high : Option Nat) (reluctant : Bool)
  | group (start : GroupStart)
  /-- A part of its own, with the depth to which its text nests. -/
  | atom (p : Pattern) (depth : Nat)

/-- A repetition with these bounds, once they are read. -/
def readRepetition (low : Nat) (high : Option Nat) (rest : List Char) : Construct × List Char :=
  let (reluctant, rest) := readReluctant rest
  (.repetition low high reluctant, rest)

def escapePattern (f : Flags) : Escape → Option Pattern
  | .set s => some (.chars s)
  | .look l => some (.look l)
  | .literal c asByte => literalPattern f c asByte

/-- The construct that a character introduces, and the rest after it. -/
def readConstruct (f : Flags) (c : Char) (rest : List Char) : Sign → Option (Construct × List Char)
  | .closing => some (.ending true, rest)
  | .bar => some (.bar, rest)
  | .optional => some (readRepetition 0 (some 1) rest)
  | .star => some (readRepetition 0 none rest)
  | .plus => some (readRepetition 1 none rest)
  | .bounds => (readBounds f rest).map fun p => readRepetition p.1 p.2.1 (skipBlanks f p.2.2)
  | .group => (readGroupStart f rest).map fun p => (.group p.1, p.2)
  | .bracket => (readBracket f rest).map fun p => (.atom (.chars p.1.chars) p.1.depth, p.2)
  | .dot => (dotPattern f).map fun p => (.atom p 0, rest)
  | .start => some (.atom (.look (startLook f)) 0, rest)
  | .finish => some (.atom (.look (endLook f)) 0, rest)
  | .escape =>
    (readEscape f rest).bind fun e => (escapePattern f e.1).map fun p => (.atom p 0, e.2)
  | .literal => (literalPattern f c false).map fun p => (.atom p 0, rest)

/-- Passes over blanks and reads the next construct. -/
def nextConstruct (f : Flags) (cs : List Char) : Option (Construct × List Char) :=
  match skipBlanks f cs with
  | [] => some (.ending false, [])
  | c :: rest => readConstruct f c rest (.ofChar c)

/-! ## Patterns -/

/-- Where a group ended: at its closing parenthesis or at the end of the text; with the pattern
and the names of groups so far. -/
structure GroupEnd where
  body : DeepPattern
  closed : Bool
  names : List (List Char)
  rest : List Char

/-- Reads the alternatives of a group. `done` holds the finished alternatives and `parts` the
current one, both last first. The fuel bounds the number of steps by the length of the text. -/
def readGroup : Nat → Flags → List (List Char) → List DeepPattern → List Part → List Char →
    Option GroupEnd
  | 0, _, _, _, _, _ => none
  | fuel + 1, f, names, done, parts, cs =>
    match nextConstruct f cs with
    | none => none
    | some (.ending closed, rest) => some ⟨choiceOf (sequenceOf parts) done, closed, names, rest⟩
    | some (.bar, rest) => readGroup fuel f names (sequenceOf parts :: done) [] rest
    | some (.repetition low high reluctant, rest) =>
      match repeatLast f low high reluctant parts with
      | none => none
      | some parts => readGroup fuel f names done parts rest
    | some (.group (.flags changes), rest) =>
      readGroup fuel (f.apply changes) names done (⟨.empty, 0, false⟩ :: parts) rest
    | some (.group (.inner group), rest) =>
      match group.enter f names with
      | none => none
      | some (within, names) =>
        match readGroup fuel within names [] [] rest with
        | some ⟨body, true, names, rest⟩ =>
          readGroup fuel f names done (⟨group.wrap body.pattern, body.depth + 1, true⟩ :: parts)
            rest
        | _ => none
    | some (.atom p depth, rest) => readGroup fuel f names done (⟨p, depth, true⟩ :: parts) rest

def Pattern.read? (text : List Char) : Option DeepPattern :=
  match readGroup (text.length + 1) Flags.initial [] [] [] text with
  | some ⟨body, false, _, _⟩ => some body
  | _ => none

end CallTrace
