import CallTrace.Pattern.Flags
import CallTrace.Pattern.Syntax
import CallTrace.Unicode.CaseFolding
import CallTrace.Unicode.Query

/-!
# Escapes of pattern texts

`readEscape` reads what follows a backslash: a character, a set of characters or an assertion.
Letters and digits without a meaning are refused, so are references to groups; any other ASCII
sign stands for itself.
-/

namespace CallTrace

open Unicode

/-- What an escape stands for. A character is marked when it was written as two hexadecimal
digits, for outside Unicode mode that spelling is a byte. -/
inductive Escape
  | literal (c : Char) (asByte : Bool)
  | set (s : CharSet)
  | look (l : Look)

/-! ## Sets under the flags -/

/-- A set as the flags ask for it: closed under case if case does not count, then turned into its
complement if negated. Outside Unicode mode a negated set would match single bytes above 127, and
is refused. -/
def closeAndNegate (f : Flags) (negated : Bool) (s : CharSet) : Option CharSet :=
  if f.on .unicode then
    let s := if f.on .caseless then s.closeCase else s
    some (if negated then s.compl else s)
  else if negated then none
  else some (if f.on .caseless then s.closeAsciiCase else s)

/-- A set of characters given in two versions, for Unicode mode and for ASCII. -/
def modeSet (f : Flags) (negated : Bool) (unicode ascii : CharSet) : Option CharSet :=
  if f.on .unicode then some (if negated then unicode.compl else unicode)
  else if negated then none
  else some ascii

def asciiDigits : CharSet := CharSet.range 0x30 0x39

def asciiBlanks : CharSet := CharSet.ofChars [' ', '\t', '\n', '\x0b', '\x0c', '\r']

def asciiWords : CharSet :=
  ⟨[⟨0x30, 0x39⟩, ⟨0x41, 0x5A⟩, ⟨0x5F, 0x5F⟩, ⟨0x61, 0x7A⟩]⟩

/-- The sets of the letters `d`, `s` and `w`, negated for the capitals. -/
def letterSet? (f : Flags) : Char → Option (Option CharSet)
  | 'd' => some (modeSet f false Category.nd.chars asciiDigits)
  | 'D' => some (modeSet f true Category.nd.chars asciiDigits)
  | 's' => some (modeSet f false whiteSpace asciiBlanks)
  | 'S' => some (modeSet f true whiteSpace asciiBlanks)
  | 'w' => some (modeSet f false wordChars asciiWords)
  | 'W' => some (modeSet f true wordChars asciiWords)
  | _ => none

/-! ## Hexadecimal -/

def isHexDigit (c : Char) : Bool := (CharSet.hexValue? c).isSome

/-- The character with the given number, if there is one. -/
def charOfNumber? (n : Nat) : Option Char :=
  if n < 0xD800 ∨ (0xDFFF < n ∧ n < 0x110000) then some (Char.ofNat n) else none

/-- Exactly `n` hexadecimal digits, passing over blanks in verbose mode. -/
def readHexDigits (f : Flags) : Nat → List Char → Option (List Char × List Char)
  | 0, cs => some ([], cs)
  | _ + 1, [] => none
  | n + 1, c :: rest =>
    if isHexDigit c then
      (readHexDigits f n (skipBlanks f rest)).map fun p => (c :: p.1, p.2)
    else none

/-- A character by its number: `width` digits, or any number of digits in braces. -/
def readHex (f : Flags) (width : Nat) (cs : List Char) : Option (Char × List Char) :=
  match skipBlanks f cs with
  | '{' :: rest =>
    match untilBrace f false rest with
    | none => none
    | some (digits, rest) =>
      if digits.isEmpty || !digits.all isHexDigit then none
      else (charOfNumber? (CharSet.hexNumber digits)).map fun c => (c, skipBlanks f rest)
  | cs =>
    match readHexDigits f width cs with
    | none => none
    | some (digits, rest) =>
      (charOfNumber? (CharSet.hexNumber digits)).map fun c => (c, rest)

/-! ## Named sets -/

/-- The text before and after the first place where `sep` stands. -/
def splitAtFirst (sep : List Char) : List Char → Option (List Char × List Char)
  | [] => none
  | c :: rest =>
    if sep.isPrefixOf (c :: rest) then some ([], (c :: rest).drop sep.length)
    else (splitAtFirst sep rest).map fun p => (c :: p.1, p.2)

/-- The set that a name in braces stands for, and whether it says `!=`. -/
def bracedSet? (content : List Char) : Option (CharSet × Bool) :=
  match splitAtFirst ['!', '='] content with
  | some (property, value) => (valued? property value).map fun s => (s, true)
  | none =>
    match splitAtFirst [':'] content with
    | some (property, value) => (valued? property value).map fun s => (s, false)
    | none =>
      match splitAtFirst ['='] content with
      | some (property, value) => (valued? property value).map fun s => (s, false)
      | none => (named? content).map fun s => (s, false)

/-- The set of a name, which is one letter or a text in braces, and whether it says `!=`. -/
def readSetName (f : Flags) (cs : List Char) : Option (CharSet × Bool × List Char) :=
  match skipBlanks f cs with
  | [] => none
  | '{' :: rest =>
    match untilBrace f false rest with
    | none => none
    | some (content, rest) => (bracedSet? content).map fun p => (p.1, p.2, rest)
  | c :: rest => if c = '\\' then none else (named? [c]).map fun s => (s, false, rest)

/-- A set by its name. There are such sets in Unicode mode only. -/
def readNamedSet (f : Flags) (negated : Bool) (cs : List Char) : Option (CharSet × List Char) :=
  match readSetName f cs with
  | none => none
  | some (s, unequal, rest) =>
    if f.on .unicode then (closeAndNegate f (negated != unequal) s).map fun s => (s, rest) else none

/-! ## Word edges -/

def wordLook (f : Flags) (edge : WordEdge) : Look :=
  if f.on .unicode then .word edge else .asciiWord edge

/-- The edges that have a name in braces. -/
def WordEdge.ofName? (name : List Char) : Option WordEdge :=
  match String.ofList name with
  | "start" => some .opening
  | "end" => some .closing
  | "start-half" => some .openingHalf
  | "end-half" => some .closingHalf
  | _ => none

/-- The edge after `b`: a name in braces, if what the brace opens starts like a name, else any
boundary. -/
def readWordEdge (f : Flags) (cs : List Char) : Option (WordEdge × List Char) :=
  match cs with
  | '{' :: rest =>
    match skipBlanks f rest with
    | [] => none
    | c :: _ =>
      if c.isAlpha || c == '-' then
        match untilBrace f false rest with
        | none => none
        | some (name, rest) => (WordEdge.ofName? name).map fun e => (e, rest)
      else some (.boundary, cs)
  | _ => some (.boundary, cs)

/-! ## Escapes -/

/-- The letters that stand for a control character. -/
def controlLetter? : Char → Option Char
  | 'a' => some '\x07'
  | 'f' => some '\x0c'
  | 't' => some '\t'
  | 'n' => some '\n'
  | 'r' => some '\r'
  | 'v' => some '\x0b'
  | _ => none

def readEscape (f : Flags) : List Char → Option (Escape × List Char)
  | [] => none
  | c :: rest =>
    match letterSet? f c with
    | some set => set.map fun s => (.set s, rest)
    | none =>
      match controlLetter? c with
      | some k => some (.literal k false, rest)
      | none =>
        match c with
        | 'x' =>
          (readHex f 2 rest).map fun p =>
            (.literal p.1 ((skipBlanks f rest).head? != some '{'), p.2)
        | 'u' => (readHex f 4 rest).map fun p => (.literal p.1 false, p.2)
        | 'U' => (readHex f 8 rest).map fun p => (.literal p.1 false, p.2)
        | 'p' => (readNamedSet f false rest).map fun p => (.set p.1, p.2)
        | 'P' => (readNamedSet f true rest).map fun p => (.set p.1, p.2)
        | 'A' => some (.look .textStart, rest)
        | 'z' => some (.look .textEnd, rest)
        | 'b' => (readWordEdge f rest).map fun p => (.look (wordLook f p.1), p.2)
        | 'B' => some (.look (wordLook f .inside), rest)
        | '<' => some (.look (wordLook f .opening), rest)
        | '>' => some (.look (wordLook f .closing), rest)
        | _ => if c.toNat < 128 && !c.isAlphanum then some (.literal c false, rest) else none

end CallTrace
