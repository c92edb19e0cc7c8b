import CallTrace.Pattern.Escape

/-!
# Bracketed classes of pattern texts

`readBracket` reads a class in brackets: characters, ranges, escapes, nested classes and named
ASCII classes, joined by `&&`, `--` and `~~` from left to right. A `]` that comes first and a `-`
that starts or ends the class stand for themselves. With the set comes the depth to which the
class nests, because patterns may not nest without bound.
-/

namespace CallTrace

open Unicode

/-! ## Parts of a class -/

/-- The operators between parts of a class. -/
inductive SetOp
  | inter
  | diff
  | symmDiff
deriving DecidableEq, Repr

def SetOp.apply : SetOp → CharSet → CharSet → CharSet
  | .inter, s, t => s.inter t
  | .diff, s, t => s.diff t
  | .symmDiff, s, t => s.symmDiff t

/-- A set with the depth to which its text nests. -/
structure DeepSet where
  chars : CharSet
  depth : Nat

/-- The items of a class read since the last operator. -/
structure ClassPart where
  chars : CharSet
  items : Nat
  depth : Nat

def ClassPart.none : ClassPart := ⟨CharSet.empty, 0, 0⟩

def ClassPart.add (p : ClassPart) (s : DeepSet) : ClassPart :=
  ⟨p.chars.union s.chars, p.items + 1, max p.depth s.depth⟩

/-- Several items nest one level deeper than a single one. -/
def ClassPart.toDeepSet (p : ClassPart) : DeepSet :=
  ⟨p.chars, if p.items ≤ 1 then p.depth else p.depth + 1⟩

/-- Joins the part after an operator to what stands before it. Where case does not count, both
sides are closed under case first. -/
def joinPart (f : Flags) (before : Option (DeepSet × SetOp)) (p : ClassPart) : DeepSet :=
  match before with
  | Option.none => p.toDeepSet
  | some (left, op) =>
    let close := fun s => (closeAndNegate f false s).getD s
    ⟨op.apply (close left.chars) (close p.chars), max left.depth p.toDeepSet.depth + 1⟩

/-! ## Named ASCII classes -/

def asciiClass? (name : List Char) : Option CharSet :=
  match String.ofList name with
  | "alnum" => some ⟨[⟨0x30, 0x39⟩, ⟨0x41, 0x5A⟩, ⟨0x61, 0x7A⟩]⟩
  | "alpha" => some ⟨[⟨0x41, 0x5A⟩, ⟨0x61, 0x7A⟩]⟩
  | "ascii" => some ⟨[⟨0x00, 0x7F⟩]⟩
  | "blank" => some ⟨[⟨0x09, 0x09⟩, ⟨0x20, 0x20⟩]⟩
  | "cntrl" => some ⟨[⟨0x00, 0x1F⟩, ⟨0x7F, 0x7F⟩]⟩
  | "digit" => some asciiDigits
  | "graph" => some ⟨[⟨0x21, 0x7E⟩]⟩
  | "lower" => some ⟨[⟨0x61, 0x7A⟩]⟩
  | "print" => some ⟨[⟨0x20, 0x7E⟩]⟩
  | "punct" => some ⟨[⟨0x21, 0x2F⟩, ⟨0x3A, 0x40⟩, ⟨0x5B, 0x60⟩, ⟨0x7B, 0x7E⟩]⟩
  | "space" => some asciiBlanks
  | "upper" => some ⟨[⟨0x41, 0x5A⟩]⟩
  | "word" => some asciiWords
  | "xdigit" => some ⟨[⟨0x30, 0x39⟩, ⟨0x41, 0x46⟩, ⟨0x61, 0x66⟩]⟩
  | _ => none

/-- A named class after its opening bracket: the set, whether it is negated, and the rest. Any
other text is no named class, and then the bracket opens a nested one. -/
def readAsciiClass? : List Char → Option (CharSet × Bool × List Char)
  | ':' :: rest =>
    let negated := rest.head? == some '^'
    let rest := if negated then rest.drop 1 else rest
    match rest.dropWhile (· != ':') with
    | ':' :: ']' :: after =>
      (asciiClass? (rest.takeWhile (· != ':'))).map fun s => (s, negated, after)
    | _ => none
  | _ => none

/-! ## Items -/

/-- A character of a class as the flags allow it: outside Unicode mode it must be ASCII. -/
def classChar (f : Flags) (c : Char) : Option Char :=
  if f.on .unicode || decide (c.toNat < 128) then some c else none

/-- One end of a range or an item of its own. -/
def readClassAtom (f : Flags) : List Char → Option (Escape × List Char)
  | [] => none
  | '\\' :: rest => readEscape f rest
  | c :: rest => some (.literal c false, rest)

/-- An item of a class: an atom, or a range between two characters. -/
def readClassItem (f : Flags) (cs : List Char) : Option (DeepSet × List Char) :=
  match readClassAtom f cs with
  | none => none
  | some (atom, rest) =>
    let rest := skipBlanks f rest
    let alone : Option (DeepSet × List Char) :=
      match atom with
      | .literal c _ => (classChar f c).map fun c => (⟨CharSet.single c, 0⟩, rest)
      | .set s => some (⟨s, 0⟩, rest)
      | .look _ => none
    match rest with
    | '-' :: after =>
      let after := skipBlanks f after
      if after.head? == some ']' || after.head? == some '-' then alone
      else
        match atom, readClassAtom f after with
        | .literal a _, some (.literal b _, rest) =>
          match classChar f a, classChar f b with
          | some a, some b =>
            if a ≤ b then some (⟨CharSet.range a.toNat b.toNat, 0⟩, rest) else none
          | _, _ => none
        | _, _ => none
    | _ => alone

/-- Hyphens right after an opening bracket stand for themselves. -/
def readOpeningDashes (f : Flags) : Nat → ClassPart → List Char → ClassPart × List Char
  | fuel + 1, p, '-' :: rest =>
    readOpeningDashes f fuel (p.add ⟨CharSet.single '-', 0⟩) (skipBlanks f rest)
  | _, p, cs => (p, cs)

/-- Whether a class starts with a `^`, and what stands after it. -/
def readCaret (f : Flags) (cs : List Char) : Bool × List Char :=
  match skipBlanks f cs with
  | '^' :: rest => (true, skipBlanks f rest)
  | rest => (false, rest)

/-- What stands before the first ordinary item: hyphens, and a `]` if there are none. -/
def readOpeningItems (f : Flags) (cs : List Char) : ClassPart × List Char :=
  match readOpeningDashes f cs.length ClassPart.none cs with
  | (p, ']' :: rest) =>
    if p.items = 0 then (p.add ⟨CharSet.single ']', 0⟩, skipBlanks f rest) else (p, ']' :: rest)
  | opening => opening

/-- What stands after an opening bracket and before the first ordinary item. -/
def readOpening (f : Flags) (cs : List Char) : Bool × ClassPart × List Char :=
  let (negated, cs) := readCaret f cs
  (negated, readOpeningItems f cs)

/-! ## Classes -/

/-- Reads items and operators up to the closing bracket. The fuel bounds the number of items and
brackets. -/
def readClassBody (f : Flags) :
    Nat → ClassPart → Option (DeepSet × SetOp) → List Char → Option (DeepSet × List Char)
  | 0, _, _, _ => none
  | fuel + 1, p, before, cs =>
    match skipBlanks f cs with
    | [] => none
    | ']' :: rest => some (joinPart f before p, rest)
    | '&' :: '&' :: rest =>
        readClassBody f fuel ClassPart.none (some (joinPart f before p, .inter)) rest
    | '-' :: '-' :: rest =>
        readClassBody f fuel ClassPart.none (some (joinPart f before p, .diff)) rest
    | '~' :: '~' :: rest =>
      readClassBody f fuel ClassPart.none (some (joinPart f before p, .symmDiff)) rest
    | '[' :: rest =>
      match readAsciiClass? rest with
      | some (s, negated, rest) =>
        match closeAndNegate f negated s with
        | none => none
        | some s => readClassBody f fuel (p.add ⟨s, 0⟩) before rest
      | none =>
        let (negated, first, rest) := readOpening f rest
        match readClassBody f fuel first none rest with
        | none => none
        | some (inner, rest) =>
          match closeAndNegate f negated inner.chars with
          | none => none
          | some s => readClassBody f fuel (p.add ⟨s, inner.depth + 1⟩) before rest
    | cs =>
      match readClassItem f cs with
      | none => none
      | some (item, rest) => readClassBody f fuel (p.add item) before rest

def readBracket (f : Flags) (cs : List Char) : Option (DeepSet × List Char) :=
  let (negated, first, rest) := readOpening f cs
  match readClassBody f (rest.length + 1) first none rest with
  | none => none
  | some (inner, rest) =>
    (closeAndNegate f negated inner.chars).map fun s => (⟨s, inner.depth + 1⟩, rest)

end CallTrace
