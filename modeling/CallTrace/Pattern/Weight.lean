import CallTrace.Pattern.Syntax

/-!
# The weight of a pattern

How large a pattern becomes when its repetitions are written out: the bytes of a state machine
that reads UTF-8, with 32 bytes for a state, 8 for a transition of a class and 4 for an
alternative. Repetitions of what only matches the empty text are not written out, and a choice
between classes is one class.
-/

namespace CallTrace

open Unicode

/-! ## Classes in UTF-8 -/

/-- Ranges of consecutive bytes, one for each byte of an encoded character. -/
abbrev ByteSpan := List (Nat × Nat)

/-- The code points from `a` to `b` as spans over `n` trailing bytes and one leading part. -/
def spansOver : Nat → Nat → Nat → List ByteSpan
  | 0, a, b => [[(a, b)]]
  | n + 1, a, b =>
    let block := 64 ^ (n + 1)
    let first := a / block
    let last := b / block
    if first = last then (spansOver n (a % block) (b % block)).map ((first, first) :: ·)
    else
      let head := if a % block = 0 then []
        else (spansOver n (a % block) (block - 1)).map ((first, first) :: ·)
      let tail := if b % block = block - 1 then []
        else (spansOver n 0 (b % block)).map ((last, last) :: ·)
      let low := if a % block = 0 then first else first + 1
      let high := if b % block = block - 1 then last + 1 else last
      let middle := if low < high then [(low, high - 1) :: List.replicate (n + 1) (0, 63)] else []
      head ++ middle ++ tail

/-- The code points with encodings of each length, surrogates left out, and the number of trailing
bytes. -/
def encodingLengths : List (Nat × Nat × Nat) :=
  [(0x0, 0x7F, 0), (0x80, 0x7FF, 1), (0x800, 0xD7FF, 2), (0xE000, 0xFFFF, 2),
    (0x10000, 0x10FFFF, 3)]

/-- The spans of a range. A span of a longer encoding starts with a byte of its own, so that spans
of different lengths have nothing in common. -/
def rangeSpans (r : CodeRange) : List ByteSpan :=
  encodingLengths.flatMap fun (low, high, trailing) =>
    let a := max r.first low
    let b := min r.last high
    if a ≤ b then (spansOver trailing a b).map ((trailing, trailing) :: ·) else []

/-- The length of the part that two lists begin with in common. -/
def sharedLength {α : Type} [BEq α] : List α → List α → Nat
  | a :: as, b :: bs => if a == b then sharedLength as bs + 1 else 0
  | _, _ => 0

/-- The number of different beginnings of neighbouring spans, the lengths of encodings left
out. -/
def beginnings (previous : ByteSpan) : List ByteSpan → Nat
  | [] => 0
  | s :: rest => (s.length - max 1 (sharedLength previous s)) + beginnings s rest

/-- The number of bytes that encode the code point. -/
def encodedLength (n : Nat) : Nat :=
  if n < 0x80 then 1 else if n < 0x800 then 2 else if n < 0x10000 then 3 else 4

/-- The weight of a class. A single character is a chain of bytes, an ASCII class one state with
a transition for each range. -/
def Unicode.CharSet.weight (s : CharSet) : Nat :=
  match s.normalize.ranges with
  | [] => 32
  | ranges =>
    match ranges with
    | [r] =>
      if r.first = r.last then 32 * encodedLength r.first
      else if r.last < 128 then 72
      else
        let spans := rangeSpans r
        64 + 4 * spans.length + 32 * beginnings [] spans
    | ranges =>
      if ranges.all fun r => r.last < 128 then 64 + 8 * ranges.length
      else
        let spans := ranges.flatMap rangeSpans
        64 + 4 * spans.length + 32 * beginnings [] spans

namespace Pattern

/-! ## Patterns -/

/-- Whether the pattern matches nothing but the empty text. -/
def onlyEmpty : Pattern → Bool
  | .empty => true
  | .chars _ => false
  | .look _ => true
  | .concat a b => a.onlyEmpty && b.onlyEmpty
  | .alt a b => a.onlyEmpty && b.onlyEmpty
  | .rep p _ max _ => p.onlyEmpty || max == some 0
  | .capture p => p.onlyEmpty

/-- Whether every match takes at least one character. -/
def neverEmpty : Pattern → Bool
  | .empty => false
  | .chars _ => true
  | .look _ => false
  | .concat a b => a.neverEmpty || b.neverEmpty
  | .alt a b => a.neverEmpty && b.neverEmpty
  | .rep p min _ _ => decide (0 < min) && p.neverEmpty
  | .capture p => p.neverEmpty

/-- The class that a choice between single classes amounts to. -/
def asClass? : Pattern → Option CharSet
  | .chars s => some s
  | .alt a b =>
    match a.asClass?, b.asClass? with
    | some s, some t => some (s.union t)
    | _, _ => none
  | _ => none

/-- The weight of a repetition of something of weight `w`. -/
def repWeight (w : Nat) (neverEmpty : Bool) (min : Nat) : Option Nat → Nat
  | none =>
    if min = 0 then (if neverEmpty then w + 40 else w + 112)
    else min * w + 40
  | some max =>
    if max = 0 then 32
    else if min = max then min * w
    else if min = 0 ∧ max = 1 then w + 72
    else (if min = 0 then 32 else min * w) + 32 + (max - min) * (w + 40)

def weight : Pattern → Nat
  | .empty => 32
  | .chars s => s.weight
  | .look _ => 32
  | .concat .empty b => b.weight
  | .concat a .empty => a.weight
  | .concat a b => a.weight + b.weight
  | .alt a b =>
    match (Pattern.alt a b).asClass?, b with
    | some s, _ => s.weight
    | none, .alt _ _ => a.weight + 4 + b.weight
    | none, _ => a.weight + b.weight + 72
  | .rep p min max _ =>
    if p.onlyEmpty then
      repWeight p.weight false (Nat.min min 1) (some (Nat.min (max.getD 1) 1))
    else repWeight p.weight p.neverEmpty min max
  | .capture p => p.weight + 64

/-- The weight of what surrounds every pattern: the search for its start and the final state. -/
def frameWeight : Nat := 200

end Pattern

end CallTrace
