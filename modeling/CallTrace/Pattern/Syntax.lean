import CallTrace.Unicode.Property

/-!
# Patterns and what they match

`Pattern` is the syntax of module patterns once character classes, case and flags have been worked
out. `Matches text p i j` is the declarative reading: `p` can take the characters of `text` from
position `i` up to position `j`. Greediness is part of the syntax and not of the relation: it
orders the ways to match, it does not add or remove any.
-/

namespace CallTrace

open Unicode

/-! ## Assertions -/

/-- The edges of words that an assertion can ask for. -/
inductive WordEdge
  /-- A word character on one side only. -/
  | boundary
  /-- A word character on both sides or on none. -/
  | inside
  | opening
  | closing
  /-- No word character before. -/
  | openingHalf
  /-- No word character after. -/
  | closingHalf
deriving DecidableEq, Repr

/-- Assertions: they look at the characters around a position and take none. -/
inductive Look
  | textStart
  | textEnd
  | lineStart
  | lineEnd
  /-- Start of a line where a carriage return ends lines too. -/
  | lineStartCrlf
  | lineEndCrlf
  | word (edge : WordEdge)
  /-- The same with ASCII word characters only. -/
  | asciiWord (edge : WordEdge)
deriving DecidableEq, Repr

/-- Whether the edge lies between two sides, given which of them is a word character. -/
def WordEdge.holds (before after : Bool) : WordEdge → Bool
  | .boundary => before != after
  | .inside => before == after
  | .opening => !before && after
  | .closing => before && !after
  | .openingHalf => !before
  | .closingHalf => !after

def isAsciiWordChar (c : Char) : Bool := c.isAlphanum || c == '_'

def isWordChar (c : Char) : Bool := askTable isAsciiWordChar wordChars c

/-- Whether the assertion holds between the given characters; `none` stands for an end of the
text. -/
def Look.holds (before after : Option Char) : Look → Bool
  | .textStart => before.isNone
  | .textEnd => after.isNone
  | .lineStart => before.isNone || before == some '\n'
  | .lineEnd => after.isNone || after == some '\n'
  | .lineStartCrlf =>
    before.isNone || before == some '\n' || (before == some '\r' && after != some '\n')
  | .lineEndCrlf =>
    after.isNone || after == some '\r' || (after == some '\n' && before != some '\r')
  | .word edge => edge.holds (before.any isWordChar) (after.any isWordChar)
  | .asciiWord edge => edge.holds (before.any isAsciiWordChar) (after.any isAsciiWordChar)

/-! ## Patterns -/

inductive Pattern
  | empty
  /-- One character out of a set. -/
  | chars (set : CharSet)
  | look (l : Look)
  | concat (a b : Pattern)
  | alt (a b : Pattern)
  /-- At least `min` and, if given, at most `max` times. -/
  | rep (p : Pattern) (min : Nat) (max : Option Nat) (greedy : Bool)
  | capture (p : Pattern)
deriving DecidableEq, Repr

def charBefore (text : List Char) : Nat → Option Char
  | 0 => none
  | i + 1 => text[i]?

/-- `Matches text p i j`: from position `i` of the text, `p` can match up to position `j`. -/
inductive Matches (text : List Char) : Pattern → Nat → Nat → Prop
  | empty {i : Nat} : Matches text .empty i i
  | chars {set : CharSet} {i : Nat} {c : Char} :
      text[i]? = some c → c ∈ set → Matches text (.chars set) i (i + 1)
  | look {l : Look} {i : Nat} :
      l.holds (charBefore text i) text[i]? = true → Matches text (.look l) i i
  | concat {a b : Pattern} {i j k : Nat} :
      Matches text a i j → Matches text b j k → Matches text (.concat a b) i k
  | altLeft {a b : Pattern} {i j : Nat} : Matches text a i j → Matches text (.alt a b) i j
  | altRight {a b : Pattern} {i j : Nat} : Matches text b i j → Matches text (.alt a b) i j
  | repDone {p : Pattern} {max : Option Nat} {greedy : Bool} {i : Nat} :
      Matches text (.rep p 0 max greedy) i i
  | repMore {p : Pattern} {min : Nat} {max : Option Nat} {greedy : Bool} {i j k : Nat} :
      max ≠ some 0 → Matches text p i j →
      Matches text (.rep p (min - 1) (max.map (· - 1)) greedy) j k →
      Matches text (.rep p min max greedy) i k
  | capture {p : Pattern} {i j : Nat} : Matches text p i j → Matches text (.capture p) i j

end CallTrace
