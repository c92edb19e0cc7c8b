import CallTrace.Pattern.Syntax

/-!
# Matching a pattern by the positions it reaches

A set of positions of a text is a number whose bits are the positions. `Pattern.reach text p s`
is the set of positions at which `p` can end when it starts at a position of `s`. Every way to
match is followed at once, so no choice between alternatives is ever taken back, and the work is
bounded by the size of the pattern and the length of the text.

A repetition is followed round by round until a round changes nothing; `iterate` stops there, and
further rounds could not change anything either (`iterate_eq_repeat`).
-/

namespace CallTrace

open Unicode

/-! ## Sets of positions -/

/-- The set of the position 0 if the condition holds, or the empty set. -/
def bitOf (b : Bool) : Nat := if b then 1 else 0

/-- The positions of the text with a character of the set. -/
def maskOf (set : CharSet) : List Char → Nat
  | [] => 0
  | c :: rest => bitOf (set.contains c) + 2 * maskOf set rest

/-- The positions at which the assertion holds, given the character before the text. -/
def lookMask (l : Look) (before : Option Char) : List Char → Nat
  | [] => bitOf (l.holds before none)
  | c :: rest => bitOf (l.holds before (some c)) + 2 * lookMask l (some c) rest

/-- Applies `f` up to `n` times, and stops once it changes nothing. -/
def iterate (f : Nat → Nat) : Nat → Nat → Nat
  | 0, s => s
  | n + 1, s => if f s = s then s else iterate f n (f s)

/-! ## Reached positions -/

/-- The positions at which the pattern can end when it starts at one of the given positions. -/
def Pattern.reach (text : List Char) : Pattern → Nat → Nat
  | .empty, s => s
  | .chars set, s => (s &&& maskOf set text) <<< 1
  | .look l, s => s &&& lookMask l none text
  | .concat a b, s => b.reach text (a.reach text s)
  | .alt a b, s => a.reach text s ||| b.reach text s
  | .rep p min max _, s =>
    let more := match max with
      | some m => m - min
      | none => text.length + 1
    iterate (fun t => t ||| p.reach text t) more (iterate (p.reach text) min s)
  | .capture p, s => p.reach text s

/-- Whether the pattern matches at the very start of the text. -/
def Pattern.matchesStart (p : Pattern) (text : List Char) : Bool := p.reach text 1 != 0

/-! ## Lemmas -/

/-- Stopping early changes nothing: `iterate` is `n` applications of `f`. -/
theorem iterate_eq_repeat (f : Nat → Nat) (n s : Nat) : iterate f n s = Nat.repeat f n s := by
  have shift : ∀ n s, Nat.repeat f n (f s) = Nat.repeat f (n + 1) s := by
    intro n
    induction n with
    | zero => intro s; rfl
    | succ n ih => intro s; rw [Nat.repeat, ih]; rfl
  induction n generalizing s with
  | zero => rfl
  | succ n ih =>
    rw [iterate]
    split
    · next h =>
      have fixed : ∀ n, Nat.repeat f n s = s := by
        intro n
        induction n with
        | zero => rfl
        | succ n ih => rw [Nat.repeat, ih, h]
      exact (fixed (n + 1)).symm
    · rw [ih, shift]

end CallTrace
