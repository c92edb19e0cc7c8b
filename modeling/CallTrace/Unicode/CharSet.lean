/-!
# Sets of characters as ranges of code points

`CharSet` lists ranges of code points in any order, overlapping or not; what a set holds is said
by `CharSet.has`. A difference is cut out of the ranges one by one, and holds what it should
whichever way they are arranged (`has_diff`, `mem_compl`).

`CharSet.ofText` reads the notation of the tables: code points and ranges in hexadecimal,
separated by blanks or line ends; `100-12E/2` is every second code point from 100 to 12E.
-/

namespace CallTrace.Unicode

/-! ## Ranges -/

/-- The code points from `first` to `last`, both included. -/
structure CodeRange where
  first : Nat
  last : Nat
deriving DecidableEq, Repr

def maxCodePoint : Nat := 0x10FFFF

def CodeRange.has (r : CodeRange) (n : Nat) : Bool :=
  decide (r.first ≤ n) && decide (n ≤ r.last)

/-- What is left of a range when a hole is cut out of it: a part below and a part above. -/
def CodeRange.cut (hole r : CodeRange) : List CodeRange :=
  (if r.first < hole.first then [⟨r.first, min r.last (hole.first - 1)⟩] else []) ++
    (if hole.last < r.last then [⟨max r.first (hole.last + 1), r.last⟩] else [])

/-- The code points common to two ranges. -/
def CodeRange.meet (a b : CodeRange) : CodeRange :=
  ⟨max a.first b.first, min a.last b.last⟩

theorem CodeRange.any_cut (hole r : CodeRange) (n : Nat) :
    ((CodeRange.cut hole r).any (·.has n)) = (r.has n && !hole.has n) := by
  rw [Bool.eq_iff_iff]
  unfold CodeRange.cut
  split <;> split <;>
    simp [CodeRange.has, -decide_eq_true_eq, decide_eq_true_iff] <;> omega

/-! ## Sets -/

/-- A set of characters: the code points of its ranges. -/
structure CharSet where
  ranges : List CodeRange
deriving DecidableEq, Repr

namespace CharSet

def has (s : CharSet) (n : Nat) : Bool := s.ranges.any (·.has n)

def contains (s : CharSet) (c : Char) : Bool := s.has c.toNat

instance : Membership Char CharSet := ⟨fun s c => s.contains c = true⟩

instance (c : Char) (s : CharSet) : Decidable (c ∈ s) :=
  inferInstanceAs (Decidable (s.contains c = true))

def empty : CharSet := ⟨[]⟩

def all : CharSet := ⟨[⟨0, maxCodePoint⟩]⟩

/-- The code points from `a` to `b`. -/
def range (a b : Nat) : CharSet := ⟨[⟨a, b⟩]⟩

def single (c : Char) : CharSet := range c.toNat c.toNat

def ofChars (cs : List Char) : CharSet := ⟨cs.map fun c => ⟨c.toNat, c.toNat⟩⟩

def union (s t : CharSet) : CharSet := ⟨s.ranges ++ t.ranges⟩

/-- The characters of `s` that are not in `t`. -/
def diff (s t : CharSet) : CharSet :=
  ⟨t.ranges.foldl (fun rs hole => rs.flatMap (CodeRange.cut hole)) s.ranges⟩

def compl (s : CharSet) : CharSet := all.diff s

def inter (s t : CharSet) : CharSet :=
  ⟨s.ranges.flatMap fun a => (t.ranges.map (CodeRange.meet a)).filter fun r => r.first ≤ r.last⟩

/-- The characters in exactly one of the two sets. -/
def symmDiff (s t : CharSet) : CharSet := (s.diff t).union (t.diff s)

def unions (ss : List CharSet) : CharSet := ⟨ss.flatMap ranges⟩

/-- Puts a range before the first that starts later. -/
def insertRange (r : CodeRange) : List CodeRange → List CodeRange
  | [] => [r]
  | b :: rest => if r.first ≤ b.first then r :: b :: rest else b :: insertRange r rest

/-- Joins a range with those that follow it, sorted, as far as they touch. -/
def joinOnto (a : CodeRange) : List CodeRange → List CodeRange
  | [] => [a]
  | b :: rest =>
    if b.first ≤ a.last + 1 then joinOnto ⟨a.first, max a.last b.last⟩ rest
    else a :: joinOnto b rest

/-- Joins the ranges of a sorted list that touch. -/
def coalesce : List CodeRange → List CodeRange
  | [] => []
  | a :: rest => joinOnto a rest

/-- The same set with its ranges sorted, apart from each other and not empty. -/
def normalize (s : CharSet) : CharSet :=
  ⟨coalesce ((s.ranges.filter fun r => r.first ≤ r.last).foldr insertRange [])⟩

/-! ## Differences -/

theorem any_flatMap_cut (n : Nat) (hole : CodeRange) (rs : List CodeRange) :
    ((rs.flatMap (CodeRange.cut hole)).any (·.has n)) = (rs.any (·.has n) && !hole.has n) := by
  induction rs with
  | nil => rfl
  | cons r rs ih =>
    rw [List.flatMap_cons, List.any_append, ih, CodeRange.any_cut, List.any_cons]
    cases r.has n <;> cases hole.has n <;> simp

theorem any_foldl_cut (n : Nat) (holes rs : List CodeRange) :
    ((holes.foldl (fun rs hole => rs.flatMap (CodeRange.cut hole)) rs).any (·.has n)) =
      (rs.any (·.has n) && !holes.any (·.has n)) := by
  induction holes generalizing rs with
  | nil => simp
  | cons hole holes ih =>
    rw [List.foldl_cons, ih, any_flatMap_cut, List.any_cons]
    cases rs.any (·.has n) <;> cases hole.has n <;> simp

theorem has_diff (s t : CharSet) (n : Nat) : (s.diff t).has n = (s.has n && !t.has n) :=
  any_foldl_cut n t.ranges s.ranges

theorem has_all {n : Nat} (h : n ≤ maxCodePoint) : all.has n = true := by
  simp [all, has, CodeRange.has, h]

theorem mem_iff (c : Char) (s : CharSet) : c ∈ s ↔ s.has c.toNat = true := Iff.rfl

theorem mem_compl (c : Char) (s : CharSet) : c ∈ s.compl ↔ c ∉ s := by
  have hvalid : c.toNat < 0xD800 ∨ 0xDFFF < c.toNat ∧ c.toNat < 0x110000 := c.valid
  have hc : c.toNat ≤ maxCodePoint := by
    unfold maxCodePoint
    omega
  rw [mem_iff, mem_iff, compl, has_diff, has_all hc, Bool.true_and, Bool.not_eq_true',
    Bool.eq_false_iff]

/-! ## The notation of the tables -/

/-- The value of a hexadecimal digit, or `none` for another character. -/
def hexValue? (c : Char) : Option Nat :=
  if '0' ≤ c ∧ c ≤ '9' then some (c.toNat - '0'.toNat)
  else if 'a' ≤ c ∧ c ≤ 'f' then some (c.toNat - 'a'.toNat + 10)
  else if 'A' ≤ c ∧ c ≤ 'F' then some (c.toNat - 'A'.toNat + 10)
  else none

/-- A number written in hexadecimal; characters that are no digits are passed over. -/
def hexNumber (cs : List Char) : Nat :=
  cs.foldl (fun n c => match hexValue? c with | some d => 16 * n + d | none => n) 0

/-- The ranges of one entry: `A`, `A-B` or `A-B/2`. -/
def entryRanges (entry : List Char) : List CodeRange :=
  let first := hexNumber (entry.takeWhile (· != '-'))
  match entry.dropWhile (· != '-') with
  | [] => [⟨first, first⟩]
  | _ :: more =>
    let last := hexNumber (more.takeWhile (· != '/'))
    match more.dropWhile (· != '/') with
    | [] => [⟨first, last⟩]
    | _ => (List.range ((last - first) / 2 + 1)).map fun i => ⟨first + 2 * i, first + 2 * i⟩

/-- The pieces of a text between its blanks and line ends. -/
def splitBlanks (cs : List Char) : List (List Char) :=
  cs.foldr (fun c ws => if c = ' ' ∨ c = '\n' then [] :: ws else
    match ws with
    | [] => [[c]]
    | w :: ws => (c :: w) :: ws) [[]]

/-- The set that a table entry describes. -/
def ofText (text : String) : CharSet :=
  ⟨((splitBlanks text.toList).filter (· ≠ [])).flatMap entryRanges⟩

end CharSet

end CallTrace.Unicode
