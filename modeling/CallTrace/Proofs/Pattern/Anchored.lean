import CallTrace.Proofs.Pattern.Bounds

/-!
# Module filters match at the very start

A filter follows all ways to match from position 0.  It could as well search for the pattern
anywhere and look where the match starts: `SearchAnswer` is what a search may answer if it reports
a match with the least start, whichever of these matches it prefers.  Both ways a module passes
exactly if the pattern can match from its start (`passes_iff_matches_at_start`).
-/

namespace CallTrace

variable {text : List Char} {p : Pattern}

/-! ## Searches -/

/-- What a search for the pattern may answer: start and end of a match, with no match that starts
before it, or nothing if there is no match at all. -/
inductive SearchAnswer (text : List Char) (p : Pattern) : Option (Nat × Nat) → Prop
  | found {i j : Nat} (within : i ≤ text.length) (isMatch : Matches text p i j)
      (least : ∀ i' j', i' < i → ¬ Matches text p i' j') : SearchAnswer text p (some (i, j))
  | missed (noMatch : ∀ i j, i ≤ text.length → ¬ Matches text p i j) : SearchAnswer text p none

/-- A match is found at position 0 if there is one. -/
theorem SearchAnswer.starts_iff {answer : Option (Nat × Nat)} (h : SearchAnswer text p answer) :
    (answer.any fun found => found.1 == 0) = true ↔ ∃ j, Matches text p 0 j := by
  cases h with
  | @found i j within isMatch least =>
    rw [Option.any_some, beq_iff_eq]
    constructor
    · rintro rfl
      exact ⟨j, isMatch⟩
    · rintro ⟨j', hstart⟩
      refine Decidable.byContradiction fun hi => ?_
      exact least 0 j' (Nat.pos_of_ne_zero hi) hstart
  | missed noMatch =>
    constructor
    · intro h
      cases h
    · rintro ⟨j, hstart⟩
      exact absurd hstart (noMatch 0 j (Nat.zero_le _))

/-! ## A search by reached positions -/

/-- Whether a match is reached from the position. -/
def Pattern.matchesFrom (p : Pattern) (text : List Char) (i : Nat) : Bool :=
  p.reach text (1 <<< i) != 0

/-- The first position from which a match is reached, with the last position that it reaches. -/
def Pattern.searchLongest (p : Pattern) (text : List Char) : Option (Nat × Nat) :=
  ((List.range (text.length + 1)).find? (p.matchesFrom text)).map fun i =>
    (i, (p.reach text (1 <<< i)).log2)

/-- What is reached from a single position. -/
theorem testBit_reach_shift (hp : p.BoundsOrdered) {i : Nat} (hi : i ≤ text.length) (j : Nat) :
    (p.reach text (1 <<< i)).testBit j = true ↔ Matches text p i j := by
  have honly : ∀ m, (1 <<< i).testBit m = true ↔ m = i := by
    intro m
    rw [Nat.one_shiftLeft, Nat.testBit_two_pow, decide_eq_true_eq, eq_comm]
  have hwithin : WithinText text (1 <<< i) := by
    intro m hm
    rw [(honly m).1 hm]
    exact hi
  rw [testBit_reach hp hwithin]
  constructor
  · rintro ⟨m, hm, hmatch⟩
    rw [(honly m).1 hm] at hmatch
    exact hmatch
  · intro hmatch
    exact ⟨i, (honly i).2 rfl, hmatch⟩

theorem matchesFrom_iff (hp : p.BoundsOrdered) {i : Nat} (hi : i ≤ text.length) :
    p.matchesFrom text i = true ↔ ∃ j, Matches text p i j := by
  rw [Pattern.matchesFrom, bne_iff_ne]
  constructor
  · intro hne
    obtain ⟨j, hj⟩ := Nat.exists_testBit_of_ne_zero hne
    exact ⟨j, (testBit_reach_shift hp hi j).1 hj⟩
  · rintro ⟨j, hmatch⟩ hzero
    have hj := (testBit_reach_shift hp hi j).2 hmatch
    rw [hzero, Nat.zero_testBit] at hj
    cases hj

theorem searchAnswer_searchLongest (hp : p.BoundsOrdered) (text : List Char) :
    SearchAnswer text p (p.searchLongest text) := by
  unfold Pattern.searchLongest
  cases hfirst : (List.range (text.length + 1)).find? (p.matchesFrom text) with
  | none =>
    refine .missed fun i j hi hmatch => ?_
    have hnone := List.find?_range_eq_none.1 hfirst i (Nat.lt_succ_of_le hi)
    rw [(matchesFrom_iff hp hi).2 ⟨j, hmatch⟩] at hnone
    cases hnone
  | some i =>
    obtain ⟨hfrom, hmem, hbefore⟩ := List.find?_range_eq_some.1 hfirst
    have hi : i ≤ text.length := Nat.le_of_lt_succ (List.mem_range.1 hmem)
    have hlast := Nat.testBit_log2 (bne_iff_ne.1 hfrom)
    refine .found hi ((testBit_reach_shift hp hi _).1 hlast) fun i' j' hlt hmatch => ?_
    have hnone := hbefore i' hlt
    rw [(matchesFrom_iff hp (by omega)).2 ⟨j', hmatch⟩] at hnone
    cases hnone

/-! ## Filters -/

namespace ModuleFilter

/-- The filter that searches for the pattern and looks where the match starts. -/
def passesBySearch (find : Pattern → List Char → Option (Nat × Nat)) (f : ModuleFilter)
    (module : String) : Bool :=
  match f with
  | .any => true
  | .startingWith p => (find p module.toList).any fun found => found.1 == 0

/-- **A module passes exactly if the pattern matches from its very start.**  An accepted text
describes a pattern, and what passes is decided by which matches there are.  In particular any
search that reports a match with the least start decides the same, whichever alternative or number
of repetitions it prefers. -/
theorem passes_iff_matches_at_start (text : String) (f : ModuleFilter) (h : ofText text = .ok f) :
    ∃ p, Pattern.compile? text = some p ∧ ∀ module : String,
      (f.passes module = true ↔ ∃ j, Matches module.toList p 0 j) ∧
      ∀ find, SearchAnswer module.toList p (find p module.toList) →
        f.passesBySearch find module = f.passes module := by
  unfold ofText at h
  cases hcompile : Pattern.compile? text with
  | none =>
    rw [hcompile] at h
    cases h
  | some p =>
    rw [hcompile] at h
    cases h
    refine ⟨p, rfl, fun module => ?_⟩
    have hpasses : (startingWith p).passes module = true ↔ ∃ j, Matches module.toList p 0 j :=
      matchesStart_iff (boundsOrdered_of_compile? hcompile) module.toList
    refine ⟨hpasses, fun find hfind => ?_⟩
    have hsearch : (startingWith p).passesBySearch find module = true ↔ _ := hfind.starts_iff
    rw [Bool.eq_iff_iff, hsearch, hpasses]

/-- A reluctant repetition, and alternatives one of which ends with the other.  In the first name
the match starts at once.  In the second one there is a match too, but it starts at position 1. -/
theorem passes_iff_matches_at_start_reluctant :
    let text := "a*?(?:b|ab)"
    let a : Pattern := .chars (.single 'a')
    let b : Pattern := .chars (.single 'b')
    let p : Pattern := .concat (.rep a 0 none false) (.alt b (.concat a b))
    let f : ModuleFilter := .startingWith p
    ofText text = .ok f ∧ Pattern.compile? text = some p ∧
      p.searchLongest "aab".toList = some (0, 3) ∧ p.searchLongest "caab".toList = some (1, 4) ∧
      f.passesBySearch Pattern.searchLongest "aab" = f.passes "aab" ∧
      f.passesBySearch Pattern.searchLongest "caab" = f.passes "caab" ∧
      (∃ j, Matches "aab".toList p 0 j) ∧ ¬ ∃ j, Matches "caab".toList p 0 j := by
  intro text a b p f
  have hcompile : Pattern.compile? text = some p := by decide
  have htext : ofText text = .ok f := by rw [ofText, hcompile]
  obtain ⟨p', hcompile', hpasses⟩ := passes_iff_matches_at_start text f htext
  cases hcompile.symm.trans hcompile'
  have hp : p.BoundsOrdered := boundsOrdered_of_compile? hcompile
  have hsearch : ∀ module : String, SearchAnswer module.toList p (p.searchLongest module.toList) :=
    fun module => searchAnswer_searchLongest hp module.toList
  obtain ⟨hfirst, hfirstSearch⟩ := hpasses "aab"
  obtain ⟨hsecond, hsecondSearch⟩ := hpasses "caab"
  refine ⟨htext, hcompile, by decide, by decide, hfirstSearch _ (hsearch _),
    hsecondSearch _ (hsearch _), hfirst.1 (by decide), ?_⟩
  rw [← hsecond]
  decide

end ModuleFilter

end CallTrace
