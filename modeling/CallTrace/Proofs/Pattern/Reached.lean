import CallTrace.Pattern.Reach

/-!
# Reached positions are those that match

Following all ways to match at once reaches exactly the positions up to which the pattern can
match (`testBit_reach`).  Repetitions are the only case with an argument in it.  A repetition is a
chain of matches, one end being the next start (`Chain`), and a chain may be as long as it likes,
while the rounds that are followed are bounded by the text.  But matches never go back, and those
that do not go forward can be left out of a chain (`Chain.shorten`).
-/

namespace CallTrace

open Unicode

variable {text : List Char}

/-! ## Sets of positions -/

theorem testBit_bitOf_add (b : Bool) (rest i : Nat) :
    (bitOf b + 2 * rest).testBit i = if i = 0 then b else rest.testBit (i - 1) := by
  cases i with
  | zero => cases b <;> simp [bitOf, Nat.testBit_zero, Nat.add_mod]
  | succ i =>
    have hhalf : (bitOf b + 2 * rest) / 2 = rest := by
      have hle : bitOf b ≤ 1 := by cases b <;> decide
      omega
    rw [Nat.testBit_add_one, hhalf]
    rfl

theorem testBit_bitOf (b : Bool) (i : Nat) : (bitOf b).testBit i = (b && i = 0) := by
  have h := testBit_bitOf_add b 0 i
  rw [Nat.mul_zero, Nat.add_zero] at h
  rw [h]
  by_cases hi : i = 0 <;> simp [hi]

theorem testBit_maskOf (set : CharSet) (text : List Char) (i : Nat) :
    (maskOf set text).testBit i = true ↔ ∃ c, text[i]? = some c ∧ c ∈ set := by
  induction text generalizing i with
  | nil => simp [maskOf]
  | cons c rest ih =>
    rw [maskOf, testBit_bitOf_add]
    cases i with
    | zero =>
      show set.contains c = true ↔ ∃ d, some c = some d ∧ set.contains d = true
      simp
    | succ i => exact ih i

theorem testBit_lookMask (l : Look) (before : Option Char) (text : List Char) (i : Nat) :
    (lookMask l before text).testBit i = true ↔
      i ≤ text.length ∧ l.holds (if i = 0 then before else text[i - 1]?) text[i]? = true := by
  induction text generalizing before i with
  | nil =>
    rw [lookMask, testBit_bitOf]
    by_cases hi : i = 0 <;> simp [hi]
  | cons c rest ih =>
    rw [lookMask, testBit_bitOf_add]
    cases i with
    | zero => simp
    | succ i =>
      rw [if_neg (Nat.succ_ne_zero i), Nat.add_sub_cancel, ih]
      cases i <;> simp

theorem charBefore_eq (text : List Char) (i : Nat) :
    charBefore text i = if i = 0 then none else text[i - 1]? := by
  cases i <;> rfl

/-- The set holds positions of the text only, its end included. -/
def WithinText (text : List Char) (s : Nat) : Prop := ∀ i, s.testBit i = true → i ≤ text.length

/-! ## Where matches end -/

/-- A match does not go back, and does not go beyond the end. -/
theorem Matches.le_of_le_length {p : Pattern} {i j : Nat} (h : Matches text p i j)
    (hi : i ≤ text.length) : i ≤ j ∧ j ≤ text.length := by
  induction h with
  | empty | look | repDone => exact ⟨Nat.le_refl _, hi⟩
  | @chars set i c hc =>
    have hlt : i < text.length := (List.getElem?_eq_some_iff.1 hc).1
    omega
  | concat _ _ iha ihb | repMore _ _ _ iha ihb =>
    have ha := iha hi
    have hb := ihb ha.2
    omega
  | altLeft _ ih | altRight _ ih | capture _ ih => exact ih hi

/-! ## Chains of matches -/

/-- `Chain text p k i j`: from position `i`, `k` matches of `p` in a row lead to position `j`. -/
def Chain (text : List Char) (p : Pattern) : Nat → Nat → Nat → Prop
  | 0, i, j => i = j
  | k + 1, i, j => ∃ m, Chain text p k i m ∧ Matches text p m j

namespace Chain

variable {p : Pattern} {k i j m : Nat}

theorem append {k' : Nat} (h : Chain text p k i m) (h' : Chain text p k' m j) :
    Chain text p (k + k') i j := by
  induction k' generalizing j with
  | zero =>
    cases h'
    exact h
  | succ k' ih =>
    obtain ⟨m', hm', hlast⟩ := h'
    exact ⟨m', ih hm', hlast⟩

theorem cons (h : Matches text p i m) (h' : Chain text p k m j) : Chain text p (k + 1) i j := by
  rw [Nat.add_comm]
  exact append ⟨i, rfl, h⟩ h'

/-- The first match of a chain, split off. -/
theorem exists_cons (h : Chain text p (k + 1) i j) :
    ∃ m, Matches text p i m ∧ Chain text p k m j := by
  induction k generalizing j with
  | zero =>
    obtain ⟨m, rfl, hlast⟩ := h
    exact ⟨j, hlast, rfl⟩
  | succ k ih =>
    obtain ⟨m', hm', hlast⟩ := h
    obtain ⟨m, hfirst, hrest⟩ := ih hm'
    exact ⟨m, hfirst, m', hrest, hlast⟩

/-- A long chain, split after some of its matches. -/
theorem exists_append {k' : Nat} (h : Chain text p (k + k') i j) :
    ∃ m, Chain text p k i m ∧ Chain text p k' m j := by
  induction k' generalizing j with
  | zero => exact ⟨j, h, rfl⟩
  | succ k' ih =>
    obtain ⟨m', hm', hlast⟩ := h
    obtain ⟨m, hfirst, hrest⟩ := ih hm'
    exact ⟨m, hfirst, m', hrest, hlast⟩

theorem le_of_le_length (h : Chain text p k i j) (hi : i ≤ text.length) :
    i ≤ j ∧ j ≤ text.length := by
  induction k generalizing j with
  | zero =>
    cases h
    exact ⟨Nat.le_refl _, hi⟩
  | succ k ih =>
    obtain ⟨m, hm, hlast⟩ := h
    have hm' := ih hm
    have hj := hlast.le_of_le_length hm'.2
    omega

/-- Where a chain leads, a chain of no more matches than positions leads too: each of its matches
goes forward. -/
theorem shorten (h : Chain text p k i j) (hi : i ≤ text.length) :
    ∃ k', k' ≤ j - i ∧ Chain text p k' i j := by
  induction k generalizing j with
  | zero =>
    cases h
    exact ⟨0, Nat.zero_le _, rfl⟩
  | succ k ih =>
    obtain ⟨m, hm, hlast⟩ := h
    obtain ⟨k', hk', hshort⟩ := ih hm
    have hm' := hm.le_of_le_length hi
    have hj := hlast.le_of_le_length hm'.2
    by_cases hstill : m = j
    · subst hstill
      exact ⟨k', hk', hshort⟩
    · exact ⟨k' + 1, by omega, m, hshort, hlast⟩

end Chain

/-- A repetition is a chain with a number of matches that the bounds allow. -/
theorem matches_rep_iff {p : Pattern} {min : Nat} {max : Option Nat} {greedy : Bool} {i j : Nat} :
    Matches text (.rep p min max greedy) i j ↔
      ∃ k, min ≤ k ∧ (∀ m, max = some m → k ≤ m) ∧ Chain text p k i j := by
  constructor
  · intro h
    generalize hq : Pattern.rep p min max greedy = q at h
    induction h generalizing min max with
    | repDone =>
      cases hq
      exact ⟨0, Nat.le_refl 0, fun m _ => Nat.zero_le m, rfl⟩
    | @repMore p' min' max' greedy' i m j hmore hfirst hrest ihfirst ihrest =>
      cases hq
      obtain ⟨k, hmin, hmax, hchain⟩ := ihrest rfl
      refine ⟨k + 1, by omega, fun m hm => ?_, Chain.cons hfirst hchain⟩
      subst hm
      have hpos : m ≠ 0 := fun h0 => hmore (by rw [h0])
      have hk := hmax (m - 1) rfl
      omega
    | _ => cases hq
  · rintro ⟨k, hmin, hmax, hchain⟩
    induction k generalizing i min max with
    | zero =>
      cases hchain
      cases Nat.le_zero.1 hmin
      exact .repDone
    | succ k ih =>
      obtain ⟨m, hfirst, hrest⟩ := hchain.exists_cons
      refine .repMore (fun h0 => ?_) hfirst (ih (by omega) (fun m hm => ?_) hrest)
      · have := hmax 0 h0
        omega
      · obtain ⟨n, hn, rfl⟩ := Option.map_eq_some_iff.1 hm
        have := hmax n hn
        omega

/-! ## Rounds of matches -/

section
variable {p : Pattern} {f : Nat → Nat}
  (hf : ∀ s, WithinText text s → ∀ j, (f s).testBit j = true ↔
    ∃ i, s.testBit i = true ∧ Matches text p i j)
include hf

theorem withinText_step {s : Nat} (hs : WithinText text s) : WithinText text (f s) := by
  intro j hj
  obtain ⟨i, hi, hmatch⟩ := (hf s hs j).1 hj
  exact (hmatch.le_of_le_length (hs i hi)).2

/-- Exactly `k` rounds reach what chains of `k` matches reach. -/
theorem testBit_repeat {s : Nat} (hs : WithinText text s) (k : Nat) :
    WithinText text (Nat.repeat f k s) ∧ ∀ j, (Nat.repeat f k s).testBit j = true ↔
      ∃ i, s.testBit i = true ∧ Chain text p k i j := by
  induction k with
  | zero => exact ⟨hs, fun j => by simp [Nat.repeat, Chain]⟩
  | succ k ih =>
    obtain ⟨hwithin, hreach⟩ := ih
    refine ⟨withinText_step hf hwithin, fun j => ?_⟩
    rw [Nat.repeat, hf _ hwithin]
    constructor
    · rintro ⟨m, hm, hlast⟩
      obtain ⟨i, hi, hchain⟩ := (hreach m).1 hm
      exact ⟨i, hi, m, hchain, hlast⟩
    · rintro ⟨i, hi, m, hchain, hlast⟩
      exact ⟨m, (hreach m).2 ⟨i, hi, hchain⟩, hlast⟩

/-- Up to `k` rounds reach what chains of up to `k` matches reach. -/
theorem testBit_repeat_or {s : Nat} (hs : WithinText text s) (k : Nat) :
    WithinText text (Nat.repeat (fun t => t ||| f t) k s) ∧
      ∀ j, (Nat.repeat (fun t => t ||| f t) k s).testBit j = true ↔
        ∃ i, s.testBit i = true ∧ ∃ k', k' ≤ k ∧ Chain text p k' i j := by
  induction k with
  | zero =>
    refine ⟨hs, fun j => ?_⟩
    constructor
    · intro hj
      exact ⟨j, hj, 0, Nat.le_refl 0, rfl⟩
    · rintro ⟨i, hi, k', hk', hchain⟩
      cases Nat.le_zero.1 hk'
      cases hchain
      exact hi
  | succ k ih =>
    obtain ⟨hwithin, hreach⟩ := ih
    have hround : ∀ j, (Nat.repeat (fun t => t ||| f t) (k + 1) s).testBit j = true ↔
        ∃ i, s.testBit i = true ∧ ∃ k', k' ≤ k + 1 ∧ Chain text p k' i j := by
      intro j
      rw [Nat.repeat, Nat.testBit_or, Bool.or_eq_true, hf _ hwithin]
      constructor
      · rintro (hj | ⟨m, hm, hlast⟩)
        · obtain ⟨i, hi, k', hk', hchain⟩ := (hreach j).1 hj
          exact ⟨i, hi, k', by omega, hchain⟩
        · obtain ⟨i, hi, k', hk', hchain⟩ := (hreach m).1 hm
          exact ⟨i, hi, k' + 1, by omega, m, hchain, hlast⟩
      · rintro ⟨i, hi, k', hk', hchain⟩
        by_cases hshort : k' ≤ k
        · exact .inl ((hreach j).2 ⟨i, hi, k', hshort, hchain⟩)
        · obtain ⟨k, rfl⟩ : ∃ n, k' = n + 1 := ⟨k' - 1, by omega⟩
          obtain ⟨m, hm, hlast⟩ := hchain
          exact .inr ⟨m, (hreach m).2 ⟨i, hi, k, by omega, hm⟩, hlast⟩
    refine ⟨fun j hj => ?_, hround⟩
    obtain ⟨i, hi, k', -, hchain⟩ := (hround j).1 hj
    exact (hchain.le_of_le_length (hs i hi)).2

end

/-! ## All patterns -/

/-- No repetition asks for more matches than it allows. -/
def Pattern.BoundsOrdered : Pattern → Prop
  | .empty | .chars _ | .look _ => True
  | .concat a b | .alt a b => a.BoundsOrdered ∧ b.BoundsOrdered
  | .rep p min max _ => (∀ m, max = some m → min ≤ m) ∧ p.BoundsOrdered
  | .capture p => p.BoundsOrdered

/-- A repetition reaches what its chains reach, once its body does so for single matches. -/
theorem testBit_reach_rep {p : Pattern} {min : Nat} {max : Option Nat} {greedy : Bool}
    (hbounds : ∀ m, max = some m → min ≤ m)
    (hp : ∀ s, WithinText text s → ∀ j, (p.reach text s).testBit j = true ↔
      ∃ i, s.testBit i = true ∧ Matches text p i j)
    {s : Nat} (hs : WithinText text s) (j : Nat) :
    ((Pattern.rep p min max greedy).reach text s).testBit j = true ↔
      ∃ i, s.testBit i = true ∧ Matches text (.rep p min max greedy) i j := by
  obtain ⟨hwithin, hfirst⟩ := testBit_repeat hp hs min
  simp only [matches_rep_iff, Pattern.reach, iterate_eq_repeat]
  rw [(testBit_repeat_or hp hwithin _).2]
  constructor
  · rintro ⟨m, hm, k', hk', hmore⟩
    obtain ⟨i, hi, hchain⟩ := (hfirst m).1 hm
    refine ⟨i, hi, min + k', by omega, fun n hn => ?_, hchain.append hmore⟩
    subst hn
    have hle := hbounds n rfl
    simp only at hk'
    omega
  · rintro ⟨i, hi, k, hmin, hmax, hchain⟩
    obtain ⟨k', rfl⟩ : ∃ k', k = min + k' := ⟨k - min, by omega⟩
    obtain ⟨m, hm, hmore⟩ := hchain.exists_append
    have hin := hm.le_of_le_length (hs i hi)
    refine ⟨m, (hfirst m).2 ⟨i, hi, hm⟩, ?_⟩
    cases max with
    | some n =>
      have hle := hmax n rfl
      have hrounds : k' ≤ n - min := by omega
      exact ⟨k', hrounds, hmore⟩
    | none =>
      -- as many rounds as there are positions are enough
      obtain ⟨short, hshort, hchain'⟩ := hmore.shorten hin.2
      have hj := hmore.le_of_le_length hin.2
      have hrounds : short ≤ text.length + 1 := by omega
      exact ⟨short, hrounds, hchain'⟩

/-- What is reached from a set of positions is what matches from one of them. -/
theorem testBit_reach {p : Pattern} (hp : p.BoundsOrdered) {s : Nat} (hs : WithinText text s)
    (j : Nat) :
    (p.reach text s).testBit j = true ↔ ∃ i, s.testBit i = true ∧ Matches text p i j := by
  induction p generalizing s j with
  | empty =>
    constructor
    · intro hj
      exact ⟨j, hj, .empty⟩
    · rintro ⟨i, hi, hmatch⟩
      cases hmatch
      exact hi
  | chars set =>
    rw [Pattern.reach, Nat.testBit_shiftLeft, Bool.and_eq_true, Nat.testBit_and, Bool.and_eq_true,
      testBit_maskOf]
    constructor
    · rintro ⟨hpos, hi, c, hc, hset⟩
      have hsucc : j - 1 + 1 = j := Nat.sub_add_cancel (of_decide_eq_true hpos)
      have hmatch : Matches text (.chars set) (j - 1) (j - 1 + 1) := .chars hc hset
      rw [hsucc] at hmatch
      exact ⟨j - 1, hi, hmatch⟩
    · rintro ⟨i, hi, hmatch⟩
      cases hmatch with
      | chars hc hset => exact ⟨by simp, hi, _, hc, hset⟩
  | look l =>
    rw [Pattern.reach, Nat.testBit_and, Bool.and_eq_true, testBit_lookMask, ← charBefore_eq]
    constructor
    · rintro ⟨hj, -, hholds⟩
      exact ⟨j, hj, .look hholds⟩
    · rintro ⟨i, hi, hmatch⟩
      cases hmatch with
      | look hholds => exact ⟨hi, hs j hi, hholds⟩
  | concat a b iha ihb =>
    have hmid : WithinText text (a.reach text s) := withinText_step (fun s hs j => iha hp.1 hs j) hs
    rw [Pattern.reach, ihb hp.2 hmid]
    constructor
    · rintro ⟨m, hm, hb⟩
      obtain ⟨i, hi, ha⟩ := (iha hp.1 hs m).1 hm
      exact ⟨i, hi, .concat ha hb⟩
    · rintro ⟨i, hi, hmatch⟩
      cases hmatch with
      | concat ha hb => exact ⟨_, (iha hp.1 hs _).2 ⟨i, hi, ha⟩, hb⟩
  | alt a b iha ihb =>
    rw [Pattern.reach, Nat.testBit_or, Bool.or_eq_true, iha hp.1 hs, ihb hp.2 hs]
    constructor
    · rintro (⟨i, hi, hmatch⟩ | ⟨i, hi, hmatch⟩)
      · exact ⟨i, hi, .altLeft hmatch⟩
      · exact ⟨i, hi, .altRight hmatch⟩
    · rintro ⟨i, hi, hmatch⟩
      cases hmatch with
      | altLeft hmatch => exact .inl ⟨i, hi, hmatch⟩
      | altRight hmatch => exact .inr ⟨i, hi, hmatch⟩
  | rep p min max greedy ih => exact testBit_reach_rep hp.1 (fun s hs j => ih hp.2 hs j) hs j
  | capture p ih =>
    rw [Pattern.reach, ih hp hs]
    constructor
    · rintro ⟨i, hi, hmatch⟩
      exact ⟨i, hi, .capture hmatch⟩
    · rintro ⟨i, hi, hmatch⟩
      cases hmatch with
      | capture hmatch => exact ⟨i, hi, hmatch⟩

/-- A pattern is found at the start if it can match from there. -/
theorem matchesStart_iff {p : Pattern} (hp : p.BoundsOrdered) (text : List Char) :
    p.matchesStart text = true ↔ ∃ j, Matches text p 0 j := by
  have hstart : ∀ i, (1 : Nat).testBit i = true ↔ i = 0 := fun i =>
    Nat.testBit_one_eq_true_iff_self_eq_zero
  have hwithin : WithinText text 1 := by
    intro i hi
    rw [(hstart i).1 hi]
    exact Nat.zero_le _
  rw [Pattern.matchesStart, bne_iff_ne]
  constructor
  · intro hne
    obtain ⟨j, hj⟩ := Nat.exists_testBit_of_ne_zero hne
    obtain ⟨i, hi, hmatch⟩ := (testBit_reach hp hwithin j).1 hj
    rw [(hstart i).1 hi] at hmatch
    exact ⟨j, hmatch⟩
  · rintro ⟨j, hmatch⟩ hzero
    have hj := (testBit_reach hp hwithin j).2 ⟨0, (hstart 0).2 rfl, hmatch⟩
    rw [hzero, Nat.zero_testBit] at hj
    cases hj

end CallTrace
