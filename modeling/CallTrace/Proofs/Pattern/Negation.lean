import CallTrace.Pattern.Parser

/-!
# What negated sets match

A pattern text negates a set of characters in three ways: by a `^` at the start of a class, by the
capitals of the letter escapes, and by `P` in front of a name.  Each is read as far as the text
without the negation and gives the opposite set (`readBracket_negated`, `readEscape_negated`), so
at every character of a module name just one of the two matches (`Opposite.matches_iff`).  Case
does not come into it: where it does not count, a set is closed under case before it is negated.
-/

namespace CallTrace

open Unicode

/-! ## Opposite sets -/

/-- Each character is in one of the sets and not in the other. -/
def Opposite (s t : CharSet) : Prop := ∀ c : Char, c ∈ s ↔ c ∉ t

theorem opposite_compl (s : CharSet) : Opposite s.compl s := fun c => CharSet.mem_compl c s

variable {s t : CharSet} {f : Flags} {cs rest : List Char}

theorem Opposite.symm (h : Opposite s t) : Opposite t s := fun c => by rw [h c, Decidable.not_not]

theorem matches_chars_iff {text : List Char} {i j : Nat} :
    Matches text (.chars s) i j ↔ j = i + 1 ∧ ∃ c, text[i]? = some c ∧ c ∈ s := by
  constructor
  · intro h
    cases h with
    | chars hc hmem => exact ⟨rfl, _, hc, hmem⟩
  · rintro ⟨rfl, c, hc, hmem⟩
    exact .chars hc hmem

/-- **Negation.**  At each character of a text just one of two opposite sets matches. -/
theorem Opposite.matches_iff (h : Opposite s t) (text : List Char) (i : Nat) :
    Matches text (.chars s) i (i + 1) ↔ i < text.length ∧ ¬ Matches text (.chars t) i (i + 1) := by
  rw [matches_chars_iff, matches_chars_iff]
  constructor
  · rintro ⟨-, c, hc, hs⟩
    refine ⟨(List.getElem?_eq_some_iff.1 hc).1, ?_⟩
    rintro ⟨-, d, hd, ht⟩
    cases hc.symm.trans hd
    exact (h c).1 hs ht
  · rintro ⟨hi, hnot⟩
    refine ⟨rfl, text[i], List.getElem?_eq_getElem hi, (h _).2 fun ht => ?_⟩
    exact hnot ⟨rfl, text[i], List.getElem?_eq_getElem hi, ht⟩

/-! ## Sets under the flags -/

theorem closeAndNegate_not (hf : f.on .unicode = true) {negated : Bool}
    (h : closeAndNegate f negated s = some t) :
    ∃ u, closeAndNegate f (!negated) s = some u ∧ Opposite t u := by
  unfold closeAndNegate at h ⊢
  rw [if_pos hf] at h ⊢
  cases h
  cases negated with
  | false => exact ⟨_, rfl, (opposite_compl _).symm⟩
  | true => exact ⟨_, rfl, opposite_compl _⟩

/-- There are no negated sets outside Unicode mode. -/
theorem unicode_of_closeAndNegate (h : closeAndNegate f true s = some t) :
    f.on .unicode = true := by
  cases hf : f.on .unicode with
  | true => rfl
  | false =>
    rw [closeAndNegate, hf] at h
    cases h

/-! ## Classes -/

theorem skipBlanks_caret (f : Flags) (cs : List Char) : skipBlanks f ('^' :: cs) = '^' :: cs := by
  have hcaret : isWhiteSpace '^' = false := by decide
  unfold skipBlanks skipVerbose
  rw [hcaret]
  split <;> rfl

theorem readCaret_caret (f : Flags) (cs : List Char) :
    readCaret f ('^' :: cs) = (true, skipBlanks f cs) := by
  rw [readCaret, skipBlanks_caret]
  rfl

theorem readCaret_of_ne (h : (skipBlanks f cs).head? ≠ some '^') :
    readCaret f cs = (false, skipBlanks f cs) := by
  unfold readCaret
  split
  · next hcs =>
    rw [hcs] at h
    exact absurd rfl h
  · rfl

/-- A class with a `^` in front is read as far as without it, and gives the opposite set. -/
theorem readBracket_negated (hcaret : (skipBlanks f cs).head? ≠ some '^') {set : DeepSet}
    (h : readBracket f ('^' :: cs) = some (set, rest)) :
    ∃ plain, readBracket f cs = some (plain, rest) ∧ plain.depth = set.depth ∧
      Opposite set.chars plain.chars := by
  unfold readBracket readOpening at h ⊢
  rw [readCaret_caret] at h
  rw [readCaret_of_ne hcaret]
  dsimp only at h ⊢
  generalize readOpeningItems f (skipBlanks f cs) = opening at h ⊢
  cases hbody : readClassBody f (opening.2.length + 1) opening.1 none opening.2 with
  | none =>
    rw [hbody] at h
    cases h
  | some read =>
    rw [hbody] at h
    obtain ⟨t, ht, hset⟩ := Option.map_eq_some_iff.1 h
    cases hset
    obtain ⟨u, hu, hopposite⟩ := closeAndNegate_not (unicode_of_closeAndNegate ht) ht
    refine ⟨⟨u, read.1.depth + 1⟩, ?_, rfl, hopposite⟩
    exact congrArg (Option.map fun s => (DeepSet.mk s (read.1.depth + 1), read.2)) hu

/-! ## Escapes -/

theorem readNamedSet_negated (h : readNamedSet f true cs = some (t, rest)) :
    ∃ u, readNamedSet f false cs = some (u, rest) ∧ Opposite t u := by
  unfold readNamedSet at h ⊢
  cases hname : readSetName f cs with
  | none =>
    rw [hname] at h
    cases h
  | some named =>
    obtain ⟨s, unequal, after⟩ := named
    rw [hname] at h
    dsimp only at h ⊢
    split at h
    · next hf =>
      obtain ⟨t', ht', hset⟩ := Option.map_eq_some_iff.1 h
      cases hset
      obtain ⟨u, hu, hopposite⟩ := closeAndNegate_not hf ht'
      have hnot : (!(true != unequal)) = (false != unequal) := by cases unequal <;> rfl
      rw [hnot] at hu
      exact ⟨u, by rw [if_pos hf, hu]; rfl, hopposite⟩
    · cases h

theorem opposite_modeSet {unicode ascii : CharSet} (h : modeSet f true unicode ascii = some t) :
    ∃ u, modeSet f false unicode ascii = some u ∧ Opposite t u := by
  unfold modeSet at h ⊢
  split at h
  · next hf =>
    cases h
    exact ⟨unicode, by rw [if_pos hf]; rfl, opposite_compl unicode⟩
  · cases h

theorem readEscape_of_letterSet {c : Char} {set : Option CharSet} (h : letterSet? f c = some set)
    (cs : List Char) : readEscape f (c :: cs) = set.map fun s => (.set s, cs) := by
  unfold readEscape
  dsimp only
  rw [h]

/-- A letter escape and its capital. -/
theorem readEscape_letter {letter capital : Char} {unicode ascii : CharSet}
    (hletter : letterSet? f letter = some (modeSet f false unicode ascii))
    (hcapital : letterSet? f capital = some (modeSet f true unicode ascii))
    (h : readEscape f (capital :: cs) = some (.set t, rest)) :
    ∃ u, readEscape f (letter :: cs) = some (.set u, rest) ∧ Opposite t u := by
  rw [readEscape_of_letterSet hcapital] at h
  rw [readEscape_of_letterSet hletter]
  obtain ⟨t', ht', hset⟩ := Option.map_eq_some_iff.1 h
  cases hset
  obtain ⟨u, hu, hopposite⟩ := opposite_modeSet ht'
  exact ⟨u, by rw [hu]; rfl, hopposite⟩

/-- A capital is read as far as its letter, and gives the opposite set. -/
theorem readEscape_negated {letter capital : Char}
    (hpair : (letter, capital) ∈ [('d', 'D'), ('s', 'S'), ('w', 'W'), ('p', 'P')])
    (h : readEscape f (capital :: cs) = some (.set t, rest)) :
    ∃ u, readEscape f (letter :: cs) = some (.set u, rest) ∧ Opposite t u := by
  simp only [List.mem_cons, List.not_mem_nil, or_false, Prod.mk.injEq] at hpair
  rcases hpair with ⟨rfl, rfl⟩ | ⟨rfl, rfl⟩ | ⟨rfl, rfl⟩ | ⟨rfl, rfl⟩
  · exact readEscape_letter rfl rfl h
  · exact readEscape_letter rfl rfl h
  · exact readEscape_letter rfl rfl h
  · have hcapital : readEscape f ('P' :: cs) = (readNamedSet f true cs).map _ := rfl
    rw [hcapital] at h
    obtain ⟨⟨t', rest'⟩, ht', hset⟩ := Option.map_eq_some_iff.1 h
    cases hset
    obtain ⟨u, hu, hopposite⟩ := readNamedSet_negated ht'
    refine ⟨u, ?_, hopposite⟩
    exact congrArg (Option.map fun p => (Escape.set p.1, p.2)) hu

end CallTrace
