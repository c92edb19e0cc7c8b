import CallTrace.ModuleFilter
import CallTrace.Proofs.Pattern.Reached

/-!
# Bounds of repetitions that were read

A counted repetition whose lower bound exceeds the upper one is refused when a pattern is read, and
the other repetitions have fixed bounds.  So the bounds of every construct that is read are in order
(`boundsOrdered_nextConstruct`), and those of every accepted pattern (`boundsOrdered_of_compile?`).
-/

namespace CallTrace

/-! ## Parts -/

def PartsOrdered (parts : List Part) : Prop := ∀ q ∈ parts, q.pattern.BoundsOrdered

def ChoicesOrdered (done : List DeepPattern) : Prop := ∀ d ∈ done, d.pattern.BoundsOrdered

theorem partsOrdered_nil : PartsOrdered [] := fun _ h => nomatch h

theorem choicesOrdered_nil : ChoicesOrdered [] := fun _ h => nomatch h

theorem partsOrdered_cons {q : Part} {parts : List Part} (hq : q.pattern.BoundsOrdered)
    (h : PartsOrdered parts) : PartsOrdered (q :: parts) := by
  intro r hr
  rcases List.mem_cons.1 hr with rfl | hr
  · exact hq
  · exact h r hr

theorem boundsOrdered_sequenceOf {parts : List Part} (h : PartsOrdered parts) :
    (sequenceOf parts).pattern.BoundsOrdered := by
  match parts with
  | [] => trivial
  | [p] => exact h p List.mem_cons_self
  | p :: q :: rest =>
    refine List.foldlRecOn (q :: rest) _ (h p List.mem_cons_self) fun acc hacc r hr => ?_
    exact ⟨h r (List.mem_cons_of_mem p hr), hacc⟩

theorem boundsOrdered_choiceOf {last : DeepPattern} {done : List DeepPattern}
    (hlast : last.pattern.BoundsOrdered) (h : ChoicesOrdered done) :
    (choiceOf last done).pattern.BoundsOrdered := by
  match done with
  | [] => exact hlast
  | d :: rest =>
    refine List.foldlRecOn (d :: rest) _ hlast fun acc hacc r hr => ?_
    exact ⟨h r hr, hacc⟩

/-! ## Readers -/

theorem boundsOrdered_literalPattern {f : Flags} {c : Char} {asByte : Bool} {p : Pattern}
    (h : literalPattern f c asByte = some p) : p.BoundsOrdered := by
  unfold literalPattern at h
  dsimp only at h
  split at h
  · cases h
    trivial
  · split at h
    · cases h
    · cases h
      trivial

theorem boundsOrdered_dotPattern {f : Flags} {p : Pattern} (h : dotPattern f = some p) :
    p.BoundsOrdered := by
  unfold dotPattern at h
  split at h
  · cases h
  · split at h
    · cases h
      trivial
    · split at h <;> (cases h; trivial)

/-- A count whose bounds are out of order is refused. -/
theorem le_of_readBounds {f : Flags} {cs rest : List Char} {low : Nat} {high : Option Nat}
    (h : readBounds f cs = some (low, high, rest)) (m : Nat) (hm : high = some m) : low ≤ m := by
  subst hm
  unfold readBounds at h
  split at h
  · cases h
  · cases h
    exact Nat.le_refl _
  · split at h
    · cases h
    · split at h
      · split at h
        · next hle =>
          cases h
          exact hle
        · cases h
      · cases h
  · cases h

/-! ## Constructs -/

/-- The bounds of a repetition, or of the pattern of an atom, are in order. -/
def Construct.BoundsOrdered : Construct → Prop
  | .ending _ | .bar | .group _ => True
  | .repetition low high _ => ∀ m, high = some m → low ≤ m
  | .atom p _ => p.BoundsOrdered

theorem boundsOrdered_readRepetition {low : Nat} {high : Option Nat}
    (h : ∀ m, high = some m → low ≤ m) (rest : List Char) :
    (readRepetition low high rest).1.BoundsOrdered := h

theorem boundsOrdered_escapePattern {f : Flags} {e : Escape} {p : Pattern}
    (h : escapePattern f e = some p) : p.BoundsOrdered := by
  cases e with
  | literal c asByte => exact boundsOrdered_literalPattern h
  | set s =>
    cases h
    trivial
  | look l =>
    cases h
    trivial

theorem boundsOrdered_readConstruct {f : Flags} {c : Char} {rest : List Char} {sign : Sign}
    {found : Construct × List Char} (h : readConstruct f c rest sign = some found) :
    found.1.BoundsOrdered := by
  cases sign with
  | closing | bar | start | finish =>
    cases h
    trivial
  | optional =>
    cases h
    refine boundsOrdered_readRepetition (fun m hm => ?_) rest
    cases hm
    exact Nat.zero_le 1
  | star | plus =>
    cases h
    refine boundsOrdered_readRepetition (fun m hm => ?_) rest
    cases hm
  | bounds =>
    obtain ⟨⟨low, high, after⟩, hread, rfl⟩ := Option.map_eq_some_iff.1 h
    exact boundsOrdered_readRepetition (le_of_readBounds hread) _
  | group | bracket =>
    obtain ⟨_, -, rfl⟩ := Option.map_eq_some_iff.1 h
    trivial
  | dot =>
    obtain ⟨p, hdot, rfl⟩ := Option.map_eq_some_iff.1 h
    exact boundsOrdered_dotPattern hdot
  | escape =>
    obtain ⟨e, -, hpattern⟩ := Option.bind_eq_some_iff.1 h
    obtain ⟨p, hp, rfl⟩ := Option.map_eq_some_iff.1 hpattern
    exact boundsOrdered_escapePattern hp
  | literal =>
    obtain ⟨p, hliteral, rfl⟩ := Option.map_eq_some_iff.1 h
    exact boundsOrdered_literalPattern hliteral

theorem boundsOrdered_nextConstruct {f : Flags} {cs : List Char} {found : Construct × List Char}
    (h : nextConstruct f cs = some found) : found.1.BoundsOrdered := by
  unfold nextConstruct at h
  split at h
  · cases h
    trivial
  · exact boundsOrdered_readConstruct h

/-! ## Groups -/

theorem partsOrdered_repeatLast {f : Flags} {low : Nat} {high : Option Nat} {reluctant : Bool}
    {parts parts' : List Part} (hbounds : ∀ m, high = some m → low ≤ m)
    (hparts : PartsOrdered parts)
    (h : repeatLast f low high reluctant parts = some parts') : PartsOrdered parts' := by
  cases parts with
  | nil => cases h
  | cons p ps =>
    rw [repeatLast] at h
    split at h
    · cases h
      exact partsOrdered_cons ⟨hbounds, hparts p List.mem_cons_self⟩ fun q hq =>
        hparts q (List.mem_cons_of_mem _ hq)
    · cases h

theorem boundsOrdered_wrap {p : Pattern} (h : p.BoundsOrdered) (group : InnerGroup) :
    (group.wrap p).BoundsOrdered := by
  cases group with
  | plain changes => exact h
  | capture name => exact h

theorem choicesOrdered_cons {d : DeepPattern} {done : List DeepPattern}
    (hd : d.pattern.BoundsOrdered) (h : ChoicesOrdered done) : ChoicesOrdered (d :: done) := by
  intro r hr
  rcases List.mem_cons.1 hr with rfl | hr
  · exact hd
  · exact h r hr

/-- The bounds of a group are in order if those of what was read of it before are. -/
theorem boundsOrdered_readGroup {fuel : Nat} {f : Flags} {names : List (List Char)}
    {done : List DeepPattern} {parts : List Part} {cs : List Char} {r : GroupEnd}
    (hdone : ChoicesOrdered done) (hparts : PartsOrdered parts)
    (h : readGroup fuel f names done parts cs = some r) : r.body.pattern.BoundsOrdered := by
  induction fuel generalizing f names done parts cs r with
  | zero => cases h
  | succ fuel ih =>
    rw [readGroup] at h
    cases hnext : nextConstruct f cs with
    | none =>
      rw [hnext] at h
      cases h
    | some found =>
      have hfound := boundsOrdered_nextConstruct hnext
      rw [hnext] at h
      obtain ⟨construct, rest⟩ := found
      cases construct with
      | ending closed =>
        cases h
        exact boundsOrdered_choiceOf (boundsOrdered_sequenceOf hparts) hdone
      | bar =>
        exact ih (choicesOrdered_cons (boundsOrdered_sequenceOf hparts) hdone) partsOrdered_nil h
      | repetition low high reluctant =>
        dsimp only at h
        split at h
        · cases h
        · next hrepeat => exact ih hdone (partsOrdered_repeatLast hfound hparts hrepeat) h
      | atom p depth =>
        have hp : p.BoundsOrdered := hfound
        exact ih hdone (partsOrdered_cons hp hparts) h
      | group start =>
        cases start with
        | flags changes =>
          refine ih hdone (partsOrdered_cons ?_ hparts) h
          trivial
        | inner group =>
          dsimp only at h
          split at h
          · cases h
          · split at h
            · next hbody =>
              have hinner := ih choicesOrdered_nil partsOrdered_nil hbody
              exact ih hdone (partsOrdered_cons (boundsOrdered_wrap hinner group) hparts) h
            · cases h

/-! ## Patterns -/

theorem boundsOrdered_of_read? {text : List Char} {p : DeepPattern}
    (h : Pattern.read? text = some p) : p.pattern.BoundsOrdered := by
  unfold Pattern.read? at h
  split at h
  · next hgroup =>
    cases h
    exact boundsOrdered_readGroup choicesOrdered_nil partsOrdered_nil hgroup
  · cases h

/-- The bounds of every accepted pattern are in order. -/
theorem boundsOrdered_of_compile? {text : String} {p : Pattern}
    (h : Pattern.compile? text = some p) : p.BoundsOrdered := by
  unfold Pattern.compile? at h
  split at h
  · cases h
  · next hread =>
    split at h
    · cases h
      exact boundsOrdered_of_read? hread
    · cases h

end CallTrace
