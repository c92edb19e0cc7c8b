import CallTrace.Calls.Classification
import CallTrace.Source.Overlay
import CallTrace.Source.Snapshots

/-!
# What classification asks its source

A call with a bound receiver is classified without any lookup; for all others the declaration line
is looked up, once.  A watched source answers like the one below it and notes each lookup, so what
it has noted after a classification is what was asked (`asked_classify`).  Nothing is found only
if this one lookup crashes (`classify_of_crashed`, `exists_classify_of_not_crashed`).
-/

namespace CallTrace

variable {σ τ : Type}

/-! ## Watching a source -/

/-- A source that notes file and line of each lookup. -/
structure Watched (σ : Type) where
  asked : List (String × Nat)
  below : σ

namespace Watched

/-- The source with nothing noted. -/
def ofSource (below : σ) : Watched σ := ⟨[], below⟩

instance [LineSource σ] : LineSource (Watched σ) where
  lookup w file line :=
    let (answer, below) := lookup w.below file line
    (answer, ⟨w.asked ++ [(file, line)], below⟩)

end Watched

/-- A lookup in the image of a source is the image of the lookup. -/
def PassesLookups [LineSource σ] [LineSource τ] (f : σ → τ) : Prop :=
  ∀ source file line, lookup (f source) file line = (lookup source file line).map id f

theorem passesLookups_below [LineSource σ] : PassesLookups (Watched.below : Watched σ → σ) :=
  fun _ _ _ => rfl

/-! ## Classification -/

namespace ClassifierRules

variable (rules : ClassifierRules) (ctx : CallContext)

/-- No receiver is bound, so that the declaration tells what the call is. -/
def needsDeclaration : Bool :=
  (ctx.bindings.get? rules.instanceBinding).isNone && (ctx.bindings.get? rules.classBinding).isNone

theorem isNone_byReceiver? : (rules.byReceiver? ctx).isNone = rules.needsDeclaration ctx := by
  unfold byReceiver? needsDeclaration
  cases ctx.bindings.get? rules.instanceBinding <;>
    cases ctx.bindings.get? rules.classBinding <;> rfl

variable [LineSource σ] (sources : σ)

theorem classify_of_bound (h : rules.needsDeclaration ctx = false) :
    ∃ c, rules.classify ctx sources = (some c, sources) := by
  rw [← isNone_byReceiver?, Option.isNone_eq_false_iff] at h
  obtain ⟨c, hc⟩ := Option.isSome_iff_exists.1 h
  exact ⟨c, by rw [classify, hc]⟩

theorem classify_of_unbound (h : rules.needsDeclaration ctx = true) :
    rules.classify ctx sources =
      ((rules.kindOfLookup? ctx (lookup sources ctx.file ctx.firstLine).1).map
        (rules.byDeclaration ctx), (lookup sources ctx.file ctx.firstLine).2) := by
  rw [← isNone_byReceiver?, Option.isNone_iff_eq_none] at h
  rw [classify, h]

theorem classify_of_crashed (h : rules.needsDeclaration ctx = true)
    (hcrash : (lookup sources ctx.file ctx.firstLine).1 = .crashed) :
    rules.classify ctx sources = (none, (lookup sources ctx.file ctx.firstLine).2) := by
  rw [classify_of_unbound rules ctx sources h, hcrash]
  rfl

theorem exists_classify_of_not_crashed
    (h : rules.needsDeclaration ctx = true → (lookup sources ctx.file ctx.firstLine).1 ≠ .crashed) :
    ∃ c sources', rules.classify ctx sources = (some c, sources') := by
  cases hneeds : rules.needsDeclaration ctx with
  | false =>
    obtain ⟨c, hc⟩ := classify_of_bound rules ctx sources hneeds
    exact ⟨c, sources, hc⟩
  | true =>
    rw [classify_of_unbound rules ctx sources hneeds]
    cases hanswer : (lookup sources ctx.file ctx.firstLine).1 with
    | found line => exact ⟨_, _, rfl⟩
    | failed error => exact ⟨_, _, rfl⟩
    | crashed => exact absurd hanswer (h hneeds)

theorem classify_map [LineSource τ] {f : σ → τ} (hf : PassesLookups f) :
    rules.classify ctx (f sources) = (rules.classify ctx sources).map id f := by
  unfold classify
  cases rules.byReceiver? ctx with
  | some c => rfl
  | none =>
    rw [hf sources ctx.file ctx.firstLine]
    rfl

/-- A classification asks for the declaration line if no receiver is bound, and for nothing else. -/
theorem asked_classify (w : Watched σ) :
    (rules.classify ctx w).2.asked =
      w.asked ++ if rules.needsDeclaration ctx then [(ctx.file, ctx.firstLine)] else [] := by
  cases h : rules.needsDeclaration ctx with
  | false =>
    obtain ⟨c, hc⟩ := classify_of_bound rules ctx w h
    rw [hc]
    exact (List.append_nil _).symm
  | true =>
    rw [classify_of_unbound rules ctx w h]
    rfl

end ClassifierRules

/-! ## Sources that crash cleanly -/

/-- A lookup that crashes leaves the source as it was. -/
def CrashesCleanly (σ : Type) [LineSource σ] : Prop :=
  ∀ (source : σ) (file : String) (line : Nat),
    (lookup source file line).1 = .crashed → (lookup source file line).2 = source

/-- Lookups in files do not crash. -/
theorem crashesCleanly_fileLines : CrashesCleanly FileLines := by
  intro files file line h
  have hanswer : (files.snapshot file).1.answer file line = .crashed := h
  unfold Snapshot.answer at hanswer
  split at hanswer
  · cases hanswer
  · split at hanswer <;> cases hanswer

theorem crashesCleanly_brittle [LineSource σ] (h : CrashesCleanly σ) :
    CrashesCleanly (Brittle σ) := by
  intro b file line hcrash
  by_cases hfile : b.crashing.contains file = true
  · have hlookup : lookup b file line = (.crashed, b) := if_pos hfile
    rw [hlookup]
  · have hlookup : lookup b file line =
        ((lookup b.below file line).1, { b with below := (lookup b.below file line).2 }) :=
      if_neg hfile
    rw [hlookup] at hcrash ⊢
    rw [h b.below file line hcrash]

end CallTrace
