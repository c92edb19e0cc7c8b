import CallTrace.Calls.Classification
import CallTrace.Source.Overlay
import CallTrace.Source.Snapshots

/-!
# Declaration lines over an unchanging disk

Registered lines over the files of a disk, without any memory of what was read: `Declarations.line?`
is a fixed answer for each file and number.  A source that serves these declarations gives just this
answer and goes on serving them (`lookup_serves`), so a call is classified by its context alone
(`classify_serves`), however many lookups went before.
-/

namespace CallTrace

/-! ## Fixed declarations -/

/-- Lines registered by hand, the latest first, and the files for all else. -/
structure Declarations where
  registered : List ((String × Nat) × String)
  disk : FileSystem

namespace Declarations

/-- The text of a line: the one registered last, or else that of the file. -/
def line? (d : Declarations) (file : String) (line : Nat) : Option String :=
  match d.registered.lookup (file, line) with
  | some text => some text
  | none =>
    match Snapshot.ofPath d.disk file with
    | .ok lines => Text.line? lines line
    | .error _ => none

/-- The source of these declarations, which has read nothing yet. -/
def source (d : Declarations) : Overlay FileLines := ⟨d.registered, .ofDisk d.disk⟩

end Declarations

/-- What the call is if its declaration line is the given one, or not available. -/
def ClassifierRules.classificationBy (rules : ClassifierRules) (ctx : CallContext)
    (line : Option String) : Classification :=
  match rules.byReceiver? ctx with
  | some c => c
  | none =>
    rules.byDeclaration ctx (line.elim .free fun text => rules.declarationKind text ctx.function)

/-! ## Sources that serve them -/

/-- The source has these lines registered and has read nothing but these files. -/
structure Declarations.ServedBy (d : Declarations) (o : Overlay FileLines) : Prop where
  registered : o.registered = d.registered
  disk : o.below.disk = d.disk
  taken : ∀ path s, o.below.taken.lookup path = some s → s = .ofPath d.disk path

namespace Declarations

variable {d : Declarations} {o : Overlay FileLines}

theorem servedBy_source (d : Declarations) : d.ServedBy d.source :=
  ⟨rfl, rfl, fun _ _ h => by simp [source, FileLines.ofDisk] at h⟩

theorem ServedBy.snapshot_fst (h : d.ServedBy o) (path : String) :
    (o.below.snapshot path).1 = .ofPath d.disk path := by
  rw [FileLines.snapshot_fst]
  cases ht : o.below.taken.lookup path with
  | none => rw [Option.getD_none, h.disk]
  | some s => exact h.taken path s ht

theorem ServedBy.snapshot_snd (h : d.ServedBy o) (path : String) :
    d.ServedBy { o with below := (o.below.snapshot path).2 } := by
  refine ⟨h.registered, ?_, fun path' s hs => ?_⟩
  · exact (FileLines.disk_snapshot o.below path).trans h.disk
  · have hs' := (FileLines.taken_snapshot o.below path path').symm.trans hs
    split at hs'
    · next hp =>
      rw [hp, ← Option.some.inj hs']
      exact h.snapshot_fst path
    · exact h.taken path' s hs'

/-- What a source answers that serves the declarations. -/
theorem ServedBy.lookup_eq (h : d.ServedBy o) (file : String) (line : Nat) :
    lookup o file line =
      match d.registered.lookup (file, line) with
      | some text => (.found text, o)
      | none =>
        ((Snapshot.ofPath d.disk file).answer file line,
          { o with below := (o.below.snapshot file).2 }) := by
  rw [← h.registered, ← h.snapshot_fst file]
  rfl

/-- A lookup finds the fixed line if there is one, and fails otherwise. -/
theorem ServedBy.lookup_serves (h : d.ServedBy o) (file : String) (line : Nat) :
    (∃ e, (lookup o file line).1 = (d.line? file line).elim (.failed e) .found)
      ∧ d.ServedBy (lookup o file line).2 := by
  rw [h.lookup_eq]
  unfold line?
  cases hr : d.registered.lookup (file, line) with
  | some text => exact ⟨⟨.outOfRange file line, rfl⟩, h⟩
  | none =>
    refine ⟨?_, h.snapshot_snd file⟩
    cases hs : Snapshot.ofPath d.disk file with
    | error cause => exact ⟨.unreadable file cause, rfl⟩
    | ok lines =>
      refine ⟨.outOfRange file line, ?_⟩
      cases hl : Text.line? lines line <;> simp [Snapshot.answer, hl]

/-- A call is classified by its fixed declaration line. -/
theorem ServedBy.classify_serves (h : d.ServedBy o) (rules : ClassifierRules) (ctx : CallContext) :
    (rules.classify ctx o).1 = some (rules.classificationBy ctx (d.line? ctx.file ctx.firstLine))
      ∧ d.ServedBy (rules.classify ctx o).2 := by
  unfold ClassifierRules.classify ClassifierRules.classificationBy
  cases rules.byReceiver? ctx with
  | some c => exact ⟨rfl, h⟩
  | none =>
    obtain ⟨⟨e, he⟩, hserved⟩ := h.lookup_serves ctx.file ctx.firstLine
    refine ⟨?_, hserved⟩
    simp only [he]
    cases d.line? ctx.file ctx.firstLine <;> rfl

end Declarations

end CallTrace
