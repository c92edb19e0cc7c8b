import CallTrace.Proofs.Source.Declarations

/-!
# Files as they were at first sight

Registered lines over registered lines over files, while the files change: what a lookup answers is
read off the steps that were taken before it, without any cache (`Declarations.answer`).  A file is
answered for as it was when a lookup with its path first got through to the files
(`Declarations.firstSight?`).  `Remembers` relates the layers to the past, and every step keeps it
(`remembers_after`), so the layers answer as the past says (`lookup_eq_at_first_sight`).
-/

namespace CallTrace

/-! ## Steps -/

/-- What can be done to layers over files: the files change in any way, for instance by a file being
stored or removed, or a line is registered, or one is looked up. -/
inductive SourceStep
  | change (f : FileSystem → FileSystem)
  | insert (file : String) (line : Nat) (text : String)
  | look (file : String) (line : Nat)

/-- Lines registered by hand, over lines registered before, over files. -/
abbrev Layers := Overlay (Overlay FileLines)

def Layers.step (s : Layers) : SourceStep → Layers
  | .change f =>
    { s with below :=
        { s.below with below := { s.below.below with disk := f s.below.below.disk } } }
  | .insert file line text => Overlay.insert s file line text
  | .look file line => (lookup s file line).2

/-! ## Reading the past -/

/-- The answer for a line of a file as it is on the disk. -/
def FileSystem.lineAt (disk : FileSystem) (file : String) (line : Nat) : Lookup :=
  match disk.readText file with
  | .error cause => .failed (.unreadable file cause)
  | .ok text =>
    let lines := Text.lines text
    if h : 1 ≤ line ∧ line ≤ lines.length then .found lines[line - 1]
    else .failed (.outOfRange file line)

/-- The text registered last for a place; the past has the latest step first. -/
def inserted? (file : String) (line : Nat) : List SourceStep → Option String
  | [] => none
  | .insert file' line' text :: past =>
    if (file, line) = (file', line') then some text else inserted? file line past
  | .change _ :: past | .look _ _ :: past => inserted? file line past

namespace Declarations

/-- The layers after the steps of the past, the latest first. -/
def after (d : Declarations) : List SourceStep → Layers
  | [] => .over d.source
  | step :: past => (d.after past).step step

/-- The disk after the steps of the past. -/
def diskAfter (d : Declarations) : List SourceStep → FileSystem
  | [] => d.disk
  | .change f :: past => f (d.diskAfter past)
  | .insert _ _ _ :: past | .look _ _ :: past => d.diskAfter past

/-- No line is registered for the place, so that a lookup gets through to the files. -/
def Unregistered (d : Declarations) (past : List SourceStep) (file : String) (line : Nat) : Prop :=
  inserted? file line past = none ∧ d.registered.lookup (file, line) = none

instance (d : Declarations) (past : List SourceStep) (file : String) (line : Nat) :
    Decidable (d.Unregistered past file line) :=
  inferInstanceAs (Decidable (_ ∧ _))

/-- The disk at the first lookup with the path that got through to the files. -/
def firstSight? (d : Declarations) (path : String) : List SourceStep → Option FileSystem
  | [] => none
  | .look file line :: past =>
    (d.firstSight? path past).or
      (if file = path ∧ d.Unregistered past file line then some (d.diskAfter past) else none)
  | .change _ :: past | .insert _ _ _ :: past => d.firstSight? path past

/-- The answer to a lookup that comes now. -/
def answer (d : Declarations) (past : List SourceStep) (file : String) (line : Nat) : Lookup :=
  match inserted? file line past with
  | some text => .found text
  | none =>
    match d.registered.lookup (file, line) with
    | some text => .found text
    | none => ((d.firstSight? file past).getD (d.diskAfter past)).lineAt file line

end Declarations

/-! ## Snapshots and layers -/

theorem Text.line?_eq (lines : List String) (line : Nat) :
    Text.line? lines line =
      if h : 1 ≤ line ∧ line ≤ lines.length then some lines[line - 1] else none := by
  cases line with
  | zero => rfl
  | succ n =>
    show lines[n]? = _
    by_cases h : n < lines.length
    · rw [dif_pos ⟨Nat.le_add_left 1 n, h⟩, List.getElem?_eq_getElem h]
      rfl
    · rw [dif_neg fun hin => h hin.2, List.getElem?_eq_none (Nat.le_of_not_lt h)]

theorem Snapshot.answer_ofPath (disk : FileSystem) (file : String) (line : Nat) :
    (Snapshot.ofPath disk file).answer file line = disk.lineAt file line := by
  unfold ofPath FileSystem.lineAt
  cases disk.readText file with
  | error cause => rfl
  | ok text =>
    show (match Text.line? (Text.lines text) line with
      | some text => Lookup.found text
      | none => .failed (.outOfRange file line)) = dite _ _ _
    rw [Text.line?_eq]
    by_cases h : 1 ≤ line ∧ line ≤ (Text.lines text).length
    · rw [dif_pos h, dif_pos h]
    · rw [dif_neg h, dif_neg h]

/-- A file that was read is not read again. -/
theorem FileLines.nodup_snapshot {files : FileLines} (h : (files.taken.map Prod.fst).Nodup)
    (path : String) : ((files.snapshot path).2.taken.map Prod.fst).Nodup := by
  unfold snapshot
  cases ht : files.taken.lookup path with
  | some s => exact h
  | none =>
    show (path :: files.taken.map Prod.fst).Nodup
    refine List.nodup_cons.2 ⟨fun hmem => ?_, h⟩
    obtain ⟨entry, hentry, rfl⟩ := List.mem_map.1 hmem
    have := List.lookup_eq_none_iff.1 ht entry hentry
    simp at this

section
variable {τ : Type} [LineSource τ] {o : Overlay τ} {file : String} {line : Nat}

theorem Overlay.lookup_registered {text : String} (h : o.registered? file line = some text) :
    lookup o file line = (.found text, o) := by
  show (match o.registered? file line with
    | some text => (Lookup.found text, o)
    | none => _) = _
  rw [h]

theorem Overlay.lookup_unregistered (h : o.registered? file line = none) :
    lookup o file line =
      ((lookup o.below file line).1, { o with below := (lookup o.below file line).2 }) := by
  show (match o.registered? file line with
    | some text => (Lookup.found text, o)
    | none => _) = _
  rw [h]

end

/-! ## What the layers remember -/

/-- The layers hold what the past says, and no file was read twice: each reading left an entry. -/
structure Declarations.Remembers (d : Declarations) (past : List SourceStep) (s : Layers) :
    Prop where
  upper : ∀ file line, s.registered? file line = inserted? file line past
  lower : s.below.registered = d.registered
  disk : s.below.below.disk = d.diskAfter past
  taken : ∀ path, s.below.below.taken.lookup path = (d.firstSight? path past).map (.ofPath · path)
  once : (s.below.below.taken.map Prod.fst).Nodup

namespace Declarations

variable {d : Declarations} {past : List SourceStep} {s : Layers}

theorem remembers_nil (d : Declarations) : d.Remembers [] (d.after []) where
  upper _ _ := rfl
  lower := rfl
  disk := rfl
  taken _ := rfl
  once := List.nodup_nil

/-- A lookup that no registered line answers takes a snapshot of the file, or uses the one taken at
first sight. -/
theorem Remembers.snapshot_fst (h : d.Remembers past s) (path : String) :
    (s.below.below.snapshot path).1 =
      .ofPath ((d.firstSight? path past).getD (d.diskAfter past)) path := by
  rw [FileLines.snapshot_fst, h.taken, h.disk]
  cases d.firstSight? path past <;> rfl

/-- How a lookup goes, and what it leaves behind. -/
theorem Remembers.lookup_eq (h : d.Remembers past s) (file : String) (line : Nat) :
    lookup s file line = (d.answer past file line,
      if d.Unregistered past file line then
        { s with below := { s.below with below := (s.below.below.snapshot file).2 } }
      else s) := by
  unfold answer
  cases hu : inserted? file line past with
  | some text =>
    have hnot : ¬ d.Unregistered past file line := fun hr => by simp [hr.1] at hu
    rw [if_neg hnot]
    exact Overlay.lookup_registered ((h.upper file line).trans hu)
  | none =>
    rw [Overlay.lookup_unregistered ((h.upper file line).trans hu)]
    have hbelow : s.below.registered? file line = d.registered.lookup (file, line) := by
      rw [Overlay.registered?, h.lower]
    cases hl : d.registered.lookup (file, line) with
    | some text =>
      have hnot : ¬ d.Unregistered past file line := fun hr => by simp [hr.2] at hl
      rw [if_neg hnot, Overlay.lookup_registered (hbelow.trans hl)]
    | none =>
      rw [if_pos ⟨hu, hl⟩, Overlay.lookup_unregistered (hbelow.trans hl),
        ← Snapshot.answer_ofPath, ← h.snapshot_fst]
      rfl

theorem remembers_look (h : d.Remembers past s) (file : String) (line : Nat) :
    d.Remembers (.look file line :: past) (s.step (.look file line)) := by
  have hstep : s.step (.look file line) = (lookup s file line).2 := rfl
  rw [hstep, h.lookup_eq]
  by_cases hr : d.Unregistered past file line
  · rw [if_pos hr]
    refine ⟨h.upper, h.lower, ?_, fun path => ?_, FileLines.nodup_snapshot h.once file⟩
    · exact (FileLines.disk_snapshot _ file).trans h.disk
    · rw [FileLines.taken_snapshot, h.snapshot_fst, h.taken, firstSight?]
      by_cases hp : path = file
      · subst hp
        rw [if_pos rfl, if_pos ⟨rfl, hr⟩]
        cases d.firstSight? path past <;> rfl
      · rw [if_neg hp, if_neg fun hf => hp hf.1.symm, Option.or_none]
  · rw [if_neg hr]
    refine ⟨h.upper, h.lower, h.disk, fun path => ?_, h.once⟩
    rw [h.taken, firstSight?, if_neg fun hf => hr hf.2, Option.or_none]

theorem remembers_step (h : d.Remembers past s) (step : SourceStep) :
    d.Remembers (step :: past) (s.step step) := by
  cases step with
  | change f => exact ⟨h.upper, h.lower, congrArg f h.disk, h.taken, h.once⟩
  | insert file line text =>
    refine ⟨fun file' line' => ?_, h.lower, h.disk, h.taken, h.once⟩
    rw [Layers.step, Overlay.registered?_insert, h.upper, inserted?]
  | look file line => exact remembers_look h file line

theorem remembers_after (d : Declarations) (past : List SourceStep) :
    d.Remembers past (d.after past) := by
  induction past with
  | nil => exact d.remembers_nil
  | cons step past ih => exact remembers_step ih step

/-! ## Later changes -/

/-- What was first seen stays so. -/
theorem firstSight?_append {path : String} {disk : FileSystem}
    (h : d.firstSight? path past = some disk) (later : List SourceStep) :
    d.firstSight? path (later ++ past) = some disk := by
  induction later with
  | nil => exact h
  | cons step later ih =>
    cases step with
    | change f => exact ih
    | insert file line text => exact ih
    | look file line =>
      rw [List.cons_append, firstSight?, ih]
      rfl

/-- **Lookups answer as the past says.**  A lookup gives the text registered last for its place,
above or else below, or else the line of the file as it was when a lookup with its path first got
through to the files.  Each path is read at most once, no later change of the file is noticed, and a
lookup that a registered line answers changes nothing. -/
theorem lookup_eq_at_first_sight (d : Declarations) (past : List SourceStep) (file : String)
    (line : Nat) :
    let s := d.after past
    (lookup s file line).1 = d.answer past file line ∧
      (s.below.below.taken.map Prod.fst).Nodup ∧
      (∀ (later : List SourceStep) (disk : FileSystem), d.firstSight? file past = some disk →
        d.Unregistered (later ++ past) file line →
          (lookup (d.after (later ++ past)) file line).1 = disk.lineAt file line) ∧
      (¬ d.Unregistered past file line → (lookup s file line).2 = s) := by
  intro s
  have h := d.remembers_after past
  refine ⟨?_, h.once, fun later disk hsight hr => ?_, fun hr => ?_⟩
  · exact congrArg Prod.fst (h.lookup_eq file line)
  · have hlater := (d.remembers_after (later ++ past)).lookup_eq file line
    have hsight' := firstSight?_append hsight later
    rw [hlater, answer, hr.1, hr.2, hsight', Option.getD_some]
  · rw [h.lookup_eq, if_neg hr]

/-- A file is looked up before it is there, and once more after it was stored; another line of it is
registered by hand. -/
theorem lookup_eq_at_first_sight_late_file :
    let d : Declarations := ⟨[], .empty⟩
    let past : List SourceStep := [.insert "late.py" 2 "class Late:", .look "late.py" 1]
    let later : List SourceStep :=
      [.change fun disk => disk.store "late.py" "class Late:\n".toUTF8]
    d.firstSight? "late.py" past = some .empty ∧
      d.Unregistered (later ++ past) "late.py" 1 ∧ ¬ d.Unregistered past "late.py" 2 ∧
      (lookup (d.after (later ++ past)) "late.py" 1).1 = .failed (.unreadable "late.py" .notFound) ∧
      (lookup (d.after past) "late.py" 2).2 = d.after past := by
  intro d past later
  have hsight : d.firstSight? "late.py" past = some .empty := rfl
  have hr : d.Unregistered (later ++ past) "late.py" 1 := ⟨rfl, rfl⟩
  have hnot : ¬ d.Unregistered past "late.py" 2 := by decide
  obtain ⟨-, -, hlater, -⟩ := d.lookup_eq_at_first_sight past "late.py" 1
  obtain ⟨-, -, -, hkept⟩ := d.lookup_eq_at_first_sight past "late.py" 2
  refine ⟨hsight, hr, hnot, ?_, hkept hnot⟩
  rw [hlater later .empty hsight hr]
  rfl

end Declarations

end CallTrace
