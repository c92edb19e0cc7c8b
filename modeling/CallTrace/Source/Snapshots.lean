import CallTrace.Files.FileSystem
import CallTrace.Source.Lookup
import CallTrace.Text.Lines

/-!
# Lines of files

A file is read at the first lookup in it, under the path as it is written there. What was read,
or why it could not be, answers all later lookups with that path: changes of the file are not seen.
-/

namespace CallTrace

/-- What reading a file gave: its lines or the reason why there are none. -/
abbrev Snapshot := Except FileError (List String)

namespace Snapshot

def ofPath (disk : FileSystem) (path : String) : Snapshot := (disk.readText path).map Text.lines

/-- The answer for a line of the file. -/
def answer (snapshot : Snapshot) (file : String) (line : Nat) : Lookup :=
  match snapshot with
  | .error cause => .failed (.unreadable file cause)
  | .ok lines =>
    match Text.line? lines line with
    | some text => .found text
    | none => .failed (.outOfRange file line)

end Snapshot

/-- Files on a disk, and what was read of them. -/
structure FileLines where
  disk : FileSystem
  taken : List (String × Snapshot)

namespace FileLines

/-- The files of a disk, none read yet. -/
def ofDisk (disk : FileSystem) : FileLines := ⟨disk, []⟩

/-- The snapshot of a path, taken now if it has not been. -/
def snapshot (files : FileLines) (path : String) : Snapshot × FileLines :=
  match files.taken.lookup path with
  | some s => (s, files)
  | none =>
    let s := Snapshot.ofPath files.disk path
    (s, { files with taken := (path, s) :: files.taken })

/-- Once taken, a snapshot stays. -/
theorem taken_snapshot (files : FileLines) (path path' : String) :
    (files.snapshot path).2.taken.lookup path'
      = if path' = path then some (files.snapshot path).1 else files.taken.lookup path' := by
  unfold snapshot
  cases h : files.taken.lookup path with
  | some s =>
    by_cases hp : path' = path
    · rw [if_pos hp, hp]; exact h
    · rw [if_neg hp]
  | none =>
    by_cases hp : path' = path
    · rw [if_pos hp]; simp [hp]
    · rw [if_neg hp]; simp [List.lookup_cons, beq_eq_false_iff_ne.2 hp]

theorem disk_snapshot (files : FileLines) (path : String) :
    (files.snapshot path).2.disk = files.disk := by
  unfold snapshot
  split <;> rfl

theorem snapshot_fst (files : FileLines) (path : String) :
    (files.snapshot path).1 = (files.taken.lookup path).getD (.ofPath files.disk path) := by
  unfold snapshot
  cases files.taken.lookup path <;> rfl

instance : LineSource FileLines where
  lookup files file line :=
    let (s, files) := files.snapshot file
    (s.answer file line, files)

end FileLines

end CallTrace
