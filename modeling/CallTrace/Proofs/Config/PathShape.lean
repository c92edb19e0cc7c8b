import CallTrace.Config
import CallTrace.Proofs.Files.LastName
import CallTrace.Proofs.Results

/-!
# Which configurations are read from disk

A configuration is given as a text or as the path of a file that holds the text, and nothing says
which.  It is taken for a path if it has the shape of one that leads to a file with the extension
`kdl` (`PathShaped`), and then the file is read; else the disk plays no part.
-/

namespace CallTrace.TraceConfig

open CallTrace.Path

/-- A directory or nothing, a stem, the extension, and behind it only what counts for nothing at the
end of a path. -/
def PathShaped (source : String) : Prop :=
  ∃ dir stem tail, source = dir ++ stem ++ ".kdl" ++ tail ∧
    (dir = "" ∨ ∃ above, dir = above ++ "/") ∧
    (stem ≠ "" ∧ '/' ∉ stem.toList) ∧ (tail = "" ∨ ∃ rest, tail = "/" ++ rest) ∧
    ∀ piece ∈ pieces tail, piece = [] ∨ piece = ['.']

theorem isPath_iff_endsIn {source : String} :
    isPath source = true ↔ ∃ stem, stem ≠ [] ∧ EndsIn source (stem ++ extension) := by
  have hname : isPath source = true ↔
      ∃ name, lastName? source = some name ∧ hasExtension extension name = true := by
    unfold isPath
    split
    · next name hlast => simp [hlast]
    · next hlast => simp [hlast]
  rw [hname]
  constructor
  · rintro ⟨name, hlast, hext⟩
    obtain ⟨stem, hstem, rfl⟩ := hasExtension_iff.1 hext
    exact ⟨stem, hstem, lastName?_eq_some_iff.1 hlast⟩
  · rintro ⟨stem, hstem, hends⟩
    exact ⟨_, lastName?_eq_some_iff.2 hends, hasExtension_iff.2 ⟨stem, hstem, rfl⟩⟩

/-- The name of the file and its extension are read as they are anywhere else. -/
theorem isPath_iff_extension? {source : String} :
    isPath source = true ↔
      ∃ name, fileName? source = some name ∧ extension? name = some "kdl".toList := by
  rw [isPath_iff_endsIn]
  constructor
  · rintro ⟨stem, hstem, hends⟩
    exact ⟨_, fileName?_eq_some_iff.2 hends,
      extension?_eq_some_iff.2 ⟨⟨stem, hstem, rfl⟩, by decide⟩⟩
  · rintro ⟨name, hname, hext⟩
    obtain ⟨⟨stem, hstem, rfl⟩, -⟩ := extension?_eq_some_iff.1 hext
    exact ⟨stem, hstem, fileName?_eq_some_iff.1 hname⟩

/-- With the extension behind it, a stem always counts at the end of a path. -/
theorem not_idle_append_extension (stem : List Char) :
    ¬ Idle (stem ++ extension) ∧ stem ++ extension ≠ ['.', '.'] := by
  have hlong : 4 ≤ (stem ++ extension).length := by
    rw [List.length_append]
    exact Nat.le_add_left 4 stem.length
  refine ⟨?_, fun h => ?_⟩
  · rintro (h | h) <;> rw [h] at hlong <;> exact absurd hlong (by decide)
  · rw [h] at hlong
    exact absurd hlong (by decide)

theorem isPath_iff_pathShaped {source : String} : isPath source = true ↔ PathShaped source := by
  rw [isPath_iff_endsIn]
  simp only [endsIn_iff]
  constructor
  · rintro ⟨stem, hstem, dir, tail, hsource, hdir, htail, hidle, hslash, -⟩
    refine ⟨.ofList dir, .ofList stem, .ofList tail, ?_, ?_, ⟨?_, ?_⟩, ?_, ?_⟩
    · refine String.toList_inj.1 ?_
      simpa [extension] using hsource
    · rcases hdir with rfl | ⟨above, rfl⟩
      · exact .inl rfl
      · exact .inr ⟨.ofList above, String.toList_inj.1 (by simp)⟩
    · exact fun h => hstem (by simpa using congrArg String.toList h)
    · rw [String.toList_ofList]
      exact fun h => hslash (List.mem_append_left _ h)
    · rcases htail with rfl | ⟨rest, rfl⟩
      · exact .inl rfl
      · exact .inr ⟨.ofList rest, String.toList_inj.1 (by simp)⟩
    · rw [pieces, String.toList_ofList]
      exact hidle
  · rintro ⟨dir, stem, tail, rfl, hdir, ⟨hstem, hslash⟩, htail, hidle⟩
    refine ⟨stem.toList, ?_, dir.toList, tail.toList, ?_, ?_, ?_, hidle, ?_,
      not_idle_append_extension _⟩
    · exact fun h => hstem (String.toList_inj.1 h)
    · simp [extension]
    · rcases hdir with rfl | ⟨above, rfl⟩
      · exact .inl rfl
      · exact .inr ⟨above.toList, by simp⟩
    · rcases htail with rfl | ⟨rest, rfl⟩
      · exact .inl rfl
      · exact .inr ⟨rest.toList, by simp⟩
    · intro h
      rcases List.mem_append.1 h with h | h
      · exact hslash h
      · exact absurd h (by decide)

example : isPath "rules/../.day.kdl//./" = true := by decide

-- A hidden file has no extension, and neither has what stands above a directory.
example : isPath "rules/.kdl" = false := by decide
example : isPath "rules.kdl/.." = false := by decide

/-- What comes from a text is never trouble with a file. -/
theorem mapError_document_ne_file (text : String) (e : FileError) :
    (ofText text).mapError LoadError.document ≠ .error (.file e) := by
  intro h
  obtain ⟨_, -, h⟩ := mapError_eq_error.1 h
  cases h

theorem node?_empty_ne_file (here : Location) (bytes : ByteArray) :
    FileSystem.empty.node? here ≠ some (.file bytes) := by
  intro h
  unfold FileSystem.node? at h
  split at h <;> cases h

/-- Where there are no files none is read. -/
theorem exists_readText_empty (path : String) : ∃ e, FileSystem.empty.readText path = .error e := by
  by_contra hnone
  obtain ⟨text, htext⟩ := exists_eq_ok_iff.2 (not_exists.1 hnone)
  obtain ⟨bytes, hread, -⟩ := bind_eq_ok.1 htext
  obtain ⟨here, -, hnode⟩ := bind_eq_ok.1 hread
  split at hnode
  · cases hnode
  · cases hnode
  · next hfile => exact node?_empty_ne_file here _ hfile

theorem load_of_pathShaped {source : String} (h : PathShaped source) (disk : FileSystem) :
    load disk source =
      match disk.readText source with
      | .error e => .error (.file e)
      | .ok text => (ofText text).mapError .document := by
  rw [load, if_pos (isPath_iff_pathShaped.2 h)]
  cases disk.readText source with
  | error e => rfl
  | ok text => rfl

theorem load_of_not_pathShaped {source : String} (h : ¬ PathShaped source) (disk : FileSystem) :
    load disk source = (ofText source).mapError .document := by
  rw [load, if_neg (mt isPath_iff_pathShaped.1 h)]
  rfl

/-- A configuration is read from disk exactly if its text has the shape of a path to a file with the
extension: the text of this file is then decoded, and else the text itself, on every disk. -/
theorem read_from_disk_iff_pathShaped (source : String) :
    (isPath source = true ↔
      ∃ name, fileName? source = some name ∧ extension? name = some "kdl".toList) ∧
    (isPath source = true ↔ PathShaped source) ∧
    (PathShaped source → ∀ disk, load disk source =
      match disk.readText source with
      | .error e => .error (.file e)
      | .ok text => (ofText text).mapError .document) ∧
    (¬ PathShaped source → ∀ disk, load disk source = (ofText source).mapError .document) ∧
    (PathShaped source ↔ ∃ disk e, load disk source = .error (.file e)) := by
  refine ⟨isPath_iff_extension?, isPath_iff_pathShaped, load_of_pathShaped, load_of_not_pathShaped,
    ?_, ?_⟩
  · intro h
    obtain ⟨e, he⟩ := exists_readText_empty source
    refine ⟨.empty, e, ?_⟩
    rw [load_of_pathShaped h, he]
  · rintro ⟨disk, e, he⟩
    by_contra h
    rw [load_of_not_pathShaped h] at he
    exact mapError_document_ne_file source e he

end CallTrace.TraceConfig
