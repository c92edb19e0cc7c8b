import CallTrace.Files.FileSystem
import CallTrace.Proofs.Results

/-!
# Creating a file

A created file is found again at its path, and it is empty (`read_create`): the walk to it only
passes directories, and those are left as they are.  Everything at other locations stays as well
(`node?_set`).
-/

namespace CallTrace.FileSystem

/-! ## Single locations -/

theorem lookup_filter_ne {here there : Location} (h : there ≠ here)
    (entries : List (Location × FileNode)) :
    (entries.filter fun e => e.1 != here).lookup there = entries.lookup there := by
  induction entries with
  | nil => rfl
  | cons e rest ih =>
    obtain ⟨place, node⟩ := e
    rw [List.lookup_cons]
    by_cases hp : place = here
    · have hne : (there == place) = false := by
        rw [hp]
        exact beq_eq_false_iff_ne.2 h
      rw [List.filter_cons_of_neg (by simp [hp]), ih, hne]
    · rw [List.filter_cons_of_pos (by simp [hp]), List.lookup_cons, ih]

theorem node?_set (fs : FileSystem) (here there : Location) (node : FileNode) :
    (fs.set here node).node? there =
      if there.isPrefixOf fs.workingDirectory then some .directory
      else if there = here then some node else fs.entries.lookup there := by
  unfold node? set
  split
  · rfl
  · rw [List.lookup_cons]
    by_cases h : there = here
    · rw [if_pos h, beq_iff_eq.2 h]
    · rw [if_neg h, beq_eq_false_iff_ne.2 h]
      exact lookup_filter_ne h fs.entries

theorem node?_set_of_ne (fs : FileSystem) {here there : Location} (h : there ≠ here)
    (node : FileNode) : (fs.set here node).node? there = fs.node? there := by
  rw [node?_set, node?, if_neg h]

/-- What is put where no directory is can be found there. -/
theorem node?_set_self {fs : FileSystem} {here : Location} (h : fs.node? here ≠ some .directory)
    (node : FileNode) : (fs.set here node).node? here = some node := by
  rw [node?_set]
  split
  · next hp => exact absurd (by rw [node?, if_pos hp]) h
  · rw [if_pos rfl]

/-! ## Walks -/

theorem directory_of_enter {fs : FileSystem} {place there : Location} {name : String}
    (h : fs.enter place name = .ok there) : fs.node? place = some .directory := by
  unfold enter at h
  cases hn : fs.node? place with
  | none =>
    rw [hn] at h
    cases h
  | some node =>
    cases node with
    | file bytes =>
      rw [hn] at h
      cases h
    | directory => rfl

variable {fs : FileSystem} {here : Location}

/-- A step of a walk starts from a directory, so it is the same after a change elsewhere. -/
theorem enter_set (hn : fs.node? here ≠ some .directory) (node : FileNode) {place there : Location}
    {name : String} (h : fs.enter place name = .ok there) :
    (fs.set here node).enter place name = .ok there := by
  have hd := directory_of_enter h
  have hne : place ≠ here := by
    intro heq
    rw [heq] at hd
    exact hn hd
  rw [← h, enter, enter, node?_set_of_ne fs hne]

theorem walk_set (hn : fs.node? here ≠ some .directory) (node : FileNode) {names : List String}
    {place there : Location} (h : fs.walk place names = .ok there) :
    (fs.set here node).walk place names = .ok there := by
  unfold walk at h ⊢
  induction names generalizing place with
  | nil => exact h
  | cons name rest ih =>
    rw [List.foldlM_cons, bind_eq_ok] at h ⊢
    obtain ⟨next, hnext, hrest⟩ := h
    exact ⟨next, enter_set hn node hnext, ih hrest⟩

/-! ## New files -/

/-- The way to a new file: directories up to its parent, and no directory in its place. -/
theorem way_of_locateNew {path : String} (h : fs.locateNew path = .ok here) :
    ∃ start parent name, fs.start path = .ok start ∧
      Path.names path = (Path.names path).dropLast ++ [name] ∧
      Path.endsInSlash path = false ∧
      fs.walk start (Path.names path).dropLast = .ok parent ∧ fs.enter parent name = .ok here ∧
      fs.node? here ≠ some .directory := by
  obtain ⟨start, hstart, hrest⟩ := bind_eq_ok.1 h
  obtain ⟨parent, hparent, hrest⟩ := bind_eq_ok.1 hrest
  obtain ⟨parent', hdot, hrest⟩ := bind_eq_ok.1 hrest
  have hsame : parent' = parent := by
    rw [enter, directory_of_enter hdot, if_pos rfl] at hdot
    exact (Except.ok.inj hdot).symm
  rw [hsame] at hrest
  cases hlast : (Path.names path).getLast? with
  | none =>
    rw [hlast] at hrest
    cases hrest
  | some name =>
    have hnames : Path.names path = (Path.names path).dropLast ++ [name] :=
      (List.dropLast_append_getLast? name hlast).symm
    rw [hlast] at hrest
    dsimp only at hrest
    split at hrest
    · cases hrest
    · next hname =>
      have hslash : Path.endsInSlash path = false := by
        cases hs : Path.endsInSlash path with
        | false => rfl
        | true => simp [hs] at hname
      obtain ⟨there, hthere, hend⟩ := bind_eq_ok.1 hrest
      split at hend
      · cases hend
      · next hnode =>
        cases hend
        exact ⟨start, parent, name, hstart, hnames, hslash, hparent, hthere, hnode⟩

/-- A created file can be read at its path, and is empty. -/
theorem read_create {path : String} {fs' : FileSystem} (h : fs.create path = .ok (here, fs')) :
    fs'.read path = .ok .empty := by
  obtain ⟨here', hnew, h⟩ := bind_eq_ok.1 h
  cases h
  obtain ⟨start, parent, name, hstart, hnames, hslash, hparent, hhere, hnode⟩ :=
    way_of_locateNew hnew
  have hlocate : (fs.set here (.file .empty)).locate path = .ok here := by
    refine bind_eq_ok.2 ⟨start, hstart, bind_eq_ok.2 ⟨here, ?_, ?_⟩⟩
    · rw [hnames, walk, List.foldlM_append, bind_eq_ok]
      refine ⟨parent, walk_set hnode _ hparent, ?_⟩
      rw [List.foldlM_cons, bind_eq_ok]
      exact ⟨here, enter_set hnode _ hhere, rfl⟩
    · rw [hslash]
      rfl
  refine bind_eq_ok.2 ⟨here, hlocate, ?_⟩
  rw [node?_set_self hnode]

end CallTrace.FileSystem
