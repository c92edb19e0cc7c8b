import CallTrace.Proofs.Results
import CallTrace.Proofs.Source.FirstSight

/-!
# Files made of joined lines

Reading takes away just the line ends that joining put there, so lines that are joined are found
again (`lines_joinLines`), and there is no text that does not come about in this way
(`exists_written`).  A file with such a text answers for each number with the line that was written
there, or says that there is none: so does the first lookup in it, and every later one, whatever has
become of the file by then (`lookup_eq_written`).
-/

namespace CallTrace

/-! ## Texts made of lines -/

namespace Text

/-- Lines that can be told apart once they are joined, and `last` behind them, which counts as a
line without an end unless it is empty.  No line has a feed in it, and none with a bare feed as its
end has a carriage return before that. -/
structure Joinable (ended : List (List Char × LineEnd)) (last : List Char) : Prop where
  unbroken : ∀ line ∈ ended, '\n' ∉ line.1
  unbroken_last : '\n' ∉ last
  bare : ∀ line ∈ ended, line.2 = .feed → line.1.getLast? ≠ some '\r'

/-- The lines as they were before they were joined. -/
def written (ended : List (List Char × LineEnd)) (last : List Char) : List String :=
  ended.map (fun line => String.ofList line.1) ++ if last = [] then [] else [String.ofList last]

theorem dropReturn_of_head? {read : List Char} (h : read.head? ≠ some '\r') :
    dropReturn read = read := by
  unfold dropReturn
  split
  · exact absurd rfl h
  · rfl

/-- The first end in a text ends its first line. -/
theorem linesFrom_ended {line : List Char} {e : LineEnd} (h : '\n' ∉ line)
    (hbare : e = .feed → line.getLast? ≠ some '\r') (rest : List Char) :
    linesFrom [] (line ++ e.chars ++ rest) = line :: linesFrom [] rest := by
  cases e with
  | feed =>
    have hkept : dropReturn line.reverse = line.reverse := by
      apply dropReturn_of_head?
      rw [List.head?_reverse]
      exact hbare rfl
    have hfeed := linesFrom_feed line [] rest h
    rw [List.append_nil, hkept, List.reverse_reverse] at hfeed
    simpa [LineEnd.chars] using hfeed
  | returnFeed =>
    -- The return is read as a part of the line at first.
    have hreturn : '\n' ∉ line ++ ['\r'] := by simp [h]
    have hfeed := linesFrom_feed (line ++ ['\r']) [] rest hreturn
    have hdropped : dropReturn ((line ++ ['\r']).reverse ++ []) = line.reverse := by
      simp [dropReturn]
    rw [hdropped, List.reverse_reverse] at hfeed
    simpa [LineEnd.chars] using hfeed

theorem joinLines_cons (line : List Char × LineEnd) (ended : List (List Char × LineEnd))
    (last : List Char) :
    joinLines (line :: ended) last = line.1 ++ line.2.chars ++ joinLines ended last := by
  simp [joinLines]

variable {ended : List (List Char × LineEnd)} {last : List Char}

theorem Joinable.cons {line : List Char} {e : LineEnd} (h : Joinable ended last)
    (hline : '\n' ∉ line) (hbare : e = .feed → line.getLast? ≠ some '\r') :
    Joinable ((line, e) :: ended) last where
  unbroken := List.forall_mem_cons.2 ⟨hline, h.unbroken⟩
  unbroken_last := h.unbroken_last
  bare := List.forall_mem_cons.2 ⟨hbare, h.bare⟩

theorem Joinable.of_cons {line : List Char} {e : LineEnd} (h : Joinable ((line, e) :: ended) last) :
    '\n' ∉ line ∧ (e = .feed → line.getLast? ≠ some '\r') ∧ Joinable ended last := by
  obtain ⟨hline, hunbroken⟩ := List.forall_mem_cons.1 h.unbroken
  obtain ⟨hbare, hothers⟩ := List.forall_mem_cons.1 h.bare
  exact ⟨hline, hbare, ⟨hunbroken, h.unbroken_last, hothers⟩⟩

theorem linesFrom_joinLines (h : Joinable ended last) :
    linesFrom [] (joinLines ended last) =
      ended.map Prod.fst ++ if last = [] then [] else [last] := by
  induction ended with
  | nil =>
    have hlast := linesFrom_last last [] h.unbroken_last
    simpa [joinLines] using hlast
  | cons line ended ih =>
    obtain ⟨hline, hbare, hrest⟩ := h.of_cons
    rw [joinLines_cons, linesFrom_ended hline hbare, ih hrest]
    rfl

/-- Lines that are joined are the lines of the text. -/
theorem lines_joinLines (h : Joinable ended last) :
    lines (String.ofList (joinLines ended last)) = written ended last := by
  rw [lines, String.toList_ofList, linesFrom_joinLines h, written, List.map_append, List.map_map]
  by_cases hlast : last = []
  · simp [hlast]
  · simp [hlast]

/-- A character in front of joined lines becomes a part of the first line, or of its end. -/
theorem Joinable.exists_cons {c : Char} (hc : c ≠ '\n') (h : Joinable ended last) :
    ∃ ended' last', Joinable ended' last' ∧ c :: joinLines ended last = joinLines ended' last' := by
  cases ended with
  | nil =>
    have hlast : '\n' ∉ c :: last := by simp [h.unbroken_last, Ne.symm hc]
    exact ⟨[], c :: last, ⟨by simp, hlast, by simp⟩, rfl⟩
  | cons line ended =>
    obtain ⟨line, e⟩ := line
    obtain ⟨hline, hbare, hrest⟩ := h.of_cons
    -- A return right before a bare feed makes the end another one; all else belongs to the line.
    by_cases hreturn : c = '\r' ∧ line = [] ∧ e = .feed
    · obtain ⟨rfl, rfl, rfl⟩ := hreturn
      refine ⟨([], .returnFeed) :: ended, last, hrest.cons List.not_mem_nil nofun, ?_⟩
      simp [joinLines, LineEnd.chars]
    · refine ⟨(c :: line, e) :: ended, last, hrest.cons ?_ fun hend => ?_, by simp [joinLines]⟩
      · simp [hline, Ne.symm hc]
      · cases line with
        | nil =>
          intro hlast
          exact hreturn ⟨by simpa using hlast, rfl, hend⟩
        | cons d line =>
          rw [List.getLast?_cons_cons]
          exact hbare hend

theorem exists_joinable (text : List Char) :
    ∃ ended last, Joinable ended last ∧ text = joinLines ended last := by
  induction text with
  | nil => exact ⟨[], [], ⟨by simp, by simp, by simp⟩, rfl⟩
  | cons c text ih =>
    obtain ⟨ended, last, h, rfl⟩ := ih
    by_cases hc : c = '\n'
    · subst hc
      refine ⟨([], .feed) :: ended, last, h.cons List.not_mem_nil fun _ => by simp, ?_⟩
      simp [joinLines, LineEnd.chars]
    · exact h.exists_cons hc

/-- Each text is joined from its lines. -/
theorem exists_written (text : String) :
    ∃ ended last, Joinable ended last ∧ text = String.ofList (joinLines ended last) ∧
      lines text = written ended last := by
  obtain ⟨ended, last, h, htext⟩ := exists_joinable text.toList
  have htext' : text = String.ofList (joinLines ended last) := by
    rw [← htext, String.ofList_toList]
  refine ⟨ended, last, h, htext', ?_⟩
  rw [htext', lines_joinLines h]

end Text

/-! ## Files with such a text -/

/-- What can happen between two lookups: the files change in any way, or a line is looked up. -/
inductive FileStep
  | change (f : FileSystem → FileSystem)
  | look (path : String) (line : Nat)

namespace FileLines

def step (files : FileLines) : FileStep → FileLines
  | .change f => { files with disk := f files.disk }
  | .look path line => (lookup files path line).2

def run (files : FileLines) (steps : List FileStep) : FileLines := steps.foldl step files

variable {files : FileLines} {path : String}

theorem taken_look (files : FileLines) (path : String) (line : Nat) :
    (files.step (.look path line)).taken.lookup path = some (files.snapshot path).1 := by
  have htaken : (files.step (.look path line)).taken.lookup path = _ :=
    taken_snapshot files path path
  rw [htaken, if_pos rfl]

/-- Only a lookup in a file has it read. -/
theorem taken_step_of_ne {s : FileStep} (h : ∀ line, s ≠ .look path line) :
    (files.step s).taken.lookup path = files.taken.lookup path := by
  cases s with
  | change f => rfl
  | look other line =>
    have hne : path ≠ other := by
      rintro rfl
      exact h line rfl
    have htaken : (files.step (.look other line)).taken.lookup path = _ :=
      taken_snapshot files other path
    rw [htaken, if_neg hne]

theorem taken_run_of_not_mem {steps : List FileStep} (h : ∀ line, .look path line ∉ steps) :
    (files.run steps).taken.lookup path = files.taken.lookup path := by
  induction steps generalizing files with
  | nil => rfl
  | cons s steps ih =>
    have hs : ∀ line, s ≠ .look path line := by
      rintro line rfl
      exact h line List.mem_cons_self
    have hsteps : ∀ line, .look path line ∉ steps := fun line hmem =>
      h line (List.mem_cons_of_mem s hmem)
    exact (ih hsteps).trans (taken_step_of_ne hs)

/-- What was read of a file stays. -/
theorem taken_run_of_some {seen : Snapshot} (h : files.taken.lookup path = some seen)
    (steps : List FileStep) : (files.run steps).taken.lookup path = some seen := by
  induction steps generalizing files with
  | nil => exact h
  | cons s steps ih =>
    apply ih
    by_cases hlook : ∃ line, s = .look path line
    · obtain ⟨line, rfl⟩ := hlook
      rw [taken_look, snapshot_fst, h]
      rfl
    · rw [taken_step_of_ne (not_exists.1 hlook), h]

/-- After a lookup in a file its snapshot is the one that this lookup had. -/
theorem snapshot_run_look (files : FileLines) (path : String) (line : Nat) (later : List FileStep) :
    ((files.run (.look path line :: later)).snapshot path).1 = (files.snapshot path).1 := by
  have htaken : (files.run (.look path line :: later)).taken.lookup path = _ :=
    taken_run_of_some (taken_look files path line) later
  rw [snapshot_fst, htaken]
  rfl

theorem lookup_eq_lineAt {seen : FileSystem} (h : (files.snapshot path).1 = .ofPath seen path)
    (line : Nat) : (lookup files path line).1 = seen.lineAt path line := by
  have hanswer : (lookup files path line).1 = (files.snapshot path).1.answer path line := rfl
  rw [hanswer, h]
  exact Snapshot.answer_ofPath seen path line

end FileLines

namespace FileSystem

variable {disk : FileSystem} {path text : String}

/-- Bytes that were made from a text are read as this text. -/
theorem readText_of_read (h : disk.read path = .ok text.toUTF8) :
    disk.readText path = .ok text := by
  have htext : String.fromUTF8? text.toUTF8 = some text := dif_pos text.isValidUTF8
  refine bind_eq_ok.2 ⟨text.toUTF8, h, ?_⟩
  rw [htext]

theorem lineAt_of_readText (h : disk.readText path = .ok text) (n : Nat) {lines : List String}
    (hlines : Text.lines text = lines) :
    disk.lineAt path n =
      if h : 1 ≤ n ∧ n ≤ lines.length then .found lines[n - 1]
      else .failed (.outOfRange path n) := by
  subst hlines
  rw [lineAt, h]

end FileSystem

namespace FileLines

open Text

/-- **Lookups find the lines that were joined.**  If a file holds joined lines when it is looked up
for the first time, then this lookup and each one that comes later, whatever happens between them,
finds the line with the given number as it was written, and no line for any other number. -/
theorem lookup_eq_written {ended : List (List Char × LineEnd)} {last : List Char}
    (h : Joinable ended last) (disk : FileSystem) (path : String) (before : List FileStep)
    (hfirst : ∀ line, .look path line ∉ before)
    (hread : ((ofDisk disk).run before).disk.read path =
      .ok (String.ofList (joinLines ended last)).toUTF8) :
    let files := (ofDisk disk).run before
    let lines := written ended last
    let answer (n : Nat) : Lookup :=
      if hn : 1 ≤ n ∧ n ≤ lines.length then .found lines[n - 1]
      else .failed (.outOfRange path n)
    (∀ n, (lookup files path n).1 = answer n) ∧
      ∀ m later n, (lookup (files.run (.look path m :: later)) path n).1 = answer n := by
  intro files lines answer
  have huntaken : files.taken.lookup path = none := taken_run_of_not_mem hfirst
  have hanswer (n : Nat) : files.disk.lineAt path n = answer n :=
    FileSystem.lineAt_of_readText (FileSystem.readText_of_read hread) n (lines_joinLines h)
  have hseen : (files.snapshot path).1 = .ofPath files.disk path := by
    rw [snapshot_fst, huntaken]
    rfl
  refine ⟨fun n => ?_, fun m later n => ?_⟩
  · exact (lookup_eq_lineAt hseen n).trans (hanswer n)
  · have hstill := snapshot_run_look files path m later
    exact (lookup_eq_lineAt (hstill.trans hseen) n).trans (hanswer n)

/-- Returns within lines and before an end, empty lines and a last line without an end; the file is
read after another one was looked up, and then it is removed. -/
theorem lookup_eq_written_mixed_ends :
    let ended : List (List Char × LineEnd) :=
      [([], .feed), ("a\rb".toList, .feed), ("c\r".toList, .returnFeed), ([], .returnFeed)]
    let last := "d\r".toList
    let path := "mixed.py"
    let bytes := (String.ofList (joinLines ended last)).toUTF8
    let before : List FileStep := [.look "other.py" 1, .change (·.store path bytes)]
    let files := (ofDisk .empty).run before
    let later : List FileStep := [.change (·.remove path), .look path 0]
    Joinable ended last ∧ (∀ line, .look path line ∉ before) ∧ files.disk.read path = .ok bytes ∧
      (lookup files path 2).1 = .found "a\rb" ∧
      (lookup files path 6).1 = .failed (.outOfRange path 6) ∧
      (lookup (files.run (.look path 9 :: later)) path 3).1 = .found "c\r" ∧
      (lookup (files.run (.look path 9 :: later)) path 5).1 = .found "d\r" ∧
      (lookup (files.run (.look path 9 :: later)) path 0).1 = .failed (.outOfRange path 0) := by
  intro ended last path bytes before files later
  have h : Joinable ended last := ⟨by decide, by decide, by decide⟩
  have hfirst : ∀ line, .look path line ∉ before := by
    intro line hmem
    simp [before, path] at hmem
  have hstored (stored : ByteArray) :
      (FileSystem.empty.store "mixed.py" stored).read "mixed.py" = .ok stored := by rfl
  have hread : files.disk.read path = .ok bytes := hstored bytes
  obtain ⟨hnow, hlater⟩ := lookup_eq_written h .empty path before hfirst hread
  refine ⟨h, hfirst, hread, hnow 2, hnow 6, hlater 9 later 3, hlater 9 later 5, hlater 9 later 0⟩

end FileLines

end CallTrace
