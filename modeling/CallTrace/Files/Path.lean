/-!
# Paths

A path is a text whose names are separated by slashes. Repeated slashes count once. `names` are the
names in order; a slash at the end asks for a directory, as if `.` stood after it. `isAbsolute`
tells where the walk starts.
-/

namespace CallTrace.Path

/-! ## Cutting at slashes -/

/-- The pieces between slashes, empty ones included; `read` holds the first piece backwards. -/
def piecesFrom (read : List Char) : List Char → List (List Char)
  | [] => [read.reverse]
  | c :: rest => if c = '/' then read.reverse :: piecesFrom [] rest else piecesFrom (c :: read) rest

theorem piecesFrom_last (piece read : List Char) (h : '/' ∉ piece) :
    piecesFrom read piece = [(piece.reverse ++ read).reverse] := by
  induction piece generalizing read with
  | nil => simp [piecesFrom]
  | cons c piece ih =>
    simp only [List.mem_cons, not_or] at h
    rw [piecesFrom, if_neg (Ne.symm h.1), ih _ h.2]
    simp

theorem slash_not_mem_piece {p : List Char} (read s : List Char) (hr : '/' ∉ read)
    (h : p ∈ piecesFrom read s) : '/' ∉ p := by
  induction s generalizing read with
  | nil => simp_all [piecesFrom]
  | cons c s ih =>
    rw [piecesFrom] at h
    split at h
    · rcases List.mem_cons.1 h with rfl | h
      · simpa using hr
      · exact ih [] (by simp) h
    · next hc =>
      refine ih (c :: read) ?_ h
      simpa using ⟨Ne.symm hc, hr⟩

theorem piecesFrom_ne_nil (read s : List Char) : piecesFrom read s ≠ [] := by
  induction s generalizing read with
  | nil => simp [piecesFrom]
  | cons c s ih =>
    rw [piecesFrom]
    split
    · simp
    · exact ih _

/-- With slashes between them the pieces give the path again. -/
theorem intercalate_pieces (read s : List Char) :
    ['/'].intercalate (piecesFrom read s) = read.reverse ++ s := by
  induction s generalizing read with
  | nil => simp [piecesFrom, List.intercalate]
  | cons c s ih =>
    rw [piecesFrom]
    split
    · next hc =>
      obtain ⟨p, ps, hs⟩ := List.exists_cons_of_ne_nil (piecesFrom_ne_nil [] s)
      have := ih []
      rw [hs] at this ⊢
      simp only [List.intercalate, List.intersperse_cons_cons, List.flatten_cons] at this ⊢
      simp [this, hc]
    · simp [ih]

/-- The pieces of a path between slashes, empty ones included. -/
def pieces (path : String) : List (List Char) := piecesFrom [] path.toList

def names (path : String) : List String :=
  ((pieces path).filter fun p => !p.isEmpty).map String.ofList

def isAbsolute (path : String) : Bool := path.toList.head? == some '/'

/-- Whether the path ends in a slash, which only a directory may follow. -/
def endsInSlash (path : String) : Bool := path.toList.getLast? == some '/'

/-! ## Limits -/

/-- How many bytes a name may have. -/
def maxName : Nat := 255

/-- How many bytes a path may have. -/
def maxPath : Nat := 4095

/-! ## The last name -/

/-- The last name of a path: slashes and single dots at the end do not count, and neither the root
nor `..` is a name. -/
def lastName? (path : String) : Option (List Char) :=
  match (pieces path).reverse.dropWhile (fun p => p.isEmpty || p == ['.']) with
  | [] => none
  | p :: _ => if p = ['.', '.'] then none else some p

/-- Whether a name is a non-empty stem followed by the extension; `ext` starts with its dot. -/
def hasExtension (ext : List Char) (name : List Char) : Bool :=
  ext.isSuffixOf name && decide (ext.length < name.length)

end CallTrace.Path
