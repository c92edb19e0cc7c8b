import CallTrace.Files.Path
import Mathlib.Data.List.TakeWhile

/-!
# The last name of a path

Read component by component, a path is the root or a leading `.`, and then its names and each
`..`; repeated slashes and other single dots stand for nothing.  The name of the file is the last
component if that is a name (`fileName?`), and its extension is what stands behind the last dot,
if something stands before this dot (`extension?`).  `lastName?` looks at the end of the path only
and finds the same name (`fileName?_eq_lastName?`).  Where this name is in the text is said by
`endsIn_iff`.
-/

namespace CallTrace.Path

/-! ## Pieces -/

/-- A slash cuts the pieces before it from those after it. -/
theorem piecesFrom_append_slash (read before rest : List Char) :
    piecesFrom read (before ++ '/' :: rest) = piecesFrom read before ++ piecesFrom [] rest := by
  induction before generalizing read with
  | nil => rfl
  | cons c before ih =>
    rw [List.cons_append, piecesFrom, piecesFrom]
    split
    · rw [ih, List.cons_append]
    · rw [ih]

/-- The pieces of a path that is put together from them. -/
theorem piecesFrom_flatMap {piece : List Char} {back : List (List Char)} (hpiece : '/' ∉ piece)
    (hback : ∀ p ∈ back, '/' ∉ p) :
    piecesFrom [] (piece ++ back.flatMap ('/' :: ·)) = piece :: back := by
  induction back generalizing piece with
  | nil => simpa using piecesFrom_last piece [] hpiece
  | cons p back ih =>
    obtain ⟨hp, hback⟩ := List.forall_mem_cons.1 hback
    rw [List.flatMap_cons, List.cons_append, piecesFrom_append_slash,
      piecesFrom_last piece [] hpiece, ih hp hback]
    simp

theorem intercalate_cons_flatMap (piece : List Char) (back : List (List Char)) :
    ['/'].intercalate (piece :: back) = piece ++ back.flatMap ('/' :: ·) := by
  induction back generalizing piece with
  | nil => simp [List.intercalate]
  | cons p back ih =>
    rw [List.intercalate_cons_cons, ih, List.flatMap_cons]
    simp

theorem intercalate_append_flatMap (front : List (List Char)) (piece : List Char)
    (back : List (List Char)) :
    ['/'].intercalate (front ++ piece :: back) =
      front.flatMap (· ++ ['/']) ++ piece ++ back.flatMap ('/' :: ·) := by
  induction front with
  | nil => simpa using intercalate_cons_flatMap piece back
  | cons p front ih =>
    obtain ⟨q, rest, hrest⟩ : ∃ q rest, front ++ piece :: back = q :: rest :=
      List.exists_cons_of_ne_nil (by simp)
    rw [List.cons_append, hrest, List.intercalate_cons_cons, ← hrest, ih, List.flatMap_cons]
    simp only [List.append_assoc]

/-- A path is put together from its pieces. -/
theorem eq_of_piecesFrom {path piece : List Char} {front back : List (List Char)}
    (h : piecesFrom [] path = front ++ piece :: back) :
    path = front.flatMap (· ++ ['/']) ++ piece ++ back.flatMap ('/' :: ·) := by
  rw [← intercalate_append_flatMap, ← h, intercalate_pieces]
  rfl

/-! ## Components -/

/-- What a path is made of when it is read from the beginning. -/
inductive Component
  | root
  | here
  | above
  | named (name : List Char)
deriving DecidableEq, Repr

/-- The component that a piece stands for. -/
def component? (piece : List Char) : Option Component :=
  if piece = [] ∨ piece = ['.'] then none
  else if piece = ['.', '.'] then some .above
  else some (.named piece)

/-- The components of a path.  A single dot counts at the very beginning only. -/
def components (path : String) : List Component :=
  (if isAbsolute path then [.root] else if (pieces path).head? = some ['.'] then [.here] else [])
    ++ (pieces path).filterMap component?

/-- The last component, if it is a name. -/
def fileName? (path : String) : Option (List Char) :=
  match (components path).getLast? with
  | some (.named name) => some name
  | _ => none

/-- The piece stands for nothing at the end of a path. -/
def Idle (piece : List Char) : Prop := piece = [] ∨ piece = ['.']

/-- The piece is the last one of the path that counts, and it is a name. -/
def EndsIn (path : String) (name : List Char) : Prop :=
  ∃ front back, pieces path = front ++ name :: back ∧ (∀ p ∈ back, Idle p) ∧ ¬ Idle name ∧
    name ≠ ['.', '.']

theorem component?_eq_none_iff {piece : List Char} : component? piece = none ↔ Idle piece := by
  unfold component? Idle
  split
  · next h => exact ⟨fun _ => h, fun _ => rfl⟩
  · next h =>
    constructor
    · intro hnone
      split at hnone <;> cases hnone
    · intro hidle
      exact absurd hidle h

theorem component?_eq_named_iff {piece name : List Char} :
    component? piece = some (.named name) ↔ piece = name ∧ ¬ Idle name ∧ name ≠ ['.', '.'] := by
  unfold component? Idle
  constructor
  · intro h
    split at h
    · cases h
    · next hidle =>
      split at h
      · cases h
      · next habove =>
        cases h
        exact ⟨rfl, hidle, habove⟩
  · rintro ⟨rfl, hidle, habove⟩
    rw [if_neg hidle, if_neg habove]

theorem fileName?_eq_getLast? {path : String} {name : List Char} :
    fileName? path = some name ↔ (components path).getLast? = some (.named name) := by
  unfold fileName?
  constructor
  · intro h
    split at h
    · next hlast =>
      cases h
      exact hlast
    · cases h
  · intro h
    rw [h]

/-- The root and a leading dot are never the last name. -/
theorem getLast?_components {path : String} {name : List Char} :
    (components path).getLast? = some (.named name) ↔
      ((pieces path).filterMap component?).getLast? = some (.named name) := by
  rw [components, List.getLast?_append]
  cases ((pieces path).filterMap component?).getLast? with
  | some last => rw [Option.some_or]
  | none =>
    rw [Option.none_or]
    constructor
    · intro h
      split at h
      · cases h
      · split at h <;> cases h
    · intro h
      cases h

theorem fileName?_eq_some_iff {path : String} {name : List Char} :
    fileName? path = some name ↔ EndsIn path name := by
  rw [fileName?_eq_getLast?, getLast?_components, List.getLast?_eq_some_iff]
  simp only [List.filterMap_eq_append_iff, List.filterMap_eq_cons_iff, List.filterMap_eq_nil_iff,
    component?_eq_none_iff, component?_eq_named_iff]
  constructor
  · rintro ⟨_, front, back, hpieces, -, mid, p, rest, rfl, hmid, ⟨rfl, hname⟩, hrest⟩
    refine ⟨front ++ mid, rest, ?_, hrest, hname⟩
    rw [hpieces, List.append_assoc]
  · rintro ⟨front, back, hpieces, hback, hname⟩
    exact ⟨_, front, name :: back, hpieces, rfl, [], name, back, rfl, nofun, ⟨rfl, hname⟩, hback⟩

/-! ## From the end -/

/-- A list is cut at its first element that does not pass. -/
theorem takeWhile_dropWhile_iff {α : Type} {p : α → Bool} {l front rest : List α} {a : α} :
    l.takeWhile p = front ∧ l.dropWhile p = a :: rest ↔
      l = front ++ a :: rest ∧ (∀ x ∈ front, p x = true) ∧ p a = false := by
  constructor
  · rintro ⟨rfl, hdrop⟩
    have ha := List.head_dropWhile_not p (l := l) (by rw [hdrop]; nofun)
    simp only [hdrop, List.head_cons] at ha
    refine ⟨?_, fun x => List.mem_takeWhile_imp, ha⟩
    rw [← hdrop, List.takeWhile_append_dropWhile]
  · rintro ⟨rfl, hfront, ha⟩
    rw [List.takeWhile_append_of_pos hfront, List.dropWhile_append_of_pos hfront]
    simp [ha]

theorem idle_iff {piece : List Char} : (piece.isEmpty || piece == ['.']) = true ↔ Idle piece := by
  rw [Bool.or_eq_true, List.isEmpty_iff, beq_iff_eq, Idle]

theorem lastName?_eq_some_iff {path : String} {name : List Char} :
    lastName? path = some name ↔ EndsIn path name := by
  have hlast : lastName? path = some name ↔ ∃ rest,
      (pieces path).reverse.dropWhile (fun p => p.isEmpty || p == ['.']) = name :: rest ∧
        name ≠ ['.', '.'] := by
    unfold lastName?
    split
    · next hnil => simp [hnil]
    · next p rest hcons =>
      rw [hcons]
      constructor
      · intro h
        split at h
        · cases h
        · next habove =>
          cases h
          exact ⟨rest, rfl, habove⟩
      · rintro ⟨_, h, habove⟩
        cases h
        rw [if_neg habove]
  rw [hlast]
  constructor
  · rintro ⟨rest, hdrop, habove⟩
    obtain ⟨hpieces, hback, hname⟩ := takeWhile_dropWhile_iff.1 ⟨rfl, hdrop⟩
    rw [List.reverse_eq_iff, List.reverse_append, List.reverse_cons, List.append_assoc] at hpieces
    refine ⟨rest.reverse, _, hpieces, ?_, ?_, habove⟩
    · exact fun p hp => idle_iff.1 (hback p (List.mem_reverse.1 hp))
    · rw [← idle_iff, hname]
      nofun
  · rintro ⟨front, back, hpieces, hback, hname, habove⟩
    have hcut : (pieces path).reverse = back.reverse ++ name :: front.reverse := by
      rw [hpieces]
      simp
    refine ⟨front.reverse, (takeWhile_dropWhile_iff.2 ⟨hcut, ?_, ?_⟩).2, habove⟩
    · exact fun p hp => idle_iff.2 (hback p (List.mem_reverse.1 hp))
    · rw [← Bool.not_eq_true, idle_iff]
      exact hname

/-- The end of a path is enough to find the name of its file. -/
theorem fileName?_eq_lastName? (path : String) : fileName? path = lastName? path := by
  ext name
  rw [fileName?_eq_some_iff, lastName?_eq_some_iff]

/-- Behind nothing or a slash, a name is a piece of its own. -/
theorem exists_piecesFrom_append {dir name : List Char}
    (hdir : dir = [] ∨ ∃ above, dir = above ++ ['/'])
    (hname : '/' ∉ name) : ∃ front, piecesFrom [] (dir ++ name) = front ++ [name] := by
  have hlast : piecesFrom [] name = [name] := by simpa using piecesFrom_last name [] hname
  rcases hdir with rfl | ⟨above, rfl⟩
  · exact ⟨[], hlast⟩
  · rw [List.append_assoc, List.singleton_append, piecesFrom_append_slash, hlast]
    exact ⟨_, rfl⟩

/-- In the text of a path, what stands before the last name is nothing or ends in a slash, and what
stands behind it is nothing or starts with one, and has idle pieces only. -/
theorem endsIn_iff {path : String} {name : List Char} :
    EndsIn path name ↔
      ∃ dir tail, path.toList = dir ++ name ++ tail ∧ (dir = [] ∨ ∃ above, dir = above ++ ['/']) ∧
        (tail = [] ∨ ∃ rest, tail = '/' :: rest) ∧ (∀ p ∈ piecesFrom [] tail, Idle p) ∧
        '/' ∉ name ∧ ¬ Idle name ∧ name ≠ ['.', '.'] := by
  constructor
  · rintro ⟨front, back, hpieces, hback, hname⟩
    -- the text is put together from its pieces, which hold no slash of their own
    have hslash : ∀ p ∈ front ++ name :: back, '/' ∉ p := by
      rw [← hpieces]
      exact fun p hp => slash_not_mem_piece [] _ (by simp) hp
    refine ⟨_, _, eq_of_piecesFrom hpieces, ?_, ?_, ?_, hslash name (by simp), hname⟩
    · rcases List.eq_nil_or_concat front with rfl | ⟨front, p, rfl⟩
      · exact .inl rfl
      · right
        rw [List.concat_eq_append, List.flatMap_append, List.flatMap_singleton, ← List.append_assoc]
        exact ⟨_, rfl⟩
    · cases back with
      | nil => exact .inl rfl
      | cons p back => exact .inr ⟨_, rfl⟩
    · have htail : piecesFrom [] ([] ++ back.flatMap ('/' :: ·)) = [] :: back :=
        piecesFrom_flatMap (by simp) fun p hp => hslash p (by simp [hp])
      rw [List.nil_append] at htail
      rw [htail]
      exact List.forall_mem_cons.2 ⟨.inl rfl, hback⟩
  · rintro ⟨dir, tail, hpath, hdir, htail, hidle, hslash, hname⟩
    obtain ⟨front, hfront⟩ := exists_piecesFrom_append hdir hslash
    unfold EndsIn pieces
    rw [hpath]
    rcases htail with rfl | ⟨rest, rfl⟩
    · refine ⟨front, [], ?_, nofun, hname⟩
      rw [List.append_nil, hfront]
    · refine ⟨front, piecesFrom [] rest, ?_, ?_, hname⟩
      · rw [piecesFrom_append_slash, hfront, List.append_assoc, List.singleton_append]
      · exact fun p hp => hidle p (List.mem_cons_of_mem [] hp)

/-! ## Extensions -/

/-- What stands behind the last dot of a name, if something stands before this dot. -/
def extension? (name : List Char) : Option (List Char) :=
  match name.reverse.dropWhile (· ≠ '.') with
  | _ :: _ :: _ => some (name.reverse.takeWhile (· ≠ '.')).reverse
  | _ => none

theorem extension?_eq_some_iff {name ext : List Char} :
    extension? name = some ext ↔
      (∃ stem, stem ≠ [] ∧ name = stem ++ '.' :: ext) ∧ '.' ∉ ext := by
  have hcut : extension? name = some ext ↔
      ∃ c stem, name.reverse.takeWhile (· ≠ '.') = ext.reverse ∧
        name.reverse.dropWhile (· ≠ '.') = '.' :: c :: stem := by
    unfold extension?
    split
    · next a c stem hdrop =>
      obtain rfl : a = '.' := by simpa using (takeWhile_dropWhile_iff.1 ⟨rfl, hdrop⟩).2.2
      rw [hdrop, Option.some_inj, List.reverse_eq_iff]
      exact ⟨fun h => ⟨c, stem, h, rfl⟩, fun ⟨_, _, h, _⟩ => h⟩
    · next hshort =>
      constructor
      · intro h
        cases h
      · rintro ⟨c, stem, -, hdrop⟩
        exact absurd hdrop (hshort _ _ _)
  -- seen from the end, the first dot is the last one
  rw [hcut]
  simp only [takeWhile_dropWhile_iff]
  constructor
  · rintro ⟨c, stem, hname, hext, -⟩
    refine ⟨⟨(c :: stem).reverse, by simp, ?_⟩, ?_⟩
    · rw [← List.reverse_reverse name, hname]
      simp
    · intro hdot
      exact absurd (hext '.' (List.mem_reverse.2 hdot)) (by decide)
  · rintro ⟨⟨stem, hstem, rfl⟩, hdot⟩
    obtain ⟨c, stem', hrev⟩ := List.exists_cons_of_ne_nil (mt List.reverse_eq_nil_iff.1 hstem)
    refine ⟨c, stem', ?_, ?_, by decide⟩
    · simp [← hrev]
    · intro x hx
      simpa using ne_of_mem_of_not_mem (List.mem_reverse.1 hx) hdot

theorem hasExtension_iff {name ext : List Char} :
    hasExtension ext name = true ↔ ∃ stem, stem ≠ [] ∧ name = stem ++ ext := by
  rw [hasExtension, Bool.and_eq_true, decide_eq_true_iff, List.isSuffixOf_iff_suffix]
  constructor
  · rintro ⟨⟨stem, rfl⟩, hlt⟩
    refine ⟨stem, ?_, rfl⟩
    rintro rfl
    exact absurd hlt (Nat.lt_irrefl _)
  · rintro ⟨stem, hstem, rfl⟩
    refine ⟨⟨stem, rfl⟩, ?_⟩
    have := List.length_pos_iff.2 hstem
    rw [List.length_append]
    omega

end CallTrace.Path
