import CallTrace.Proofs.Inventory.View
import CallTrace.Proofs.Output.Texts

/-!
# Reports can be read back

A report has three headers and no other delimiter than indentation.  If no name contains a line
feed and no class name begins with two blanks, that is enough: what was recorded can be read off
the text (`report_reads_back`).

* `ReportSections.ofText`: the reader.  Of a line it looks at the blanks in front alone.
* `InventoryView.sections`: what the sections of a report say.
* `ofText_text`: the reader finds the sections.
* `view_sections`: the sections determine the view, members left out of the first one included.
-/

namespace CallTrace

/-! ## Names -/

/-- The name has no line feed. -/
def Unbroken (name : String) : Prop := '\n' ∉ name.toList

instance (name : String) : Decidable (Unbroken name) := inferInstanceAs (Decidable (¬ _))

/-- The name can stand for a class in a report. -/
structure ClassLegible (name : String) : Prop where
  unbroken : Unbroken name
  margin : ¬ [' ', ' '] <+: name.toList

instance (name : String) : Decidable (ClassLegible name) :=
  decidable_of_iff (Unbroken name ∧ ¬ [' ', ' '] <+: name.toList)
    ⟨fun h => ⟨h.1, h.2⟩, fun h => ⟨h.unbroken, h.margin⟩⟩

/-- The names of the entry can stand in a report. -/
def Inventory.Entry.Legible : Entry → Prop
  | .member className memberName => ClassLegible className ∧ Unbroken memberName
  | .function name => Unbroken name

instance : DecidablePred Inventory.Entry.Legible
  | .member className memberName =>
    inferInstanceAs (Decidable (ClassLegible className ∧ Unbroken memberName))
  | .function name => inferInstanceAs (Decidable (Unbroken name))

/-- All names of the view can stand in a report. -/
structure InventoryView.Legible (v : InventoryView) : Prop where
  className : ∀ c ∈ v.classes, ClassLegible c.name
  member : ∀ c ∈ v.classes, ∀ member ∈ c.members, Unbroken member
  freeFunction : ∀ f ∈ v.freeFunctions, Unbroken f

open Inventory in
theorem legible_view_ofEntries {entries : List Entry} (h : ∀ e ∈ entries, e.Legible) :
    (ofEntries entries).view.Legible := by
  have hlisted : ∀ v ∈ (ofEntries entries).view.classes, ∀ member ∈ v.members,
      ClassLegible v.name ∧ Unbroken member := by
    intro v hv member hmember
    have hlists : (ofEntries entries).view.Lists v.name member := ⟨v, hv, rfl, hmember⟩
    rw [lists_view, holds_ofEntries] at hlists
    exact h _ hlists
  constructor
  · intro v hv
    have hsorted := sorted_view (ordered_ofEntries entries)
    obtain ⟨member, hmember⟩ := List.exists_mem_of_ne_nil _ (hsorted.inhabited v hv)
    exact (hlisted v hv member hmember).1
  · intro v hv member hmember
    exact (hlisted v hv member hmember).2
  · intro f hf
    exact h _ ((mem_freeFunctions_ofEntries entries f).1 hf)

/-! ## Lines of a text -/

namespace OutputLine

/-- The characters of the line without the line feed. -/
def chars (l : OutputLine) : List Char := List.replicate l.indent ' ' ++ l.text.toList

theorem toList_asText (l : OutputLine) : l.asText.toList = l.chars ++ ['\n'] := by
  rw [asText, String.toList_append, String.toList_append, String.toList_ofList]
  rfl

theorem not_mem_chars {l : OutputLine} (h : Unbroken l.text) : '\n' ∉ l.chars := by
  intro hmem
  rcases List.mem_append.1 hmem with hblank | htext
  · exact absurd (List.eq_of_mem_replicate hblank) (by decide)
  · exact h htext

/-- Lines of unbroken names are found again, and an empty line after the last line feed. -/
theorem splitOn_textOf {lines : List OutputLine} (h : ∀ l ∈ lines, Unbroken l.text) :
    (textOf lines).toList.splitOn '\n' = lines.map chars ++ [[]] := by
  induction lines with
  | nil => rfl
  | cons l rest ih =>
    have hl : '\n' ∉ l.chars := not_mem_chars (h l List.mem_cons_self)
    have hrest : ∀ l ∈ rest, Unbroken l.text := fun l hl => h l (List.mem_cons_of_mem _ hl)
    rw [textOf_cons, String.toList_append, toList_asText, List.append_assoc, List.singleton_append,
      List.splitOn_append_cons_self_of_not_mem hl, ih hrest]
    rfl

end OutputLine

theorem InventoryView.Legible.unbroken_lines {v : InventoryView} (h : v.Legible) :
    ∀ l ∈ v.lines, Unbroken l.text := by
  intro l hl
  simp only [lines, ClassView.lines, List.mem_append, List.mem_cons, List.mem_map, List.mem_flatMap,
    List.mem_filter, List.not_mem_nil, or_false] at hl
  rcases hl with
    (((((rfl | rfl) | ⟨c, ⟨hc, -⟩, rfl⟩) | rfl) |
      ⟨c, ⟨hc, -⟩, rfl | ⟨member, hmember, rfl⟩⟩) | rfl) | ⟨f, hf, rfl⟩
  · decide
  · decide
  · exact (h.className c hc).unbroken
  · decide
  · exact (h.className c hc).unbroken
  · exact h.member c hc member hmember
  · decide
  · exact h.freeFunction f hf

/-! ## Reading by indentation -/

/-- What stands after `n` blanks, if the line begins with so many. -/
def indented? (n : Nat) (line : List Char) : Option String :=
  if List.replicate n ' ' <+: line then some (String.ofList (line.drop n)) else none

/-- The names in the first lines that are indented by `n`, and the other lines. -/
def readNames (n : Nat) : List (List Char) → List String × List (List Char)
  | [] => ([], [])
  | line :: rest =>
    match indented? n line with
    | some name => (name :: (readNames n rest).1, (readNames n rest).2)
    | none => ([], line :: rest)

/-- Classes with their members, as far as the lines are indented like these. -/
structure ClassesRead where
  /-- Members before the first class. -/
  members : List String
  classes : List (String × List String)
  rest : List (List Char)

def readClasses : List (List Char) → ClassesRead
  | [] => ⟨[], [], []⟩
  | line :: rest =>
    let read := readClasses rest
    match indented? 5 line, indented? 3 line with
    | some member, _ => ⟨member :: read.members, read.classes, read.rest⟩
    | none, some name => ⟨[], (name, read.members) :: read.classes, read.rest⟩
    | none, none => ⟨[], [], line :: rest⟩

/-- What the sections of a report say. -/
structure ReportSections where
  initOnly : List String
  used : List (String × List String)
  freeFunctions : List String
deriving DecidableEq, Repr

def ReportSections.ofText (text : String) : ReportSections :=
  let (initOnly, lines) := readNames 4 ((text.toList.splitOn '\n').drop 2)
  let read := readClasses (lines.drop 1)
  ⟨initOnly, read.classes, (readNames 2 (read.rest.drop 1)).1⟩

theorem indented?_blanks (n : Nat) (name : String) :
    indented? n (List.replicate n ' ' ++ name.toList) = some name := by
  have hdrop : (List.replicate n ' ' ++ name.toList).drop n = name.toList :=
    List.drop_left' List.length_replicate
  rw [indented?, if_pos (List.prefix_append _ _), hdrop, String.ofList_toList]

/-- A class is not taken for a member. -/
theorem indented?_className {name : String} (h : ClassLegible name) :
    indented? 5 (List.replicate 3 ' ' ++ name.toList) = none := by
  have hblanks : List.replicate 5 ' ' = List.replicate 3 ' ' ++ [' ', ' '] := rfl
  have hbegins : ¬ List.replicate 5 ' ' <+: List.replicate 3 ' ' ++ name.toList := by
    rw [hblanks, List.prefix_append_right_inj]
    exact h.margin
  rw [indented?, if_neg hbegins]

theorem readNames_cons_of_none {n : Nat} {line : List Char} (h : indented? n line = none)
    (rest : List (List Char)) : readNames n (line :: rest) = ([], line :: rest) := by
  rw [readNames, h]

theorem readNames_append (n : Nat) (names : List String) {line : List Char}
    (h : indented? n line = none) (rest : List (List Char)) :
    readNames n (names.map (fun name => OutputLine.chars ⟨n, name⟩) ++ line :: rest)
      = (names, line :: rest) := by
  induction names with
  | nil => exact readNames_cons_of_none h rest
  | cons name names ih =>
    have hname : indented? n (OutputLine.chars ⟨n, name⟩) = some name := indented?_blanks n name
    rw [List.map_cons, List.cons_append, readNames, hname, ih]

theorem readClasses_cons_of_none {line : List Char} (h₅ : indented? 5 line = none)
    (h₃ : indented? 3 line = none) (rest : List (List Char)) :
    readClasses (line :: rest) = ⟨[], [], line :: rest⟩ := by
  rw [readClasses, h₅, h₃]

theorem readClasses_members (members : List String) {lines : List (List Char)}
    {others : List String} {classes : List (String × List String)} {rest : List (List Char)}
    (h : readClasses lines = ⟨others, classes, rest⟩) :
    readClasses (members.map (fun member => OutputLine.chars ⟨5, member⟩) ++ lines)
      = ⟨members ++ others, classes, rest⟩ := by
  induction members with
  | nil => exact h
  | cons member members ih =>
    have hmember : indented? 5 (OutputLine.chars ⟨5, member⟩) = some member :=
      indented?_blanks 5 member
    rw [List.map_cons, List.cons_append, readClasses, hmember, ih]
    rfl

theorem readClasses_class {c : ClassView} (hname : ClassLegible c.name) {lines : List (List Char)}
    {classes : List (String × List String)} {rest : List (List Char)}
    (h : readClasses lines = ⟨[], classes, rest⟩) :
    readClasses (c.lines.map OutputLine.chars ++ lines)
      = ⟨[], (c.name, c.members) :: classes, rest⟩ := by
  have hclass₅ : indented? 5 (OutputLine.chars ⟨3, c.name⟩) = none := indented?_className hname
  have hclass₃ : indented? 3 (OutputLine.chars ⟨3, c.name⟩) = some c.name :=
    indented?_blanks 3 c.name
  have hlines : c.lines.map OutputLine.chars =
      OutputLine.chars ⟨3, c.name⟩ ::
        c.members.map (fun member => OutputLine.chars ⟨5, member⟩) := by
    rw [ClassView.lines, List.map_cons, List.map_map]
    rfl
  rw [hlines, List.cons_append, readClasses, hclass₅, hclass₃, readClasses_members c.members h,
    List.append_nil]

theorem readClasses_append {classes : List ClassView} (h : ∀ c ∈ classes, ClassLegible c.name)
    {line : List Char} (h₅ : indented? 5 line = none) (h₃ : indented? 3 line = none)
    (rest : List (List Char)) :
    readClasses ((classes.flatMap ClassView.lines).map OutputLine.chars ++ line :: rest)
      = ⟨[], classes.map fun c => (c.name, c.members), line :: rest⟩ := by
  induction classes with
  | nil => exact readClasses_cons_of_none h₅ h₃ rest
  | cons c classes ih =>
    have hc : ClassLegible c.name := h c List.mem_cons_self
    have hclasses : ∀ c ∈ classes, ClassLegible c.name := fun c hc =>
      h c (List.mem_cons_of_mem _ hc)
    rw [List.flatMap_cons, List.map_append, List.append_assoc, readClasses_class hc (ih hclasses)]
    rfl

/-! ## Sections -/

/-- What the sections of the report say. -/
def InventoryView.sections (v : InventoryView) : ReportSections where
  initOnly := (v.classes.filter fun c => c.onlyStaticInit).map ClassView.name
  used := (v.classes.filter fun c => !c.onlyStaticInit).map fun c => (c.name, c.members)
  freeFunctions := v.freeFunctions

/-- The reader finds the sections. -/
theorem InventoryView.Legible.ofText_text {v : InventoryView} (h : v.Legible) :
    ReportSections.ofText v.text = v.sections := by
  have hused : ∀ c ∈ v.classes.filter fun c => !c.onlyStaticInit, ClassLegible c.name :=
    fun c hc => h.className c (List.mem_of_mem_filter hc)
  have hlines : (v.text.toList.splitOn '\n').drop 2 =
      v.sections.initOnly.map (fun name => OutputLine.chars ⟨4, name⟩) ++
        OutputLine.chars ⟨2, "not only static init:"⟩ ::
          (((v.classes.filter fun c => !c.onlyStaticInit).flatMap ClassView.lines).map
              OutputLine.chars ++
            OutputLine.chars ⟨0, "Free functions:"⟩ ::
              (v.freeFunctions.map (fun name => OutputLine.chars ⟨2, name⟩) ++ [[]])) := by
    rw [← v.textOf_lines, OutputLine.splitOn_textOf h.unbroken_lines]
    simp [lines, sections, Function.comp_def]
  have hsecond : indented? 4 (OutputLine.chars ⟨2, "not only static init:"⟩) = none := by decide
  have hthird₅ : indented? 5 (OutputLine.chars ⟨0, "Free functions:"⟩) = none := by decide
  have hthird₃ : indented? 3 (OutputLine.chars ⟨0, "Free functions:"⟩) = none := by decide
  have hend : indented? 2 [] = none := by decide
  rw [ReportSections.ofText, hlines, readNames_append 4 _ hsecond]
  show ReportSections.mk _ (readClasses (_ ++ _)).classes
    (readNames 2 ((readClasses (_ ++ _)).rest.drop 1)).1 = _
  rw [readClasses_append hused hthird₅ hthird₃, List.drop_one, List.tail_cons,
    readNames_append 2 _ hend]
  rfl

namespace ReportSections

/-- A class of the first section, of which only the body was run. -/
def initOnlyClass (name : String) : ClassView := ⟨name, true, [staticInitMember]⟩

/-- A class of the second section. -/
def usedClass (c : String × List String) : ClassView := ⟨c.1, false, c.2⟩

/-- The order of classes in a view. -/
def byName (c d : ClassView) : Bool := decide (c.name ≤ d.name)

/-- The view with these sections. -/
def view (s : ReportSections) : InventoryView where
  classes := (s.initOnly.map initOnlyClass).merge (s.used.map usedClass) byName
  freeFunctions := s.freeFunctions

/-- The names of all classes, section by section. -/
def classNames (s : ReportSections) : List String := s.initOnly ++ s.used.map Prod.fst

/-- The sections say that the member was recorded for the class. -/
def Says (s : ReportSections) (className member : String) : Prop :=
  className ∈ s.initOnly ∧ member = staticInitMember ∨
    ∃ members, (className, members) ∈ s.used ∧ member ∈ members

theorem pairwise_merge_byName {classes others : List ClassView}
    (h : classes.Pairwise (·.name ≤ ·.name)) (h' : others.Pairwise (·.name ≤ ·.name)) :
    (classes.merge others byName).Pairwise (·.name ≤ ·.name) := by
  have htrans : ∀ a b c, byName a b = true → byName b c = true → byName a c = true := by
    intro a b c hab hbc
    exact decide_eq_true (le_trans (of_decide_eq_true hab) (of_decide_eq_true hbc))
  have htotal : ∀ a b, (byName a b || byName b a) = true := by
    intro a b
    rw [byName, byName, Bool.or_eq_true, decide_eq_true_iff, decide_eq_true_iff]
    exact le_total a.name b.name
  have hmerged := List.pairwise_merge htrans htotal classes others (h.imp decide_eq_true)
    (h'.imp decide_eq_true)
  exact hmerged.imp of_decide_eq_true

end ReportSections

open ReportSections

theorem InventoryView.map_usedClass (v : InventoryView) :
    v.sections.used.map usedClass = v.classes.filter fun c => !c.onlyStaticInit := by
  have hclass : ∀ c ∈ v.classes.filter fun c => !c.onlyStaticInit,
      usedClass (c.name, c.members) = c := by
    intro c hc
    have hmarked : c.onlyStaticInit = false := by simpa using (List.mem_filter.1 hc).2
    rw [usedClass, ← hmarked]
  rw [sections, List.map_map]
  exact (List.map_congr_left hclass).trans (List.map_id _)

namespace InventoryView.Sorted

variable {v : InventoryView}

theorem nodup_names (h : v.Sorted) : (v.classes.map ClassView.name).Nodup :=
  List.pairwise_map.2 (h.classes.imp fun hlt => ne_of_lt hlt)

theorem map_initOnlyClass (h : v.Sorted) :
    v.sections.initOnly.map initOnlyClass = v.classes.filter fun c => c.onlyStaticInit := by
  have hclass : ∀ c ∈ v.classes.filter fun c => c.onlyStaticInit, initOnlyClass c.name = c := by
    intro c hc
    obtain ⟨hmem, hmarked⟩ := List.mem_filter.1 hc
    have hmembers : c.members = [staticInitMember] := (h.marked c hmem).1 hmarked
    rw [initOnlyClass, ← hmembers, ← hmarked]
  rw [sections, List.map_map]
  exact (List.map_congr_left hclass).trans (List.map_id _)

/-- Nothing is lost in the sections. -/
theorem view_sections (h : v.Sorted) : v.sections.view = v := by
  have hname : ∀ c ∈ v.classes, ∀ d ∈ v.classes, c.name = d.name → c = d :=
    fun c hc d hd => List.inj_on_of_nodup_map h.nodup_names hc hd
  have hle : v.classes.Pairwise fun c d => c.name ≤ d.name := h.classes.imp le_of_lt
  have hperm : v.sections.view.classes.Perm v.classes := by
    rw [view, map_initOnlyClass h, map_usedClass v]
    exact (List.merge_perm_append _).trans (List.filter_append_perm _ _)
  have hmerged : v.sections.view.classes.Pairwise fun c d => c.name ≤ d.name := by
    rw [view, map_initOnlyClass h, map_usedClass v]
    exact pairwise_merge_byName (hle.filter _) (hle.filter _)
  have hclasses : v.sections.view.classes = v.classes := by
    refine hperm.eq_of_pairwise (fun c d hc hd hcd hdc => ?_) hmerged hle
    exact hname c (hperm.subset hc) d hd (le_antisymm hcd hdc)
  exact congrArg (InventoryView.mk · v.freeFunctions) hclasses

/-- Each class is in one section. -/
theorem nodup_classNames (h : v.Sorted) : v.sections.classNames.Nodup := by
  have hperm : v.sections.classNames.Perm (v.classes.map ClassView.name) := by
    rw [classNames, sections, List.map_map]
    show (_ ++ List.map ClassView.name _).Perm _
    rw [← List.map_append]
    exact (List.filter_append_perm _ _).map _
  exact hperm.nodup_iff.2 h.nodup_names

theorem says_sections (h : v.Sorted) (className member : String) :
    v.sections.Says className member ↔ v.Lists className member := by
  constructor
  · rintro (⟨hname, rfl⟩ | ⟨members, hused, hmember⟩)
    · obtain ⟨c, hc, rfl⟩ := List.mem_map.1 hname
      obtain ⟨hmem, hmarked⟩ := List.mem_filter.1 hc
      have hmembers : c.members = [staticInitMember] := (h.marked c hmem).1 hmarked
      exact ⟨c, hmem, rfl, by rw [hmembers]; exact List.mem_singleton_self _⟩
    · obtain ⟨c, hc, heq⟩ := List.mem_map.1 hused
      cases heq
      exact ⟨c, List.mem_of_mem_filter hc, rfl, hmember⟩
  · rintro ⟨c, hc, rfl, hmember⟩
    cases hmarked : c.onlyStaticInit with
    | true =>
      have hmembers : c.members = [staticInitMember] := (h.marked c hc).1 hmarked
      rw [hmembers, List.mem_singleton] at hmember
      exact .inl ⟨List.mem_map.2 ⟨c, List.mem_filter.2 ⟨hc, hmarked⟩, rfl⟩, hmember⟩
    | false =>
      have hfilter : c ∈ v.classes.filter fun c => !c.onlyStaticInit :=
        List.mem_filter.2 ⟨hc, by rw [hmarked]; rfl⟩
      exact .inr ⟨c.members, List.mem_map.2 ⟨c, hfilter, rfl⟩, hmember⟩

end InventoryView.Sorted

/-! ## Reports -/

namespace InventoryView

/-- What a report leaves on a channel. -/
def written (v : InventoryView) : List UInt8 :=
  (Channel.unlimited.writeReport v.lines).2.bytes.toList

theorem written_eq_utf8_text (v : InventoryView) : v.written = Channel.utf8 v.text := by
  rw [v.utf8_text, written, Channel.bytes_writeReport, Channel.writeLines_eq_put, Channel.put,
    Channel.unlimited]
  simp

/-- Views of legible names that leave the same are the same. -/
theorem eq_of_written_eq {v w : InventoryView} (hv : v.Legible) (hw : w.Legible) (hvs : v.Sorted)
    (hws : w.Sorted) (h : v.written = w.written) : v = w := by
  have htext : v.text = w.text := by
    rw [written_eq_utf8_text, written_eq_utf8_text] at h
    exact Channel.utf8_inj.1 h
  calc v = v.sections.view := hvs.view_sections.symm
    _ = (ReportSections.ofText v.text).view := by rw [hv.ofText_text]
    _ = (ReportSections.ofText w.text).view := by rw [htext]
    _ = w.sections.view := by rw [hw.ofText_text]
    _ = w := hws.view_sections

end InventoryView

namespace Inventory

/-- **Reports can be read back.**  If no name has a line feed and no class name begins with two
blanks, then reports are equal only if the views are.  The reader finds the view in the text, each
class in one section, and exactly what was recorded. -/
theorem report_reads_back (entries others : List Entry) (hentries : ∀ e ∈ entries, e.Legible)
    (hothers : ∀ e ∈ others, e.Legible) :
    let view := (ofEntries entries).view
    let sections := ReportSections.ofText view.text
    (view.written = (ofEntries others).view.written → view = (ofEntries others).view) ∧
      view.written = Channel.utf8 view.text ∧
      sections.view = view ∧
      sections.classNames.Nodup ∧
      (∀ className member, sections.Says className member ↔ .member className member ∈ entries) ∧
      ∀ f, f ∈ sections.freeFunctions ↔ .function f ∈ entries := by
  intro view sections
  have hlegible : view.Legible := legible_view_ofEntries hentries
  have hsorted : view.Sorted := sorted_view (ordered_ofEntries entries)
  have hsections : sections = view.sections := hlegible.ofText_text
  rw [hsections]
  refine ⟨fun h => ?_, view.written_eq_utf8_text, hsorted.view_sections, hsorted.nodup_classNames,
    fun className member => ?_, mem_freeFunctions_ofEntries entries⟩
  · exact InventoryView.eq_of_written_eq hlegible (legible_view_ofEntries hothers) hsorted
      (sorted_view (ordered_ofEntries others)) h
  · rw [hsorted.says_sections, lists_view, holds_ofEntries]

/-- Members, classes and functions that look like headers or like one another: the two reports
differ in that a line stands for a member of the class without a name in the one, and for a class
in the other. -/
theorem report_reads_back_headers :
    let entries : List Entry :=
      [.member "" "Free functions:", .member " Free functions:" "<static init>",
        .member "not only static init:" "   x", .function "  not only static init:", .function ""]
    let others : List Entry :=
      [.member "" "<static init>", .member " Free functions:" "<static init>",
        .member "not only static init:" "   x", .function "  not only static init:", .function ""]
    (∀ e ∈ entries, e.Legible) ∧ (∀ e ∈ others, e.Legible) ∧
      (ofEntries entries).view.written ≠ (ofEntries others).view.written ∧
      (ReportSections.ofText (ofEntries entries).view.text).Says "" "Free functions:" := by
  intro entries others
  have hentries : ∀ e ∈ entries, e.Legible := by decide
  have hothers : ∀ e ∈ others, e.Legible := by decide
  obtain ⟨hwritten, -, -, -, hread, -⟩ := report_reads_back entries others hentries hothers
  have hviews : (ofEntries entries).view ≠ (ofEntries others).view := by decide
  exact ⟨hentries, hothers, fun h => hviews (hwritten h), (hread _ _).2 (by decide)⟩

/-- If class names may begin with two blanks, a class can be taken for a member. -/
example :
    (ofEntries [.member "" "a", .member "  b" "c"]).view.text =
      (ofEntries [.member "" "a", .member "" "b", .member "" "c"]).view.text := by
  decide

end Inventory

end CallTrace
