import CallTrace.Calls.Declaration
import Mathlib.Data.List.TakeWhile

/-!
# Lines that open a class

The scan for the class keyword goes on behind an occurrence that it has looked at, and so passes
over the occurrences that overlap it.  These begin within a word if all characters of the keyword
but the last belong to words, and then no class name can count there.  With such a keyword the
scan finds what there is (`opensFrom_of_opensBehind`); what it finds is always there
(`opensBehind_of_opensFrom`).  From both the kinds of declaration are read off
(`declarationKind_exact`).
-/

namespace CallTrace

namespace Declaration

open Unicode

variable {keyword name : List Char}

/-! ## The name behind the keyword -/

theorem dropWhile_isWhiteSpace {text : List Char}
    (h : ∀ c ∈ text.head?, isWhiteSpace c = false) : text.dropWhile isWhiteSpace = text := by
  cases text with
  | nil => rfl
  | cons c rest => rw [List.dropWhile_cons, h c rfl]; rfl

/-- The blank before the name is as long as it can be. -/
theorem namesAfterBlank_iff (name after : List Char) :
    namesAfterBlank name after = true ↔
      ∃ blank rest, after = blank ++ name ++ rest ∧ blank ≠ [] ∧
        (∀ c ∈ blank, isWhiteSpace c = true) ∧
        (∀ c ∈ (name ++ rest).head?, isWhiteSpace c = false) ∧ endsWord rest.head? = true := by
  rw [namesAfterBlank, Bool.and_eq_true, Bool.and_eq_true, decide_eq_true_eq,
    List.isPrefixOf_iff_prefix]
  constructor
  · rintro ⟨⟨hshorter, rest, hrest⟩, hends⟩
    have hafter : after.takeWhile isWhiteSpace ++ (name ++ rest) = after := by
      rw [hrest]
      exact List.takeWhile_append_dropWhile
    rw [← hrest, List.drop_left] at hends
    refine ⟨after.takeWhile isWhiteSpace, rest, ?_, ?_, ?_, ?_, hends⟩
    · rw [List.append_assoc, hafter]
    · intro hnil
      rw [hnil, List.nil_append, hrest] at hafter
      rw [hafter] at hshorter
      exact Nat.lt_irrefl _ hshorter
    · intro c hc
      exact List.mem_takeWhile_imp hc
    · intro c hc
      have hnot := List.head?_dropWhile_not isWhiteSpace after
      rw [← hrest, hc] at hnot
      exact hnot
  · rintro ⟨blank, rest, rfl, hblank, hwhite, hhead, hends⟩
    have htrimmed : (blank ++ name ++ rest).dropWhile isWhiteSpace = name ++ rest := by
      rw [List.append_assoc, List.dropWhile_append_of_pos hwhite, dropWhile_isWhiteSpace hhead]
    rw [htrimmed, List.drop_left]
    refine ⟨⟨?_, List.prefix_append _ _⟩, hends⟩
    have := List.length_pos_iff.2 hblank
    simp only [List.length_append]
    omega

/-! ## Occurrences of the keyword -/

/-- Somewhere in the text, before which the character `before` stands, the keyword begins a word and
the name follows it. -/
def OpensBehind (keyword name : List Char) (before : Option Char) (text : List Char) : Prop :=
  ∃ seen after, text = seen ++ keyword ++ after ∧
    endsWord (seen.getLast?.or before) = true ∧ namesAfterBlank name after = true

theorem opensClass_iff_opensBehind (line : List Char) :
    OpensClass keyword name line ↔ OpensBehind keyword name none line := by
  constructor
  · rintro ⟨before, blank, after, rfl, hbefore, hrest⟩
    refine ⟨before, blank ++ name ++ after, by simp only [List.append_assoc], ?_, ?_⟩
    · rwa [Option.or_none]
    · exact (namesAfterBlank_iff name _).2 ⟨blank, after, rfl, hrest⟩
  · rintro ⟨seen, after, rfl, hbefore, hnames⟩
    obtain ⟨blank, rest, rfl, hrest⟩ := (namesAfterBlank_iff name after).1 hnames
    refine ⟨seen, blank, rest, by simp only [List.append_assoc], ?_, hrest⟩
    rwa [Option.or_none] at hbefore

theorem getLast?_cons_or (c : Char) (seen : List Char) (before : Option Char) :
    (c :: seen).getLast?.or before = seen.getLast?.or (some c) := by
  rw [List.getLast?_cons]
  cases seen.getLast? <;> rfl

theorem OpensBehind.cons {c : Char} {text : List Char}
    (h : OpensBehind keyword name (some c) text) (before : Option Char) :
    OpensBehind keyword name before (c :: text) := by
  obtain ⟨seen, after, rfl, hbefore, hnames⟩ := h
  refine ⟨c :: seen, after, rfl, ?_, hnames⟩
  rwa [getLast?_cons_or]

/-- What the scan finds is there. -/
theorem opensBehind_of_opensFrom (before : Option Char) (skip : Nat) (text : List Char)
    (h : opensFrom keyword name before skip text = true) :
    OpensBehind keyword name before text := by
  induction text generalizing before skip with
  | nil => cases h
  | cons c rest ih =>
    cases skip with
    | succ skip => exact (ih (some c) skip h).cons before
    | zero =>
      rw [opensFrom] at h
      split at h
      · next hbegins =>
        rcases Bool.or_eq_true_iff.1 h with hhere | hlater
        · obtain ⟨after, hafter⟩ := List.isPrefixOf_iff_prefix.1 hbegins
          rw [← hafter, List.drop_left, Bool.and_eq_true] at hhere
          exact ⟨[], after, hafter.symm, hhere.1, hhere.2⟩
        · exact (ih (some c) _ hlater).cons before
      · exact (ih (some c) 0 h).cons before

/-! ## Occurrences that are passed over -/

/-- No word begins at any of the next `skip` characters. -/
def InsideWord (before : Option Char) (skip : Nat) (text : List Char) : Prop :=
  ∀ seen after, text = seen ++ after → seen.length < skip →
    endsWord (seen.getLast?.or before) = false

theorem insideWord_zero (before : Option Char) (text : List Char) : InsideWord before 0 text :=
  fun _ _ _ hlt => absurd hlt (Nat.not_lt_zero _)

theorem InsideWord.tail {before : Option Char} {skip : Nat} {c : Char} {rest : List Char}
    (h : InsideWord before (skip + 1) (c :: rest)) : InsideWord (some c) skip rest := by
  rintro seen after rfl hlt
  rw [← getLast?_cons_or c seen before]
  exact h (c :: seen) after rfl (Nat.succ_lt_succ hlt)

/-- Behind the first character of the keyword, no word begins before the keyword ends. -/
theorem insideWord_keyword (hword : ∀ c ∈ keyword.dropLast, isWordChar c = true) {c : Char}
    {rest : List Char} (hbegins : keyword <+: c :: rest) :
    InsideWord (some c) (keyword.length - 1) rest := by
  rintro seen after rfl hlt
  have hread : c :: seen <+: keyword.dropLast := by
    have htext : c :: seen <+: c :: (seen ++ after) := List.prefix_append (c :: seen) after
    have hkeyword : keyword.dropLast <+: c :: (seen ++ after) :=
      (List.dropLast_prefix keyword).trans hbegins
    refine List.prefix_of_prefix_length_le htext hkeyword ?_
    rw [List.length_cons, List.length_dropLast]
    omega
  have hlast : (c :: seen).getLast (List.cons_ne_nil c seen) ∈ keyword.dropLast :=
    hread.subset (List.getLast_mem _)
  rw [← getLast?_cons_or c seen none, Option.or_none,
    List.getLast?_eq_some_getLast (List.cons_ne_nil c seen), endsWord, hword _ hlast]
  rfl

/-- The scan finds what is there.  Induction on the text; while characters are skipped, no word
begins at them. -/
theorem opensFrom_of_opensBehind (hne : keyword ≠ [])
    (hword : ∀ c ∈ keyword.dropLast, isWordChar c = true) (before : Option Char) (skip : Nat)
    (text : List Char) (hskip : InsideWord before skip text)
    (h : OpensBehind keyword name before text) :
    opensFrom keyword name before skip text = true := by
  induction text generalizing before skip with
  | nil =>
    obtain ⟨seen, after, hnil, -⟩ := h
    have hkeyword := (List.append_eq_nil_iff.1 (List.append_eq_nil_iff.1 hnil.symm).1).2
    exact absurd hkeyword hne
  | cons c rest ih =>
    obtain ⟨seen, after, htext, hbefore, hnames⟩ := h
    -- an occurrence behind the first character is one in the rest
    have hlater : ∀ seen', seen = c :: seen' → OpensBehind keyword name (some c) rest := by
      rintro seen' rfl
      rw [getLast?_cons_or] at hbefore
      exact ⟨seen', after, (List.cons.inj htext).2, hbefore, hnames⟩
    have hseen : seen = [] ∨ ∃ seen', seen = c :: seen' := by
      cases seen with
      | nil => exact .inl rfl
      | cons d seen' =>
        have hd : c = d := (List.cons.inj htext).1
        exact .inr ⟨seen', by rw [hd]⟩
    cases skip with
    | succ skip =>
      rcases hseen with rfl | ⟨seen', hseen'⟩
      · have hinside := hskip [] (c :: rest) rfl (Nat.succ_pos skip)
        rw [hinside] at hbefore
        cases hbefore
      · exact ih (some c) skip hskip.tail (hlater seen' hseen')
    | zero =>
      rw [opensFrom]
      split
      · next hbegins =>
        rw [Bool.or_eq_true_iff]
        rcases hseen with rfl | ⟨seen', hseen'⟩
        · left
          have hhere : c :: rest = keyword ++ after := htext
          rw [hhere, List.drop_left, Bool.and_eq_true]
          exact ⟨hbefore, hnames⟩
        · right
          have hinside := insideWord_keyword hword (List.isPrefixOf_iff_prefix.1 hbegins)
          exact ih (some c) _ hinside (hlater seen' hseen')
      · next hbegins =>
        rcases hseen with rfl | ⟨seen', hseen'⟩
        · have hhere : keyword <+: c :: rest := ⟨after, htext.symm⟩
          exact absurd (List.isPrefixOf_iff_prefix.2 hhere) hbegins
        · exact ih (some c) 0 (insideWord_zero _ _) (hlater seen' hseen')

/-! ## Lines -/

theorem opensClass_eq_true_iff (keyword name line : String) :
    opensClass keyword name line = true ↔
      keyword ≠ "" ∧ name ≠ "" ∧
        opensFrom keyword.toList name.toList none 0 line.toList = true := by
  rw [opensClass, Bool.and_eq_true, Bool.and_eq_true, Bool.not_eq_true', Bool.not_eq_true',
    ← Bool.not_eq_true, ← Bool.not_eq_true, String.isEmpty_iff, String.isEmpty_iff, and_assoc]

theorem occurs_iff_infix (text line : List Char) : occurs text line = true ↔ text <:+: line := by
  induction line with
  | nil => rw [occurs, List.isEmpty_iff, List.infix_nil]
  | cons c rest ih =>
    rw [occurs, Bool.or_eq_true_iff, ih, List.isPrefixOf_iff_prefix, List.infix_cons_iff]

end Declaration

open Declaration

/-- When a line carries the marker of static methods. -/
theorem ClassifierRules.marked_iff (rules : ClassifierRules) (line : String) :
    (!rules.staticMarker.isEmpty && occurs rules.staticMarker.toList line.toList) = true ↔
      rules.staticMarker ≠ "" ∧ rules.staticMarker.toList <:+: line.toList := by
  rw [Bool.and_eq_true, Bool.not_eq_true', ← Bool.not_eq_true, String.isEmpty_iff, occurs_iff_infix]

/-- **Class-opening lines are recognised exactly.**  A line taken for one opens a class.
Conversely, a line that opens a class is taken for one if all characters of the keyword but the
last belong to words: no occurrence that matters is passed over.  Any other line declares a static
method exactly if the marker, which must not be empty, stands in it. -/
theorem ClassifierRules.declarationKind_exact (rules : ClassifierRules) (line function : String) :
    (rules.declarationKind line function = .staticInit →
      rules.classKeyword ≠ "" ∧ function ≠ "" ∧
        OpensClass rules.classKeyword.toList function.toList line.toList) ∧
    (rules.classKeyword ≠ "" →
      (∀ c ∈ rules.classKeyword.toList.dropLast, Declaration.isWordChar c = true) →
      function ≠ "" → OpensClass rules.classKeyword.toList function.toList line.toList →
        rules.declarationKind line function = .staticInit) ∧
    (rules.declarationKind line function ≠ .staticInit →
      (rules.declarationKind line function = .staticMethod ↔
        rules.staticMarker ≠ "" ∧ rules.staticMarker.toList <:+: line.toList)) := by
  unfold declarationKind
  by_cases hopens : opensClass rules.classKeyword function line = true
  · rw [if_pos hopens]
    refine ⟨fun _ => ?_, fun _ _ _ _ => rfl, fun hother => absurd rfl hother⟩
    obtain ⟨hkeyword, hname, hfound⟩ := (opensClass_eq_true_iff _ _ _).1 hopens
    refine ⟨hkeyword, hname, ?_⟩
    rw [opensClass_iff_opensBehind]
    exact opensBehind_of_opensFrom none 0 _ hfound
  · rw [if_neg hopens]
    rw [← rules.marked_iff line]
    refine ⟨?_, ?_, fun _ => ?_⟩
    · intro hinit
      split at hinit <;> cases hinit
    · intro hkeyword hword hname hline
      rw [opensClass_iff_opensBehind] at hline
      have hne : rules.classKeyword.toList ≠ [] := mt String.toList_eq_nil_iff.1 hkeyword
      have hfound := opensFrom_of_opensBehind hne hword none 0 _ (insideWord_zero _ _) hline
      exact absurd ((opensClass_eq_true_iff _ _ _).2 ⟨hkeyword, hname, hfound⟩) hopens
    · split
      · next hyes => exact ⟨fun _ => hyes, fun _ => rfl⟩
      · next hno =>
        constructor
        · intro hmethod
          cases hmethod
        · intro hyes
          exact absurd hyes hno

/-- The keyword overlaps itself, and before the class another word stands behind it that begins like
the name.  In the second line no blank stands before the name, which leaves a static method. -/
theorem ClassifierRules.declarationKind_exact_overlapping :
    let rules : ClassifierRules := { ClassifierRules.standard with classKeyword := "clascla" }
    let line := "clasclascla Foo, clascla Foobar, clascla \t Foo(Base):  # @staticmethod"
    let blankless := "clasclascla Foo, clasclaFoo  # @staticmethod"
    rules.classKeyword ≠ "" ∧
      (∀ c ∈ rules.classKeyword.toList.dropLast, Declaration.isWordChar c = true) ∧
      OpensClass rules.classKeyword.toList "Foo".toList line.toList ∧
      rules.declarationKind line "Foo" = .staticInit ∧
      rules.declarationKind blankless "Foo" ≠ .staticInit ∧
      rules.staticMarker.toList <:+: blankless.toList ∧
      rules.declarationKind blankless "Foo" = .staticMethod := by
  intro rules line blankless
  have hkeyword : rules.classKeyword ≠ "" := by decide
  have hword : ∀ c ∈ rules.classKeyword.toList.dropLast, Declaration.isWordChar c = true :=
    List.all_eq_true.1 (by decide)
  have hopens : OpensClass rules.classKeyword.toList "Foo".toList line.toList := by
    refine ⟨"clasclascla Foo, clascla Foobar, ".toList, " \t ".toList,
      "(Base):  # @staticmethod".toList, by decide, by decide, by decide, ?_, ?_, by decide⟩
    · exact List.all_eq_true.1 (by decide)
    · rintro c ⟨⟩
      decide
  have hinit := (rules.declarationKind_exact line "Foo").2.1 hkeyword hword (by decide) hopens
  have hnot : rules.declarationKind blankless "Foo" ≠ .staticInit := by decide
  have hmarker : rules.staticMarker.toList <:+: blankless.toList :=
    ⟨"clasclascla Foo, clasclaFoo  # ".toList, [], by decide⟩
  exact ⟨hkeyword, hword, hopens, hinit, hnot, hmarker,
    ((rules.declarationKind_exact blankless "Foo").2.2 hnot).2 ⟨by decide, hmarker⟩⟩

/-- The standard keyword is of this kind. -/
example :
    ClassifierRules.standard.classKeyword.toList.dropLast.all Declaration.isWordChar = true := by
  decide

/-- With other characters in the keyword an occurrence that matters can be passed over, as the
second one in `---` is. -/
example : opensClass "--" "Foo" "-- Foo" = true ∧ opensClass "--" "Foo" "--- Foo" = false := by
  decide

end CallTrace
