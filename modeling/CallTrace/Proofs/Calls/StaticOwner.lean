import CallTrace.Proofs.Calls.ClassLines
import CallTrace.Proofs.Inventory.Canonical
import CallTrace.Proofs.Source.Watched

/-!
# What calls are found to be

`Declared` lists all that a call without a receiver can be found to be, each case with what it
takes; `declared_byDeclaration` says that there are no others.  A static method takes a readable
declaration line with the static marker that opens no class of that name, and an owner.  The owner
is what stands in the qualified name before a dot and the function, and there is at most one
(`CallContext.OwnedBy.eq`).  Where any of this is missing, the call is that of a free function
(`static_method_iff_owned`).
-/

namespace CallTrace

/-! ## Owners -/

/-- The qualified name is made of the owner, a dot and the function. -/
structure CallContext.OwnedBy (ctx : CallContext) (owner : String) : Prop where
  ne_empty : owner ≠ ""
  qualified : ctx.qualifiedName = owner ++ "." ++ ctx.function

namespace CallContext.OwnedBy

variable {ctx : CallContext} {owner other : String}

theorem toList_qualified (h : ctx.OwnedBy owner) :
    ctx.qualifiedName.toList = owner.toList ++ ['.'] ++ ctx.function.toList := by
  rw [h.qualified, String.toList_append, String.toList_append]
  rfl

/-- There is at most one owner, whatever dots stand in the names. -/
theorem eq (h : ctx.OwnedBy owner) (h' : ctx.OwnedBy other) : other = owner := by
  have hsame := h.toList_qualified.symm.trans h'.toList_qualified
  have howner := List.append_cancel_right (List.append_cancel_right hsame)
  exact (String.toList_inj.1 howner).symm

/-- Below the name of its class the function is found at its qualified name. -/
theorem append_function (h : ctx.OwnedBy owner) :
    ctx.module ++ "." ++ owner ++ "." ++ ctx.function = ctx.module ++ "." ++ ctx.qualifiedName := by
  rw [h.qualified]
  simp only [String.append_assoc]

end CallContext.OwnedBy

namespace ClassifierRules

theorem withoutEnding?_eq_some_iff {text ending rest : List Char} :
    withoutEnding? text ending = some rest ↔ text = rest ++ ending := by
  unfold withoutEnding?
  constructor
  · intro h
    split at h
    · next hends =>
      obtain ⟨before, rfl⟩ := List.isSuffixOf_iff_suffix.1 hends
      rw [← Option.some.inj h]
      simp
    · cases h
  · rintro rfl
    rw [if_pos (List.isSuffixOf_iff_suffix.2 (List.suffix_append rest ending))]
    simp

theorem staticOwner?_eq_some_iff {ctx : CallContext} {owner : String} :
    staticOwner? ctx = some owner ↔ ctx.OwnedBy owner := by
  unfold staticOwner?
  constructor
  · intro h
    split at h
    · cases h
    · next outer houter =>
      split at h
      · cases h
      · next rest hrest =>
        split at h
        · cases h
        · next hempty =>
          cases h
          rw [withoutEnding?_eq_some_iff] at houter hrest
          refine ⟨fun hnil => hempty ?_, ?_⟩
          · rw [List.isEmpty_iff]
            simpa using congrArg String.toList hnil
          · rw [← String.toList_inj, houter, hrest]
            simp
  · intro h
    have houter := withoutEnding?_eq_some_iff.2 h.toList_qualified
    have hrest : withoutEnding? (owner.toList ++ ['.']) ['.'] = some owner.toList :=
      withoutEnding?_eq_some_iff.2 rfl
    have hne : owner.toList.isEmpty = false := by
      rw [List.isEmpty_eq_false_iff]
      exact mt String.toList_eq_nil_iff.1 h.ne_empty
    rw [houter]
    simp only [hrest, hne, Bool.false_eq_true, if_false, String.ofList_toList]

theorem staticOwner?_eq_none_iff {ctx : CallContext} :
    staticOwner? ctx = none ↔ ∀ owner, ¬ ctx.OwnedBy owner := by
  rw [Option.eq_none_iff_forall_ne_some]
  simp only [ne_eq, staticOwner?_eq_some_iff]

/-! ## Declaration lines -/

section
variable (rules : ClassifierRules) (ctx : CallContext) (answer : Lookup)

/-- The declaration line can be read and opens a class named like the function. -/
def OpensOwnClass : Prop :=
  ∃ line, answer = .found line ∧ Declaration.opensClass rules.classKeyword ctx.function line = true

/-- The declaration line can be read, opens no class named like the function, and carries the static
marker, which is not empty. -/
def DeclaresStatic : Prop :=
  ∃ line, answer = .found line ∧
    Declaration.opensClass rules.classKeyword ctx.function line = false ∧
    rules.staticMarker ≠ "" ∧ rules.staticMarker.toList <:+: line.toList

end

variable {rules : ClassifierRules} {ctx : CallContext} {answer : Lookup}

theorem OpensOwnClass.ne_crashed (h : rules.OpensOwnClass ctx answer) : answer ≠ .crashed := by
  obtain ⟨line, rfl, -⟩ := h
  exact nofun

theorem DeclaresStatic.ne_crashed (h : rules.DeclaresStatic ctx answer) : answer ≠ .crashed := by
  obtain ⟨line, rfl, -⟩ := h
  exact nofun

theorem DeclaresStatic.not_opensOwnClass (h : rules.DeclaresStatic ctx answer) :
    ¬ rules.OpensOwnClass ctx answer := by
  rintro ⟨line, rfl, hopens⟩
  obtain ⟨line', hline, hnot, -⟩ := h
  cases hline
  rw [hopens] at hnot
  cases hnot

/-- What the kind of declaration says of the line. -/
theorem kindOfLookup?_cases (rules : ClassifierRules) (ctx : CallContext) (answer : Lookup) :
    (answer = .crashed ∧ rules.kindOfLookup? ctx answer = none) ∨
    (rules.OpensOwnClass ctx answer ∧ rules.kindOfLookup? ctx answer = some .staticInit) ∨
    (rules.DeclaresStatic ctx answer ∧ rules.kindOfLookup? ctx answer = some .staticMethod) ∨
    (answer ≠ .crashed ∧ ¬ rules.OpensOwnClass ctx answer ∧ ¬ rules.DeclaresStatic ctx answer ∧
      rules.kindOfLookup? ctx answer = some .free) := by
  cases answer with
  | crashed => exact .inl ⟨rfl, rfl⟩
  | failed error =>
    refine .inr (.inr (.inr ⟨nofun, ?_, ?_, rfl⟩))
    · rintro ⟨line, hline, -⟩
      cases hline
    · rintro ⟨line, hline, -⟩
      cases hline
  | found line =>
    simp only [kindOfLookup?, declarationKind]
    cases hopens : Declaration.opensClass rules.classKeyword ctx.function line with
    | true => exact .inr (.inl ⟨⟨line, rfl, hopens⟩, rfl⟩)
    | false =>
      have hmarked := rules.marked_iff line
      -- only a line that opens no class is searched for the marker
      rw [if_neg Bool.false_ne_true]
      split
      · next h =>
        exact .inr (.inr (.inl ⟨⟨line, rfl, hopens, hmarked.1 h⟩, rfl⟩))
      · next h =>
        refine .inr (.inr (.inr ⟨nofun, ?_, ?_, rfl⟩))
        · rintro ⟨line', hline, hyes⟩
          cases hline
          rw [hopens] at hyes
          cases hyes
        · rintro ⟨line', hline, -, hyes⟩
          cases hline
          exact h (hmarked.2 hyes)

end ClassifierRules

/-! ## Calls without a receiver -/

/-- How the member relates to its class. -/
def Classification.kind? : Classification → Option MemberKind
  | .member kind _ _ => some kind
  | .free _ _ => none

/-- All that a call without a receiver can be found to be, if the lookup of its declaration line
gives the answer. -/
inductive Declared (rules : ClassifierRules) (ctx : CallContext) (answer : Lookup) :
    Option Classification → Prop
  | crashed (hcrash : answer = .crashed) : Declared rules ctx answer none
  | staticInit (hopens : rules.OpensOwnClass ctx answer) :
      Declared rules ctx answer
        (some (.member .staticInit (ctx.module ++ "." ++ ctx.function) staticInitMember))
  | staticMethod (owner : String) (hstatic : rules.DeclaresStatic ctx answer)
      (howner : ctx.OwnedBy owner) :
      Declared rules ctx answer (some (.member .staticMethod (ctx.module ++ "." ++ owner)
        (rules.staticMemberPrefix ++ ctx.function)))
  | free (hanswer : answer ≠ .crashed) (hopens : ¬ rules.OpensOwnClass ctx answer)
      (hstatic : rules.DeclaresStatic ctx answer → ∀ owner, ¬ ctx.OwnedBy owner) :
      Declared rules ctx answer (some (.free ctx.module ctx.function))

theorem declared_byDeclaration (rules : ClassifierRules) (ctx : CallContext) (answer : Lookup) :
    Declared rules ctx answer ((rules.kindOfLookup? ctx answer).map (rules.byDeclaration ctx)) := by
  rcases rules.kindOfLookup?_cases ctx answer with
    ⟨hcrash, hkind⟩ | ⟨hopens, hkind⟩ | ⟨hstatic, hkind⟩ | ⟨hanswer, hopens, hstatic, hkind⟩
  · rw [hkind]
    exact .crashed hcrash
  · rw [hkind]
    exact .staticInit hopens
  · rw [hkind, Option.map_some, ClassifierRules.byDeclaration]
    cases howner : ClassifierRules.staticOwner? ctx with
    | some owner =>
      exact .staticMethod owner hstatic (ClassifierRules.staticOwner?_eq_some_iff.1 howner)
    | none =>
      exact .free hstatic.ne_crashed hstatic.not_opensOwnClass fun _ =>
        ClassifierRules.staticOwner?_eq_none_iff.1 howner
  · rw [hkind]
    exact .free hanswer hopens fun h => absurd h hstatic

namespace Declared

variable {rules : ClassifierRules} {ctx : CallContext} {answer : Lookup}
  {found : Option Classification}

theorem eq_none_iff (h : Declared rules ctx answer found) : found = none ↔ answer = .crashed := by
  cases h with
  | crashed hcrash => exact ⟨fun _ => hcrash, fun _ => rfl⟩
  | staticInit hopens => exact ⟨nofun, fun hcrash => absurd hcrash hopens.ne_crashed⟩
  | staticMethod owner hstatic howner =>
      exact ⟨nofun, fun hcrash => absurd hcrash hstatic.ne_crashed⟩
  | free hanswer hopens hstatic => exact ⟨nofun, fun hcrash => absurd hcrash hanswer⟩

theorem staticInit_iff (h : Declared rules ctx answer found) :
    found.bind Classification.kind? = some .staticInit ↔ rules.OpensOwnClass ctx answer := by
  cases h with
  | crashed hcrash => exact ⟨nofun, fun hopens => absurd hcrash hopens.ne_crashed⟩
  | staticInit hopens => exact ⟨fun _ => hopens, fun _ => rfl⟩
  | staticMethod owner hstatic howner =>
    exact ⟨nofun, fun hopens => absurd hopens hstatic.not_opensOwnClass⟩
  | free hanswer hopens hstatic => exact ⟨nofun, fun hyes => absurd hyes hopens⟩

theorem staticMethod_iff (h : Declared rules ctx answer found) :
    found.bind Classification.kind? = some .staticMethod ↔
      rules.DeclaresStatic ctx answer ∧ ∃ owner, ctx.OwnedBy owner := by
  cases h with
  | crashed hcrash => exact ⟨nofun, fun ⟨hstatic, _⟩ => absurd hcrash hstatic.ne_crashed⟩
  | staticInit hopens => exact ⟨nofun, fun ⟨hstatic, _⟩ => absurd hopens hstatic.not_opensOwnClass⟩
  | staticMethod owner hstatic howner => exact ⟨fun _ => ⟨hstatic, owner, howner⟩, fun _ => rfl⟩
  | free hanswer hopens hstatic =>
    exact ⟨nofun, fun ⟨hyes, owner, howner⟩ => absurd howner (hstatic hyes owner)⟩

theorem eq_of_owned {owner : String} (h : Declared rules ctx answer found)
    (hstatic : rules.DeclaresStatic ctx answer) (howner : ctx.OwnedBy owner) :
    found = some (.member .staticMethod (ctx.module ++ "." ++ owner)
      (rules.staticMemberPrefix ++ ctx.function)) := by
  cases h with
  | crashed hcrash => exact absurd hcrash hstatic.ne_crashed
  | staticInit hopens => exact absurd hopens hstatic.not_opensOwnClass
  | staticMethod other _ hother => rw [howner.eq hother]
  | free hanswer hopens hnone => exact absurd howner (hnone hstatic owner)

theorem eq_of_else (h : Declared rules ctx answer found) (hanswer : answer ≠ .crashed)
    (hopens : ¬ rules.OpensOwnClass ctx answer)
    (hstatic : ¬ (rules.DeclaresStatic ctx answer ∧ ∃ owner, ctx.OwnedBy owner)) :
    found = some (.free ctx.module ctx.function) := by
  cases h with
  | crashed hcrash => exact absurd hcrash hanswer
  | staticInit hyes => exact absurd hyes hopens
  | staticMethod owner hyes howner => exact absurd ⟨hyes, owner, howner⟩ hstatic
  | free _ _ _ => rfl

end Declared

/-! ## Recording a call -/

namespace Classification

/-- Recording a call adds its member, if it has one, and nothing else to the classes. -/
theorem holds_recordInto (c : Classification) (inv : Inventory) (x y : String) :
    (c.recordInto inv).Holds x y ↔ c.member? = some (x, y) ∨ inv.Holds x y := by
  rw [recordInto_eq_record, Inventory.holds_record, entry_eq_member]

theorem mem_freeFunctions_recordInto (c : Classification) (inv : Inventory) (f : String) :
    f ∈ (c.recordInto inv).freeFunctions ↔ c.function? = some f ∨ f ∈ inv.freeFunctions := by
  rw [recordInto_eq_record, Inventory.mem_freeFunctions_record, entry_eq_function]

end Classification

/-- **Static methods belong to the one owner that the qualified name gives.**  A call without a
receiver is found to be that of a static method exactly if its declaration line can be read, opens
no class named like the function and carries the marker, and the qualified name is made of an
owner, a dot and the function.  There is one such owner only; the one new member is that of its
class.  A call that is neither that nor the run of a class body adds its simple name to the free
functions and leaves all classes as they were.  Nothing is found only if the lookup crashes. -/
theorem static_method_iff_owned {σ : Type} [LineSource σ] (rules : ClassifierRules)
    (ctx : CallContext) (sources : σ) (inv : Inventory)
    (hinstance : ctx.bindings.get? rules.instanceBinding = none)
    (hclass : ctx.bindings.get? rules.classBinding = none) :
    let answer := (lookup sources ctx.file ctx.firstLine).1
    let found := (rules.classify ctx sources).1
    (found = none ↔ answer = .crashed) ∧
    (found.bind Classification.kind? = some .staticInit ↔ rules.OpensOwnClass ctx answer) ∧
    (found.bind Classification.kind? = some .staticMethod ↔
      rules.DeclaresStatic ctx answer ∧ ∃ owner, ctx.OwnedBy owner) ∧
    (∀ owner, ctx.OwnedBy owner →
      let className := ctx.module ++ "." ++ owner
      let member := rules.staticMemberPrefix ++ ctx.function
      (∀ other, ctx.OwnedBy other → other = owner) ∧
      className ++ "." ++ ctx.function = ctx.module ++ "." ++ ctx.qualifiedName ∧
      (rules.DeclaresStatic ctx answer →
        let c : Classification := .member .staticMethod className member
        found = some c ∧
        (∀ x y, (c.recordInto inv).Holds x y ↔ (x = className ∧ y = member) ∨ inv.Holds x y) ∧
        (c.recordInto inv).freeFunctions = inv.freeFunctions)) ∧
    (answer ≠ .crashed → ¬ rules.OpensOwnClass ctx answer →
      ¬ (rules.DeclaresStatic ctx answer ∧ ∃ owner, ctx.OwnedBy owner) →
      let c : Classification := .free ctx.module ctx.function
      found = some c ∧ (c.recordInto inv).classes = inv.classes ∧
        ∀ f, f ∈ (c.recordInto inv).freeFunctions ↔ f = ctx.function ∨ f ∈ inv.freeFunctions) := by
  intro answer found
  have hneeds : rules.needsDeclaration ctx = true := by
    rw [ClassifierRules.needsDeclaration, hinstance, hclass]
    rfl
  have hdeclared : Declared rules ctx answer found := by
    have hfound : found = (rules.kindOfLookup? ctx answer).map (rules.byDeclaration ctx) :=
      congrArg Prod.fst (rules.classify_of_unbound ctx sources hneeds)
    rw [hfound]
    exact declared_byDeclaration rules ctx answer
  refine ⟨hdeclared.eq_none_iff, hdeclared.staticInit_iff, hdeclared.staticMethod_iff, ?_, ?_⟩
  · intro owner howner className member
    refine ⟨fun other hother => howner.eq hother, howner.append_function, fun hstatic => ?_⟩
    refine ⟨hdeclared.eq_of_owned hstatic howner, fun x y => ?_, rfl⟩
    rw [Classification.holds_recordInto, Classification.member?, Option.some_inj, Prod.mk_inj,
      eq_comm, @eq_comm _ y]
  · intro hanswer hopens hstatic
    refine ⟨hdeclared.eq_of_else hanswer hopens hstatic, rfl, fun f => ?_⟩
    rw [Classification.mem_freeFunctions_recordInto, Classification.function?, Option.some_inj,
      eq_comm]

/-- The function's name has a dot in it, and stands twice in the qualified name: only the last time
counts.  With a qualified name that is no longer than the function, the call is free. -/
theorem static_method_iff_owned_dotted :
    let rules : ClassifierRules := .standard
    let sources : Overlay FileLines :=
      (Overlay.over (.ofDisk .empty)).insert "demo.py" 3 "    @staticmethod def run.fast():"
    let ctx : CallContext :=
      ((CallContext.ofFunction "demo" "run.fast").declaredAt "demo.py" 3).withQualifiedName
        "Foo.run.fast.run.fast"
    let bare : CallContext := ctx.withQualifiedName "run.fast"
    let inv : Inventory := (Inventory.empty.recordMember "demo.Foo" "run").recordFunction "main"
    (ctx.bindings.get? rules.instanceBinding = none ∧ ctx.bindings.get? rules.classBinding = none) ∧
      ctx.OwnedBy "Foo.run.fast" ∧ (∀ owner, ¬ bare.OwnedBy owner) ∧
      rules.DeclaresStatic ctx (lookup sources ctx.file ctx.firstLine).1 ∧
      (rules.classify ctx sources).1 =
        some (.member .staticMethod "demo.Foo.run.fast" "<static>run.fast") ∧
      (∀ other, ctx.OwnedBy other → other = "Foo.run.fast") ∧
      (rules.classify bare sources).1 = some (.free "demo" "run.fast") ∧
      ((Classification.free "demo" "run.fast").recordInto inv).classes = inv.classes := by
  intro rules sources ctx bare inv
  have howner : ctx.OwnedBy "Foo.run.fast" := ⟨by decide, by decide⟩
  have hbare : ∀ owner, ¬ bare.OwnedBy owner := by
    intro owner h
    -- with an owner the qualified name would be longer than the function
    have hlength := congrArg List.length h.toList_qualified
    simp only [List.length_append] at hlength
    have hqualified : bare.qualifiedName.toList.length = bare.function.toList.length := rfl
    simp only [List.length_cons, List.length_nil] at hlength
    omega
  have hstatic : rules.DeclaresStatic ctx (lookup sources ctx.file ctx.firstLine).1 := by
    refine ⟨"    @staticmethod def run.fast():", rfl, by decide, by decide, ?_⟩
    exact ⟨"    ".toList, " def run.fast():".toList, by decide⟩
  obtain ⟨-, -, -, howned, -⟩ := static_method_iff_owned rules ctx sources inv rfl rfl
  obtain ⟨hunique, -, hfound⟩ := howned "Foo.run.fast" howner
  obtain ⟨-, -, -, -, hfree⟩ := static_method_iff_owned rules bare sources inv rfl rfl
  have hnot : ¬ (rules.DeclaresStatic bare (lookup sources bare.file bare.firstLine).1 ∧
      ∃ owner, bare.OwnedBy owner) := fun ⟨_, owner, h⟩ => hbare owner h
  obtain ⟨hclassified, hclasses, -⟩ := hfree (by decide) hstatic.not_opensOwnClass hnot
  exact ⟨⟨rfl, rfl⟩, howner, hbare, hstatic, (hfound hstatic).1, hunique, hclassified, hclasses⟩

end CallTrace
