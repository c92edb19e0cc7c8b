import CallTrace.Proofs.Calls.StaticOwner
import CallTrace.Proofs.Inventory.View
import CallTrace.Proofs.Tracing.Consultations
import CallTrace.Output.Report

/-!
# Which classes are marked

The inventory of a tracer is that of the calls that it traced (`inventory_run`).  A class is
marked if each of its calls is recorded under the member that stands for the run of a class body.
That is how the run of a body is recorded, but also a method whose name, with the prefix of its
kind, is spelled like that member (`TracedCall.Disguised`).  So the mark tells the truth exactly
if no method of the class is disguised (`marked_iff_static_init`); with the standard prefixes only
an instance method can be (`disguised_standard_iff`).
-/

namespace CallTrace

/-! ## Names of members -/

/-- The class that the call is attributed to. -/
def Classification.className? : Classification → Option String
  | .member _ className _ => some className
  | .free _ _ => none

theorem Classification.className?_eq_some_iff {c : Classification} {name : String} :
    c.className? = some name ↔ ∃ member, c.member? = some (name, member) := by
  cases c <;> simp [className?, member?]

/-- The member under which a call of the function is recorded. -/
def ClassifierRules.recordedName (rules : ClassifierRules) (kind : MemberKind) (function : String) :
    String :=
  match kind with
  | .instanceMethod => function
  | .classMethod => rules.classMemberPrefix ++ function
  | .staticMethod => rules.staticMemberPrefix ++ function
  | .staticInit => staticInitMember

section
variable {rules : ClassifierRules} {ctx : CallContext} {kind : MemberKind}
    {className member : String}

theorem ClassifierRules.member_of_byReceiver?
    (h : rules.byReceiver? ctx = some (.member kind className member)) :
    member = rules.recordedName kind ctx.function := by
  unfold byReceiver? at h
  split at h
  · cases h
    rfl
  · split at h
    · cases h
      rfl
    · cases h

theorem Declared.member_eq {answer : Lookup} {found : Option Classification}
    (h : Declared rules ctx answer found) (hfound : found = some (.member kind className member)) :
    member = rules.recordedName kind ctx.function := by
  cases h with
  | crashed hcrash => cases hfound
  | staticInit hopens =>
    cases hfound
    rfl
  | staticMethod owner hstatic howner =>
    cases hfound
    rfl
  | free hanswer hopens hstatic => cases hfound

/-- Kind and function tell the member, whatever the class and its source. -/
theorem ClassifierRules.member_of_classify {σ : Type} [LineSource σ] {sources : σ}
    (h : (rules.classify ctx sources).1 = some (.member kind className member)) :
    member = rules.recordedName kind ctx.function := by
  rw [classify] at h
  split at h
  · next c hc => exact member_of_byReceiver? (hc.trans h)
  · exact (declared_byDeclaration rules ctx _).member_eq h

end

/-! ## Marks -/

namespace Inventory

variable {founds : List Classification}

/-- Names in increasing order are one name if they are all the same. -/
theorem eq_singleton_iff_of_increasing {names : List String} {name : String}
    (h : names.Pairwise (· < ·)) (hne : names ≠ []) : names = [name] ↔ ∀ x ∈ names, x = name := by
  cases names with
  | nil => exact absurd rfl hne
  | cons first rest =>
    cases rest with
    | nil => simp
    | cons second rest =>
      have hlt : first < second := (List.pairwise_cons.1 h).1 second List.mem_cons_self
      constructor
      · intro heq
        cases heq
      · intro hall
        rw [hall first List.mem_cons_self, hall second (by simp)] at hlt
        exact absurd hlt (lt_irrefl name)

section
variable {v : ClassView} (hv : v ∈ (recordAll founds).view.classes)
include hv

/-- The members shown of a class are those of its calls. -/
theorem mem_members_recordAll_iff (member : String) :
    member ∈ v.members ↔ ∃ c ∈ founds, c.member? = some (v.name, member) := by
  obtain ⟨c, hc, rfl⟩ := mem_view_classes.1 hv
  rw [← List.mem_filterMap, ← holds_recordAll]
  exact ((ordered_recordAll founds).holds_iff hc member).symm

/-- A class is marked if all its calls are recorded under the member of its body. -/
theorem marked_recordAll_iff :
    v.onlyStaticInit = true ↔
      ∀ c ∈ founds, ∀ member, c.member? = some (v.name, member) → member = staticInitMember := by
  have hsorted := sorted_view (ordered_recordAll founds)
  rw [hsorted.marked v hv,
    eq_singleton_iff_of_increasing (hsorted.members v hv) (hsorted.inhabited v hv)]
  simp only [mem_members_recordAll_iff hv]
  constructor
  · intro h c hc member hmember
    exact h member ⟨c, hc, hmember⟩
  · rintro h member ⟨c, hc, hmember⟩
    exact h c hc member hmember

end

/-- The classes shown are those with a call. -/
theorem exists_mem_view_recordAll_iff {name : String} :
    (∃ v ∈ (recordAll founds).view.classes, v.name = name) ↔
      ∃ c ∈ founds, c.className? = some name := by
  simp only [Classification.className?_eq_some_iff]
  constructor
  · rintro ⟨v, hv, rfl⟩
    have hne := (sorted_view (ordered_recordAll founds)).inhabited v hv
    obtain ⟨member, hmember⟩ := List.exists_mem_of_ne_nil _ hne
    obtain ⟨c, hc, hcall⟩ := (mem_members_recordAll_iff hv member).1 hmember
    exact ⟨c, hc, member, hcall⟩
  · rintro ⟨c, hc, member, hcall⟩
    have hholds : (recordAll founds).Holds name member := by
      rw [holds_recordAll, List.mem_filterMap]
      exact ⟨c, hc, hcall⟩
    obtain ⟨v, hv, hname, -⟩ := (lists_view name member).2 hholds
    exact ⟨v, hv, hname⟩

end Inventory

/-- The lines of a report with the indentation of marked classes are those of marked classes. -/
theorem InventoryView.mem_lines_iff_marked {v : InventoryView} {name : String} :
    ⟨4, name⟩ ∈ v.lines ↔ ∃ c ∈ v.classes, c.name = name ∧ c.onlyStaticInit = true := by
  have hmarked : ⟨4, name⟩ ∈ v.lines ↔
      ∃ c, (c ∈ v.classes ∧ c.onlyStaticInit = true) ∧ c.name = name := by
    simp [lines, ClassView.lines]
  rw [hmarked]
  constructor
  · rintro ⟨c, ⟨hc, hmark⟩, hname⟩
    exact ⟨c, hc, hname, hmark⟩
  · rintro ⟨c, hc, hname, hmark⟩
    exact ⟨c, ⟨hc, hmark⟩, hname⟩

/-! ## Traced calls -/

/-- A call and what it was found to be. -/
structure TracedCall where
  context : CallContext
  found : Classification
deriving DecidableEq, Repr

namespace TracedCall

variable {rules : ClassifierRules} {c : TracedCall}

/-- The call is that of a method, but it is recorded like the run of a class body. -/
def Disguised (rules : ClassifierRules) (c : TracedCall) : Prop :=
  ∃ kind, c.found.kind? = some kind ∧ kind ≠ .staticInit ∧
    rules.recordedName kind c.context.function = staticInitMember

/-- The rules found the call to be what it is, whatever the sources answered. -/
def FoundBy (σ : Type) [LineSource σ] (rules : ClassifierRules) (c : TracedCall) : Prop :=
  ∃ sources : σ, (rules.classify c.context sources).1 = some c.found

/-- The members recorded as the run of a body are those of the runs and of what is disguised. -/
theorem FoundBy.member?_iff {σ : Type} [LineSource σ] (h : c.FoundBy σ rules) {name : String}
    (hname : c.found.className? = some name) :
    (∀ member, c.found.member? = some (name, member) → member = staticInitMember) ↔
      c.found.kind? = some .staticInit ∨ c.Disguised rules := by
  obtain ⟨sources, hfound⟩ := h
  cases hc : c.found with
  | free module function =>
    rw [hc] at hname
    cases hname
  | member kind className member =>
    rw [hc] at hname hfound
    cases hname
    have hmember := ClassifierRules.member_of_classify hfound
    -- the kind is lost in the inventory: only the spelling of the member is compared
    have hrecorded : (∀ x, (Classification.member kind name member).member? = some (name, x) →
        x = staticInitMember) ↔ rules.recordedName kind c.context.function = staticInitMember := by
      rw [← hmember]
      constructor
      · intro h
        exact h member rfl
      · rintro h x hx
        cases hx
        exact h
    rw [hrecorded]
    constructor
    · intro hsame
      by_cases hkind : kind = .staticInit
      · exact .inl (congrArg some hkind)
      · exact .inr ⟨kind, congrArg Classification.kind? hc, hkind, hsame⟩
    · rintro (hkind | ⟨other, hother, -, hsame⟩)
      · cases Option.some.inj hkind
        rfl
      · rw [hc] at hother
        cases hother
        exact hsame

theorem Disguised.not_static_init (h : c.Disguised rules) : c.found.kind? ≠ some .staticInit := by
  obtain ⟨kind, hkind, hne, -⟩ := h
  rw [hkind]
  exact fun heq => hne (Option.some.inj heq)

/-- The standard prefixes tell methods of a class and static methods from the run of a body,
whatever their names. -/
theorem disguised_standard_iff :
    c.Disguised .standard ↔
      c.found.kind? = some .instanceMethod ∧ c.context.function = staticInitMember := by
  have hprefixed : ∀ mark : String, ¬ mark.toList <+: staticInitMember.toList →
      mark ++ c.context.function ≠ staticInitMember := by
    intro mark hmark hsame
    refine hmark ⟨c.context.function.toList, ?_⟩
    rw [← hsame, String.toList_append]
  constructor
  · rintro ⟨kind, hkind, hne, hsame⟩
    cases kind with
    | instanceMethod => exact ⟨hkind, hsame⟩
    | classMethod => exact absurd hsame (hprefixed "<class>" (by decide))
    | staticMethod => exact absurd hsame (hprefixed "<static>" (by decide))
    | staticInit => exact absurd rfl hne
  · rintro ⟨hkind, hsame⟩
    exact ⟨.instanceMethod, hkind, nofun, hsame⟩

/-- The classes marked are those whose calls all ran the body or are disguised. -/
theorem marked_iff {σ : Type} [LineSource σ] {calls : List TracedCall}
    (hfound : ∀ c ∈ calls, c.FoundBy σ rules) {v : ClassView}
    (hv : v ∈ (Inventory.recordAll (calls.map found)).view.classes) :
    v.onlyStaticInit = true ↔ ∀ c ∈ calls, c.found.className? = some v.name →
      c.found.kind? = some .staticInit ∨ c.Disguised rules := by
  rw [Inventory.marked_recordAll_iff hv, List.forall_mem_map]
  constructor
  · intro h c hc hname
    exact ((hfound c hc).member?_iff hname).1 (h c hc)
  · intro h c hc member hmember
    have hname := Classification.className?_eq_some_iff.2 ⟨member, hmember⟩
    exact ((hfound c hc).member?_iff hname).2 (h c hc hname) member hmember

end TracedCall

variable {σ : Type} [LineSource σ]

/-- The call that the event is, if it is traced and its lookup does not crash. -/
def Tracer.traced? (t : Tracer σ) (e : Event) : Option TracedCall :=
  if e.kind = .called ∧ t.filter.passes e.context.module = true then
    (t.rules.classify e.context t.sources).1.map fun found => ⟨e.context, found⟩
  else none

theorem Tracer.foundBy_of_traced? {t : Tracer σ} {e : Event} {c : TracedCall}
    (h : t.traced? e = some c) : c.FoundBy σ t.rules := by
  unfold traced? at h
  split at h
  · obtain ⟨found, hfound, rfl⟩ := Option.map_eq_some_iff.1 h
    exact ⟨t.sources, hfound⟩
  · cases h

/-- An event adds to the inventory the call that is traced, and nothing else. -/
theorem Tracer.inventory_handle (t : Tracer σ) (e : Event) :
    (t.handle e).2.inventory =
      (t.traced? e).elim t.inventory fun c => c.found.recordInto t.inventory := by
  cases t.effect e with
  | ignored h =>
    rw [handle_ignored h, traced?, if_neg fun hcall => (h hcall.2).1 hcall.1]
    rfl
  | crashed sources hk hp hfound =>
    rw [handle_crashed hk hp hfound, traced?, if_pos ⟨hk, hp⟩, hfound]
    rfl
  | entered c sources hk hp hfound =>
    rw [handle_entered hk hp hfound, traced?, if_pos ⟨hk, hp⟩, hfound]
    rfl
  | left hk hp =>
    rw [handle_left hk hp]
    simp [traced?, hk, leave]

namespace Session

/-- The call that a step makes known to the tracer of lifecycle `i`. -/
def call? (s : Session σ) (i : Nat) (step : SessionStep) : Option TracedCall :=
  (s.delivery? step).bind fun d => if d.receiver = i then d.tracer.traced? d.event else none

end Session

/-- The call that the step made known to the tracer of lifecycle `i`. -/
def Taken.call? (t : Taken σ) (i : Nat) : Option TracedCall := t.before.call? i t.step

namespace Session

/-- The calls that lifecycle `i` traces in a run. -/
def calls (s : Session σ) (i : Nat) (steps : List SessionStep) : List TracedCall :=
  (s.log steps).filterMap fun t => t.call? i

variable {s : Session σ} {i : Nat} {l : Lifecycle σ}

theorem calls_cons (step : SessionStep) (rest : List SessionStep) :
    s.calls i (step :: rest) = (s.call? i step).toList ++ (s.step step).2.calls i rest := by
  rw [calls, log, List.filterMap_cons, Taken.call?]
  cases s.call? i step <;> rfl

theorem call?_of_receiver {step : SessionStep} {d : Delivery σ} (hd : s.delivery? step = some d) :
    s.call? d.receiver step = d.tracer.traced? d.event := by
  rw [call?, hd, Option.bind_some, if_pos rfl]

theorem call?_of_not_receiver {step : SessionStep}
    (h : ∀ d, s.delivery? step = some d → d.receiver ≠ i) : s.call? i step = none := by
  rw [call?, Option.bind_eq_none_iff]
  exact fun d hd => if_neg (h d hd)

/-- A step records the call that it makes known, which the rules have classified, and nothing
else. -/
theorem inventory_stepAt (hl : s.lifecycles[i]? = some l) (step : SessionStep) :
    (s.stepAt step i l).tracer.inventory =
        (s.call? i step).elim l.tracer.inventory (fun c => c.found.recordInto l.tracer.inventory) ∧
      ∀ c, s.call? i step = some c → c.FoundBy σ l.tracer.rules := by
  rcases delivered_or_unasked hl step with ⟨d, hd, rfl, htracer, hstep⟩ | ⟨hother, hsame⟩
  · rw [call?_of_receiver hd, hstep, htracer]
    exact ⟨l.tracer.inventory_handle d.event, fun c hc => Tracer.foundBy_of_traced? hc⟩
  · rw [call?_of_not_receiver hother]
    exact ⟨hsame.inventory, nofun⟩

/-- A run keeps the rules, and records the calls that it makes known one after the other. -/
theorem inventory_run (hl : s.lifecycles[i]? = some l) (steps : List SessionStep) :
    ∃ l', (s.run steps).lifecycles[i]? = some l' ∧ l'.tracer.rules = l.tracer.rules ∧
      l'.tracer.inventory = (s.calls i steps).foldl (fun inv c => c.found.recordInto inv)
        l.tracer.inventory ∧
      ∀ c ∈ s.calls i steps, c.FoundBy σ l.tracer.rules := by
  induction steps generalizing s l with
  | nil => exact ⟨l, hl, rfl, rfl, nofun⟩
  | cons step rest ih =>
    have hnext : (s.step step).2.lifecycles[i]? = some (s.stepAt step i l) := by
      rw [s.getElem?_step, hl, Option.map_some]
    -- the rest of the run begins with what this step recorded, and with the same rules
    obtain ⟨l', hl', hrules, hinventory, hfound⟩ := ih hnext
    obtain ⟨hstep, hcall⟩ := inventory_stepAt hl step
    rw [rules_stepAt] at hrules hfound
    refine ⟨l', hl', hrules, ?_, ?_⟩
    · rw [hinventory, hstep, calls_cons, List.foldl_append]
      cases s.call? i step <;> rfl
    · intro c hc
      rw [calls_cons] at hc
      rcases List.mem_append.1 hc with hc | hc
      · exact hcall c (Option.mem_toList.1 hc)
      · exact hfound c hc

/-- **A class is marked if only its body was run, and falsely if a method is disguised.**  In
every run of any tracers the classes shown are those with a traced call, and those in the section
of marked classes are the ones marked.  A class is marked exactly if each of its calls ran the
body or is disguised.  So the mark tells the truth about a class unless it is set and one of the
calls is that of a disguised method. -/
theorem marked_iff_static_init {tracers : List (Tracer σ)} {t : Tracer σ}
    (ht : tracers[i]? = some t) (hempty : t.inventory = .empty) (steps : List SessionStep) :
    let calls := (ofTracers tracers).calls i steps
    ∃ l, ((ofTracers tracers).run steps).lifecycles[i]? = some l ∧ l.tracer.rules = t.rules ∧
      let view := l.tracer.inventory.view
      (∀ name, (∃ v ∈ view.classes, v.name = name) ↔
        ∃ c ∈ calls, c.found.className? = some name) ∧
      (∀ name, ⟨4, name⟩ ∈ view.lines ↔
        ∃ v ∈ view.classes, v.name = name ∧ v.onlyStaticInit = true) ∧
      ∀ v ∈ view.classes,
        let own := calls.filter fun c => c.found.className? = some v.name
        (v.onlyStaticInit = true ↔
          ∀ c ∈ own, c.found.kind? = some .staticInit ∨ c.Disguised t.rules) ∧
        ((v.onlyStaticInit = true ↔ ∀ c ∈ own, c.found.kind? = some .staticInit) ↔
          (v.onlyStaticInit = true → ∀ c ∈ own, ¬ c.Disguised t.rules)) := by
  intro calls
  have hstart : (ofTracers tracers).lifecycles[i]? = some (.ofTracer t) := by
    rw [ofTracers, List.getElem?_map, ht, Option.map_some]
  obtain ⟨l, hl, hrules, hinventory, hfound⟩ := inventory_run hstart steps
  have hall : l.tracer.inventory = .recordAll (calls.map TracedCall.found) := by
    rw [hinventory, Inventory.recordAll, List.foldl_map, ← hempty]
    rfl
  refine ⟨l, hl, hrules, fun name => ?_, fun name => InventoryView.mem_lines_iff_marked, ?_⟩
  · rw [hall, Inventory.exists_mem_view_recordAll_iff]
    simp
  intro v hv own
  have hmark : v.onlyStaticInit = true ↔
      ∀ c ∈ own, c.found.kind? = some .staticInit ∨ c.Disguised t.rules := by
    rw [hall] at hv
    simp only [own, List.mem_filter, decide_eq_true_eq, and_imp]
    exact TracedCall.marked_iff hfound hv
  refine ⟨hmark, ?_⟩
  constructor
  · intro htruth hmarked c hc hdisguised
    exact hdisguised.not_static_init (htruth.1 hmarked c hc)
  · intro hnone
    constructor
    · intro hmarked c hc
      exact (hmark.1 hmarked c hc).resolve_right (hnone hmarked c hc)
    · intro h
      exact hmark.2 fun c hc => .inl (h c hc)

/-- The body of one class is run, of another class also a method, and each is marked accordingly. -/
theorem marked_iff_static_init_two_classes :
    let sources : Overlay FileLines :=
      ((Overlay.over (.ofDisk .empty)).insert "demo.py" 1 "class Foo:").insert "demo.py" 5
        "class Bar:"
    let t : Tracer (Overlay FileLines) := .fresh .standard sources .unlimited
    let foo : CallContext := (CallContext.ofFunction "demo" "Foo").declaredAt "demo.py" 1
    let bar : CallContext := (CallContext.ofFunction "demo" "Bar").declaredAt "demo.py" 5
    let run : CallContext := (CallContext.ofFunction "demo" "run").bind "self" (.instanceOf "Bar")
    let steps : List SessionStep := [.on 0 (.setup .standard), .dispatch ⟨.called, foo⟩,
      .dispatch ⟨.called, bar⟩, .dispatch ⟨.called, run⟩]
    ([t][0]? = some t ∧ t.inventory = .empty) ∧
      ∃ l, ((ofTracers [t]).run steps).lifecycles[0]? = some l ∧
        (∃ v ∈ l.tracer.inventory.view.classes, v.name = "demo.Foo" ∧ v.onlyStaticInit = true) ∧
        ∃ v ∈ l.tracer.inventory.view.classes, v.name = "demo.Bar" ∧ v.onlyStaticInit = false := by
  intro sources t foo bar run steps
  have ht : [t][0]? = some t := rfl
  obtain ⟨l, hl, -, hlisted, -, hmarked⟩ := marked_iff_static_init ht rfl steps
  have hcalls : (ofTracers [t]).calls 0 steps =
      [⟨foo, .member .staticInit "demo.Foo" "<static init>"⟩,
        ⟨bar, .member .staticInit "demo.Bar" "<static init>"⟩,
        ⟨run, .member .instanceMethod "demo.Bar" "run"⟩] := by decide
  rw [hcalls] at hlisted hmarked
  refine ⟨⟨ht, rfl⟩, l, hl, ?_, ?_⟩
  · obtain ⟨v, hv, hname⟩ := (hlisted "demo.Foo").2 (by decide)
    refine ⟨v, hv, hname, (hmarked v hv).1.2 ?_⟩
    rw [hname]
    exact List.forall_mem_singleton.2 (.inl rfl)
  · obtain ⟨v, hv, hname⟩ := (hlisted "demo.Bar").2 (by decide)
    refine ⟨v, hv, hname, ?_⟩
    rw [← Bool.not_eq_true, (hmarked v hv).1, hname]
    intro h
    rcases h ⟨run, .member .instanceMethod "demo.Bar" "run"⟩ (by decide) with hbody | hdisguised
    · cases hbody
    · exact absurd (TracedCall.disguised_standard_iff.1 hdisguised).2 (by decide)

/-- The one call is that of a method, and its class is marked as if only its body had been run. -/
theorem method_marked_as_class_body :
    let t : Tracer FileLines := .fresh .standard (.ofDisk .empty) .unlimited
    let ctx : CallContext :=
      (CallContext.ofFunction "demo" "<static init>").bind "self" (.instanceOf "Foo")
    let steps : List SessionStep := [.on 0 (.setup .standard), .dispatch ⟨.called, ctx⟩]
    (ofTracers [t]).calls 0 steps =
        [⟨ctx, .member .instanceMethod "demo.Foo" "<static init>"⟩] ∧
      ∃ l, ((ofTracers [t]).run steps).lifecycles[0]? = some l ∧
        l.tracer.inventory.view.classes = [⟨"demo.Foo", true, ["<static init>"]⟩] ∧
        ⟨4, "demo.Foo"⟩ ∈ l.tracer.inventory.view.lines :=
  ⟨by decide, _, rfl, by decide, by decide⟩

end Session

end CallTrace
