import CallTrace.Proofs.Replay.Prepared

/-!
# Recordings are prepared as a whole or not at all

A recording is refused if some binding of some call names neither a type nor a class, and the fault
reported is the first such binding of the first such call (`prepare_eq_error_iff`).  Any other
recording is prepared event by event: what the context of each event says is said by
`RecordedCall.Describes` without the builder of contexts (`prepared_whole_or_first_fault`).
-/

namespace CallTrace

/-! ## Bindings -/

/-- The binding names neither a type nor a class. -/
def RecordedBinding.Untyped (b : RecordedBinding) : Prop := b.className = none ∧ b.instanceOf = none

instance (b : RecordedBinding) : Decidable b.Untyped :=
  inferInstanceAs (Decidable (b.className = none ∧ b.instanceOf = none))

theorem RecordedBinding.value?_eq_none_iff (b : RecordedBinding) : b.value? = none ↔ b.Untyped := by
  rw [value?_eq_named?, named?, Option.or_eq_none_iff, Option.map_eq_none_iff,
    Option.map_eq_none_iff, Untyped]

namespace RecordedCall

variable {call : RecordedCall}

def lastBinding? (c : RecordedCall) (name : String) : Option RecordedBinding :=
  c.bindings.reverse.find? fun b => b.name = name

theorem bound_eq_error_iff {b : RecordedBinding} {e : UntypedBinding} :
    call.bound b = .error e ↔ b.Untyped ∧ e = ⟨b.name, call.function⟩ := by
  unfold bound
  rw [← b.value?_eq_none_iff]
  cases hb : b.value? with
  | none =>
    constructor
    · intro h
      cases h
      exact ⟨rfl, rfl⟩
    · rintro ⟨-, rfl⟩
      rfl
  | some value => simp

/-! ## Contexts of calls -/

/-- The context says what is recorded of the call, and what is usual where nothing is recorded. -/
structure Describes (c : RecordedCall) (ctx : CallContext) : Prop where
  function : ctx.function = c.function
  module : ctx.module = c.module
  file : ctx.file = c.file.getD "<unknown>"
  firstLine : ctx.firstLine = c.firstLine.getD (c.line.getD 1)
  line : ctx.line = c.line.getD ctx.firstLine
  qualifiedName : ctx.qualifiedName = c.qualifiedName.getD c.function
  bindings : ∀ name, ctx.bindings.get? name = (c.lastBinding? name).bind RecordedBinding.named?

/-- Every binding names a type or a class. -/
def Typed (c : RecordedCall) : Prop := ∀ b ∈ c.bindings, ¬ b.Untyped

/-- The first binding of the call that names neither a type nor a class. -/
def FirstFault (c : RecordedCall) (e : UntypedBinding) : Prop :=
  ∃ before b after, c.bindings = before ++ b :: after ∧ (∀ x ∈ before, ¬ x.Untyped) ∧ b.Untyped ∧
    e = ⟨b.name, c.function⟩

theorem declarationLine_eq (c : RecordedCall) :
    c.declarationLine = c.firstLine.getD (c.line.getD 1) := by
  unfold declarationLine
  cases c.firstLine <;> rfl

theorem describes_of_context {ctx : CallContext} (h : call.context = .ok ctx) :
    call.Describes ctx := by
  obtain ⟨bindings, rfl, hbound⟩ := context_eq h
  rw [call.frame_eq]
  exact ⟨rfl, rfl, rfl, call.declarationLine_eq, rfl, rfl, lookup_of_forall₂ hbound⟩

theorem exists_bound_iff {b : RecordedBinding} : (∃ v, call.bound b = .ok v) ↔ ¬ b.Untyped := by
  rw [exists_eq_ok_iff]
  constructor
  · intro h hb
    exact h _ (bound_eq_error_iff.2 ⟨hb, rfl⟩)
  · intro h e he
    exact h (bound_eq_error_iff.1 he).1

theorem context_eq_error_iff {e : UntypedBinding} :
    call.context = .error e ↔ call.FirstFault e := by
  unfold context FirstFault
  rw [map_eq_error, mapM_eq_error_iff]
  simp only [exists_bound_iff, bound_eq_error_iff]

theorem exists_context_iff : (∃ ctx, call.context = .ok ctx) ↔ call.Typed := by
  have hvalues : (∃ values, call.bindings.mapM call.bound = .ok values) ↔ call.Typed := by
    rw [exists_mapM_eq_ok_iff]
    simp only [exists_bound_iff, Typed]
  rw [← hvalues]
  constructor
  · rintro ⟨ctx, h⟩
    obtain ⟨values, hvalues, -⟩ := map_eq_ok.1 h
    exact ⟨values, hvalues⟩
  · rintro ⟨values, h⟩
    exact ⟨_, map_eq_ok.2 ⟨values, h, rfl⟩⟩

end RecordedCall

/-! ## Recordings -/

namespace RecordedEvent

/-- Every binding of the event, if it is a call, names a type or a class. -/
def Typed : RecordedEvent → Prop
  | .called call => call.Typed
  | .returned _ | .reachedLine _ | .raised _ => True

/-- The first fault of the first call that has one. -/
def FirstFault (recorded : List RecordedEvent) (e : UntypedBinding) : Prop :=
  ∃ before call after, recorded = before ++ .called call :: after ∧ (∀ r ∈ before, r.Typed) ∧
    call.FirstFault e

/-- The event that a recorded one is to be replayed as. -/
inductive PreparedAs : RecordedEvent → Event → Prop
  | called (call : RecordedCall) (ctx : CallContext) (h : call.Describes ctx) :
      PreparedAs (.called call) ⟨.called, ctx⟩
  | returned (frame : RecordedFrame) :
      PreparedAs (.returned frame) ⟨.returned, .ofFunction frame.module (frame.function.getD "")⟩
  | reachedLine (frame : RecordedFrame) :
      PreparedAs (.reachedLine frame)
        ⟨.reachedLine, .ofFunction frame.module (frame.function.getD "")⟩
  | raised (frame : RecordedFrame) :
      PreparedAs (.raised frame) ⟨.raised, .ofFunction frame.module (frame.function.getD "")⟩

variable {r : RecordedEvent} {recorded : List RecordedEvent}

theorem preparedAs_of_event {e : Event} (h : r.event = .ok e) : r.PreparedAs e := by
  cases r with
  | called call =>
    obtain ⟨ctx, hctx, rfl⟩ := map_eq_ok.1 h
    exact .called call ctx (RecordedCall.describes_of_context hctx)
  | returned frame =>
    cases h
    exact .returned frame
  | reachedLine frame =>
    cases h
    exact .reachedLine frame
  | raised frame =>
    cases h
    exact .raised frame

theorem exists_event_iff : (∃ e, r.event = .ok e) ↔ r.Typed := by
  cases r with
  | called call =>
    show (∃ e, call.context.map _ = .ok e) ↔ call.Typed
    rw [← RecordedCall.exists_context_iff]
    constructor
    · rintro ⟨e, h⟩
      obtain ⟨ctx, hctx, -⟩ := map_eq_ok.1 h
      exact ⟨ctx, hctx⟩
    · rintro ⟨ctx, h⟩
      exact ⟨_, map_eq_ok.2 ⟨ctx, h, rfl⟩⟩
  | returned frame | reachedLine frame | raised frame => exact ⟨fun _ => trivial, fun _ => ⟨_, rfl⟩⟩

theorem event_eq_error_iff {e : UntypedBinding} :
    r.event = .error e ↔ ∃ call, r = .called call ∧ call.FirstFault e := by
  cases r with
  | called call =>
    show call.context.map _ = .error e ↔ _
    rw [map_eq_error, RecordedCall.context_eq_error_iff]
    constructor
    · intro h
      exact ⟨call, rfl, h⟩
    · rintro ⟨call', hcall, h⟩
      cases hcall
      exact h
  | returned frame | reachedLine frame | raised frame =>
    constructor
    · intro h
      cases h
    · rintro ⟨call, hcall, -⟩
      cases hcall

/-- Two traversals, of the events and of the bindings of a call, each stop at their first fault. -/
theorem prepare_eq_error_iff {e : UntypedBinding} :
    prepare recorded = .error e ↔ FirstFault recorded e := by
  unfold prepare FirstFault
  rw [mapM_eq_error_iff]
  simp only [exists_event_iff, event_eq_error_iff]
  constructor
  · rintro ⟨before, _, after, hrecorded, hbefore, call, rfl, hfault⟩
    exact ⟨before, call, after, hrecorded, hbefore, hfault⟩
  · rintro ⟨before, call, after, hrecorded, hbefore, hfault⟩
    exact ⟨before, _, after, hrecorded, hbefore, call, rfl, hfault⟩

theorem exists_prepare_iff :
    (∃ events, prepare recorded = .ok events) ↔ ∀ r ∈ recorded, r.Typed := by
  unfold prepare
  rw [exists_mapM_eq_ok_iff]
  simp only [exists_event_iff]

theorem forall_typed_iff :
    (∀ r ∈ recorded, r.Typed) ↔
      ∀ call, .called call ∈ recorded → ∀ b ∈ call.bindings, ¬ b.Untyped := by
  constructor
  · intro h call hcall
    exact h (.called call) hcall
  · intro h r hr
    cases r with
    | called call => exact h call hr
    | returned frame | reachedLine frame | raised frame => trivial

/-- **A recording is prepared as a whole, or refused for its first fault.**  It is refused exactly
if a binding of a call names neither a type nor a class, even where a later binding of the same
name does.  The error then names the first such binding of the first such call.  Otherwise there
is one event for each recorded one, in the same order and of the same kind, with the context that
is recorded. -/
theorem prepared_whole_or_first_fault (recorded : List RecordedEvent) :
    ((∃ e, prepare recorded = .error e) ↔
      ∃ call, .called call ∈ recorded ∧ ∃ b ∈ call.bindings, b.Untyped) ∧
    (∀ e, prepare recorded = .error e ↔ FirstFault recorded e) ∧
    ((∀ call, .called call ∈ recorded → ∀ b ∈ call.bindings, ¬ b.Untyped) →
      ∃ events, prepare recorded = .ok events ∧ List.Forall₂ PreparedAs recorded events) := by
  refine ⟨?_, fun e => prepare_eq_error_iff, fun htyped => ?_⟩
  · have hrefused :
        (∃ e, prepare recorded = .error e) ↔ ¬ ∃ events, prepare recorded = .ok events := by
      rw [exists_eq_ok_iff, not_forall_not]
    rw [hrefused, exists_prepare_iff, forall_typed_iff]
    push Not
    rfl
  · obtain ⟨events, hevents⟩ := exists_prepare_iff.2 (forall_typed_iff.2 htyped)
    exact ⟨events, hevents, (prepare_forall₂ hevents).imp fun _ _ => preparedAs_of_event⟩

/-- A binding without type spoils a recording though a later one of the same name has a type.  In
the other recording the later binding counts, and its class comes before its type. -/
theorem prepared_whole_or_first_fault_shadowed :
    let bar (first : RecordedBinding) : RecordedCall :=
      ⟨"bar", "demo", none, some 9, none, none, [first, ⟨"self", some "Base", some "Foo"⟩], none⟩
    let recorded (first : RecordedBinding) : List RecordedEvent :=
      [.returned ⟨none, "demo"⟩, .called (bar first), .called (bar ⟨"cls", none, none⟩)]
    FirstFault (recorded ⟨"self", none, none⟩) ⟨"self", "bar"⟩ ∧
      prepare (recorded ⟨"self", none, none⟩) = .error ⟨"self", "bar"⟩ ∧
      let typed : List RecordedEvent :=
        [.returned ⟨none, "demo"⟩, .called (bar ⟨"self", some "A", none⟩)]
      (∀ call, .called call ∈ typed → ∀ b ∈ call.bindings, ¬ b.Untyped) ∧
      ∃ events, prepare typed = .ok events ∧ List.Forall₂ PreparedAs typed events ∧
        events.map (fun e => e.context.bindings.get? "self") =
          [none, some (.classNamed "Foo")] := by
  intro bar recorded
  have hfault : FirstFault (recorded ⟨"self", none, none⟩) ⟨"self", "bar"⟩ := by
    refine ⟨[.returned ⟨none, "demo"⟩], bar ⟨"self", none, none⟩, _, rfl, ?_, ?_⟩
    · intro r hr
      cases List.mem_singleton.1 hr
      trivial
    · exact ⟨[], ⟨"self", none, none⟩, _, rfl, nofun, by decide, rfl⟩
  refine ⟨hfault, ((prepared_whole_or_first_fault _).2.1 _).2 hfault, ?_⟩
  intro typed
  have htyped : ∀ call, .called call ∈ typed → ∀ b ∈ call.bindings, ¬ b.Untyped := by
    intro call hcall
    have hbar : call = bar ⟨"self", some "A", none⟩ := by simpa [typed] using hcall
    rw [hbar]
    decide
  obtain ⟨events, hevents, hall⟩ := (prepared_whole_or_first_fault typed).2.2 htyped
  refine ⟨htyped, events, hevents, hall, ?_⟩
  cases hevents
  decide

end RecordedEvent

end CallTrace
