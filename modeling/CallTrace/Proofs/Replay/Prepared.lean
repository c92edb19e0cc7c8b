import CallTrace.Calls.Classification
import CallTrace.Proofs.Results
import CallTrace.Replay.Recording

/-!
# Prepared recordings

A prepared recording has one event for each recorded one (`prepare_forall₂`).  The context of a call
says where the call is declared, by the file and line of the recording or what stands for them, and
binds what is recorded and nothing else (`context_eq`).
-/

namespace CallTrace

/-! ## Bindings -/

/-- What the binding names: a class, or else an object of a type. -/
def RecordedBinding.named? (b : RecordedBinding) : Option BoundValue :=
  (b.className.map .classNamed).or (b.instanceOf.map .instanceOf)

theorem RecordedBinding.value?_eq_named? (b : RecordedBinding) : b.value? = b.named? := by
  unfold value? named?
  cases b.className <;> cases b.instanceOf <;> rfl

namespace RecordedCall

variable {call : RecordedCall} {ctx : CallContext}

theorem bound_eq_ok_iff {b : RecordedBinding} {v : String × BoundValue} :
    call.bound b = .ok v ↔ b.name = v.1 ∧ b.named? = some v.2 := by
  unfold bound
  rw [b.value?_eq_named?]
  cases hb : b.named? with
  | none => simp
  | some value =>
    constructor
    · intro h
      cases h
      exact ⟨rfl, rfl⟩
    · rintro ⟨hname, hvalue⟩
      rw [hname, Option.some.inj hvalue]

/-- A name has the value of its first binding in the list. -/
theorem lookup_of_forall₂ {bindings : List RecordedBinding} {values : Bindings}
    (h : List.Forall₂ (fun b v => b.name = v.1 ∧ b.named? = some v.2) bindings values)
    (name : String) :
    values.lookup name =
      (bindings.find? fun b => b.name = name).bind RecordedBinding.named? := by
  induction h with
  | nil => rfl
  | @cons b v bindings values hb _ ih =>
    obtain ⟨hname, hvalue⟩ := hb
    rw [List.lookup_cons, List.find?_cons]
    by_cases hn : b.name = name
    · rw [decide_eq_true hn, Option.bind_some, hvalue, ← hname, hn, beq_self_eq_true]
    · have hne : (name == v.1) = false := by
        rw [beq_eq_false_iff_ne, ← hname]
        exact Ne.symm hn
      rw [decide_eq_false hn, hne, ih]

/-! ## Contexts of calls -/

/-- The place of the declaration line of the call: its file and its number. -/
def place (c : RecordedCall) : String × Nat := (c.declarationFile, c.declarationLine)

theorem frame_eq (c : RecordedCall) :
    c.frame = ⟨c.function, c.module, c.declarationFile, c.declarationLine,
      c.qualifiedName.getD c.function, c.line.getD c.declarationLine, []⟩ := by
  unfold frame
  cases c.qualifiedName <;> rfl

theorem frame_place (c : RecordedCall) : (c.frame.file, c.frame.firstLine) = c.place := by
  rw [frame_eq]
  rfl

theorem frame_function (c : RecordedCall) : c.frame.function = c.function := by
  rw [frame_eq]

/-- The context is the frame with the recorded bindings, the latest first. -/
theorem context_eq (h : call.context = .ok ctx) :
    ∃ bindings : Bindings, ctx = { call.frame with bindings } ∧
      List.Forall₂ (fun b v => b.name = v.1 ∧ b.named? = some v.2)
        call.bindings.reverse bindings := by
  obtain ⟨values, hvalues, rfl⟩ := map_eq_ok.1 h
  exact ⟨values.reverse, rfl,
    List.rel_reverse ((forall₂_of_mapM hvalues).imp fun _ _ => bound_eq_ok_iff.1)⟩

/-- The call binds neither of the names that stand for a receiver. -/
def WithoutReceiver (rules : ClassifierRules) (c : RecordedCall) : Prop :=
  ∀ b ∈ c.bindings, b.name ≠ rules.instanceBinding ∧ b.name ≠ rules.classBinding

theorem byReceiver?_eq_none {rules : ClassifierRules} (h : call.context = .ok ctx)
    (hfree : call.WithoutReceiver rules) : rules.byReceiver? ctx = none := by
  obtain ⟨bindings, hctx, hbound⟩ := context_eq h
  have hunbound : ∀ name, (∀ b ∈ call.bindings, b.name ≠ name) → bindings.lookup name = none := by
    intro name hne
    have hnone : call.bindings.reverse.find? (fun b => b.name = name) = none := by
      rw [List.find?_eq_none]
      intro b hb
      simpa using hne b (List.mem_reverse.1 hb)
    rw [lookup_of_forall₂ hbound, hnone, Option.bind_none]
  have hinstance : ctx.bindings.get? rules.instanceBinding = none := by
    rw [hctx]
    exact hunbound _ fun b hb => (hfree b hb).1
  have hclass : ctx.bindings.get? rules.classBinding = none := by
    rw [hctx]
    exact hunbound _ fun b hb => (hfree b hb).2
  unfold ClassifierRules.byReceiver?
  rw [hinstance, hclass]

end RecordedCall

/-! ## Events -/

namespace RecordedEvent

variable {recorded : List RecordedEvent} {events : List Event}

theorem prepare_forall₂ (h : prepare recorded = .ok events) :
    List.Forall₂ (fun r e => r.event = .ok e) recorded events :=
  forall₂_of_mapM h

/-- A recorded call is prepared as a call with its context. -/
theorem prepare_called (h : prepare recorded = .ok events) {k : Nat} {call : RecordedCall}
    (hk : recorded[k]? = some (.called call)) :
    ∃ ctx, call.context = .ok ctx ∧ events[k]? = some ⟨.called, ctx⟩ := by
  have hall := prepare_forall₂ h
  obtain ⟨hlt, hget⟩ := List.getElem?_eq_some_iff.1 hk
  have hlt' : k < events.length := by
    rw [← hall.length_eq]
    exact hlt
  have hevent : (RecordedEvent.called call).event = .ok events[k] := by
    rw [← hget]
    exact hall.get hlt hlt'
  have hmap : call.context.map (Event.mk .called) = .ok events[k] := hevent
  obtain ⟨ctx, hctx, he⟩ := map_eq_ok.1 hmap
  refine ⟨ctx, hctx, ?_⟩
  rw [List.getElem?_eq_getElem hlt', ← he]

end RecordedEvent

end CallTrace
