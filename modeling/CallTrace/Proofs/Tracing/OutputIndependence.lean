import CallTrace.Proofs.Output.Kept
import CallTrace.Proofs.Source.Declarations
import CallTrace.Proofs.Tracing.Printing
import CallTrace.Proofs.Tracing.Sessions

/-!
# Output has no influence

Sessions that differ in their channels alone take every step alike, and a relation between their
channels that each printing respects lasts (`Alike.step`).  Changes of channels in between do no
harm as long as the relation survives them (`Alike.run`).  Both parts of
`observations_eq_and_bytes_eq_take` are cases of this: any two channels are related for the first,
and for the second those that keep the same stream, one of them cut.
-/

namespace CallTrace

variable {σ : Type}

/-! ## Runs with changing channels -/

/-- Whether the step is about something else than a channel. -/
def SessionStep.isTracing : SessionStep → Bool
  | .on _ (.channel _) => false
  | _ => true

theorem SessionStep.ne_channel {i : Nat} {step : LifecycleStep}
    (h : (SessionStep.on i step).isTracing = true) (change : ChannelChange) :
    step ≠ .channel change := by
  rintro rfl
  cases h

namespace Session

/-- The answer and the state after each step of a run, without channels and their changes. -/
def observations [LineSource σ] (s : Session σ) :
    List SessionStep → List (Except StepError Unit × Session σ)
  | [] => []
  | step :: rest =>
    if step.isTracing then
      ((s.step step).1, (s.step step).2.silent) :: (s.step step).2.observations rest
    else (s.step step).2.observations rest

/-- What the channel of a lifecycle has kept. -/
def bytesOf (s : Session σ) (i : Nat) : List UInt8 :=
  match s.lifecycles[i]? with
  | some l => l.tracer.channel.bytes.toList
  | none => []

end Session

/-! ## Related options -/

section
variable {α β γ δ : Type} {r : α → β → Prop} {q : γ → δ → Prop} {a : Option α} {b : Option β}

theorem optionRel_map {f : α → γ} {g : β → δ} (h : Option.Rel r a b)
    (hfg : ∀ x y, r x y → q (f x) (g y)) : Option.Rel q (a.map f) (b.map g) := by
  cases h with
  | none => exact .none
  | some hr => exact .some (hfg _ _ hr)

theorem optionRel_map_left {f : α → γ} {q : γ → β → Prop} (h : Option.Rel r a b)
    (hf : ∀ x y, r x y → q (f x) y) : Option.Rel q (a.map f) b := by
  cases h with
  | none => exact .none
  | some hr => exact .some (hf _ _ hr)

theorem elim_eq_of_optionRel {f : α → γ} {g : β → γ} {z : γ} (h : Option.Rel r a b)
    (hfg : ∀ x y, r x y → f x = g y) : a.elim z f = b.elim z g := by
  cases h with
  | none => rfl
  | some hr => exact hfg _ _ hr

theorem map_eq_of_optionRel {f : α → γ} {g : β → γ} (h : Option.Rel r a b)
    (hfg : ∀ x y, r x y → f x = g y) : a.map f = b.map g := by
  cases h with
  | none => rfl
  | some hr => exact congrArg some (hfg _ _ hr)

end

/-! ## Sessions that differ in their channels -/

/-- The relation lasts when the same is printed on both channels. -/
def Lasting (R : Channel → Channel → Prop) : Prop :=
  ∀ p : Printing, ∀ c₁ c₂, R c₁ c₂ → R (p.onto c₁) (p.onto c₂)

/-- The lifecycles differ in their channels alone, which are related. -/
structure Lifecycle.Alike (R : Channel → Channel → Prop) (l₁ l₂ : Lifecycle σ) : Prop where
  silent : l₁.silent = l₂.silent
  channels : R l₁.tracer.channel l₂.tracer.channel

/-- The sessions differ in their channels alone, which are related for each lifecycle. -/
structure Session.Alike (R : Nat → Channel → Channel → Prop) (s₁ s₂ : Session σ) : Prop where
  hook : s₁.hook = s₂.hook
  lifecycles : ∀ j, Option.Rel (Lifecycle.Alike (R j)) s₁.lifecycles[j]? s₂.lifecycles[j]?

namespace Lifecycle.Alike

variable {R : Channel → Channel → Prop} {l₁ l₂ : Lifecycle σ}

theorem ite (h : Alike R l₁ l₂) {c : Prop} [Decidable c] {l₁' l₂' : Lifecycle σ}
    (h' : c → Alike R l₁' l₂') : Alike R (if c then l₁' else l₁) (if c then l₂' else l₂) := by
  split
  · next hc => exact h' hc
  · exact h

variable [LineSource σ]

theorem step (hR : Lasting R) (h : Alike R l₁ l₂) (step : LifecycleStep)
    (hs : ∀ change, step ≠ .channel change) :
    (l₁.step step).outcome = (l₂.step step).outcome ∧
      (l₁.step step).effect = (l₂.step step).effect ∧
      Alike R (l₁.step step).lifecycle (l₂.step step).lifecycle := by
  obtain ⟨p, hp⟩ := l₂.step_withChannel step hs
  have h₁ : l₁.step step = (l₂.step step).withChannel (p.onto l₁.tracer.channel) := by
    rw [← hp, ← Lifecycle.eq_withChannel h.silent]
  have h₂ : l₂.step step = (l₂.step step).withChannel (p.onto l₂.tracer.channel) :=
    hp l₂.tracer.channel
  rw [h₁]
  refine ⟨rfl, rfl, rfl, ?_⟩
  rw [h₂]
  exact hR p _ _ h.channels

theorem onEvent (hR : Lasting R) (h : Alike R l₁ l₂) (e : Event) :
    Alike R { l₁ with tracer := l₁.tracer.onEvent e }
      { l₂ with tracer := l₂.tracer.onEvent e } := by
  obtain ⟨p, hp⟩ := l₂.tracer.handle_withChannel e
  have h₁ : l₁.tracer.onEvent e = (l₂.tracer.onEvent e).withChannel (p.onto l₁.tracer.channel) := by
    rw [Lifecycle.eq_withChannel h.silent]
    exact congrArg Prod.snd (hp l₁.tracer.channel)
  have h₂ : l₂.tracer.onEvent e = (l₂.tracer.onEvent e).withChannel (p.onto l₂.tracer.channel) :=
    congrArg Prod.snd (hp l₂.tracer.channel)
  constructor
  · rw [h₁, Lifecycle.eq_withChannel h.silent]
    rfl
  · rw [h₁, h₂]
    exact hR p _ _ h.channels

end Lifecycle.Alike

namespace Session.Alike

variable {R : Nat → Channel → Channel → Prop} {s₁ s₂ : Session σ}

theorem of_silent (h : s₁.silent = s₂.silent)
    (hR : ∀ j l₁ l₂, s₁.lifecycles[j]? = some l₁ → s₂.lifecycles[j]? = some l₂ →
      R j l₁.tracer.channel l₂.tracer.channel) : Alike R s₁ s₂ := by
  have hhook : s₁.silent.hook = s₂.silent.hook := by rw [h]
  have hlist : s₁.silent.lifecycles = s₂.silent.lifecycles := by rw [h]
  refine ⟨hhook, fun j => ?_⟩
  have hj : (s₁.lifecycles[j]?).map Lifecycle.silent =
      (s₂.lifecycles[j]?).map Lifecycle.silent := by
    rw [← List.getElem?_map, ← List.getElem?_map]
    exact congrArg (·[j]?) hlist
  cases h₁ : s₁.lifecycles[j]? with
  | none =>
    cases h₂ : s₂.lifecycles[j]? with
    | none => exact .none
    | some l₂ => simp [h₁, h₂] at hj
  | some l₁ =>
    cases h₂ : s₂.lifecycles[j]? with
    | none => simp [h₁, h₂] at hj
    | some l₂ =>
      rw [h₁, h₂] at hj
      exact .some ⟨Option.some.inj hj, hR j l₁ l₂ h₁ h₂⟩

theorem silent_eq (h : Alike R s₁ s₂) : s₁.silent = s₂.silent := by
  have hlist : s₁.lifecycles.map Lifecycle.silent = s₂.lifecycles.map Lifecycle.silent := by
    apply List.ext_getElem?
    intro j
    rw [List.getElem?_map, List.getElem?_map]
    exact map_eq_of_optionRel (h.lifecycles j) fun _ _ hl => hl.silent
  unfold Session.silent
  rw [h.hook, hlist]

/-! ## Steps -/

section
variable [LineSource σ]

theorem stepAt (hR : ∀ j, Lasting (R j)) (h : Alike R s₁ s₂) {step : SessionStep}
    (hs : step.isTracing = true) {j : Nat} {l₁ l₂ : Lifecycle σ}
    (hl : Lifecycle.Alike (R j) l₁ l₂) :
    Lifecycle.Alike (R j) (s₁.stepAt step j l₁) (s₂.stepAt step j l₂) := by
  cases step with
  | dispatch e =>
    rw [Session.stepAt, Session.stepAt, h.hook]
    exact hl.ite fun _ => hl.onEvent (hR j) e
  | uninstall => exact hl
  | on i step =>
    rw [Session.stepAt, Session.stepAt]
    exact hl.ite fun _ => (hl.step (hR j) step (SessionStep.ne_channel hs)).2.2

/-- Both sessions take a step alike. -/
theorem step (hR : ∀ j, Lasting (R j)) (h : Alike R s₁ s₂) (step : SessionStep)
    (hs : step.isTracing = true) :
    (s₁.step step).1 = (s₂.step step).1 ∧ Alike R (s₁.step step).2 (s₂.step step).2 := by
  have hlifecycles : ∀ j, Option.Rel (Lifecycle.Alike (R j)) (s₁.step step).2.lifecycles[j]?
      (s₂.step step).2.lifecycles[j]? := by
    intro j
    rw [s₁.getElem?_step, s₂.getElem?_step]
    exact optionRel_map (h.lifecycles j) fun _ _ hl => h.stepAt hR hs hl
  cases step with
  | dispatch e =>
    refine ⟨rfl, ?_, hlifecycles⟩
    rw [s₁.hook_dispatch, s₂.hook_dispatch, h.hook]
  | uninstall => exact ⟨rfl, rfl, hlifecycles⟩
  | on i step =>
    have hown := fun (l₁ l₂ : Lifecycle σ) (hl : Lifecycle.Alike (R i) l₁ l₂) =>
      hl.step (hR i) step (SessionStep.ne_channel hs)
    refine ⟨?_, ?_, hlifecycles⟩
    · rw [s₁.outcome_step, s₂.outcome_step]
      exact elim_eq_of_optionRel (h.lifecycles i) fun l₁ l₂ hl => (hown l₁ l₂ hl).1
    · rw [s₁.hook_step, s₂.hook_step, h.hook]
      exact elim_eq_of_optionRel (h.lifecycles i) fun l₁ l₂ hl =>
        congrArg (hookAfter s₂.hook i) (hown l₁ l₂ hl).2.1

/-- A change of a channel on one side only, where the relation survives it. -/
theorem channel_left (h : Alike R s₁ s₂) (i : Nat) (change : ChannelChange)
    (hchange : ∀ c₁ c₂, R i c₁ c₂ → R i (change.apply c₁) c₂) :
    Alike R (s₁.step (.on i (.channel change))).2 s₂ := by
  constructor
  · rw [s₁.hook_step, ← h.hook]
    cases s₁.lifecycles[i]? with
    | none => rfl
    | some l =>
      show hookAfter s₁.hook i (l.step (.channel change)).effect = s₁.hook
      rw [l.step_channel]
      rfl
  · intro j
    rw [s₁.getElem?_step]
    refine optionRel_map_left (h.lifecycles j) fun l₁ l₂ hl => ?_
    rw [Session.stepAt]
    split
    · next hij =>
      subst hij
      rw [Lifecycle.step_channel]
      exact ⟨hl.silent, hchange _ _ hl.channels⟩
    · exact hl

/-! ## Runs -/

/-- A run with changes of channels and the run of its other steps. -/
theorem run (hR : ∀ j, Lasting (R j)) (steps : List SessionStep) (h : Alike R s₁ s₂)
    (hchange : ∀ i change, .on i (.channel change) ∈ steps →
      ∀ c₁ c₂, R i c₁ c₂ → R i (change.apply c₁) c₂) :
    s₁.observations steps = s₂.observations (steps.filter SessionStep.isTracing) ∧
      Alike R (s₁.run steps) (s₂.run (steps.filter SessionStep.isTracing)) := by
  induction steps generalizing s₁ s₂ with
  | nil => exact ⟨rfl, h⟩
  | cons step rest ih =>
    have hrest : ∀ i change, .on i (.channel change) ∈ rest →
        ∀ c₁ c₂, R i c₁ c₂ → R i (change.apply c₁) c₂ :=
      fun i change hmem => hchange i change (List.mem_cons_of_mem _ hmem)
    cases hs : step.isTracing with
    | true =>
      obtain ⟨hanswer, hnext⟩ := h.step hR step hs
      obtain ⟨hobs, hend⟩ := ih hnext hrest
      rw [List.filter_cons_of_pos hs]
      refine ⟨?_, hend⟩
      rw [observations, observations, if_pos hs, if_pos hs, hanswer, hnext.silent_eq, hobs]
    | false =>
      have hnext : Alike R (s₁.step step).2 s₂ := by
        cases step with
        | on i step =>
          cases step with
          | channel change => exact h.channel_left i change (hchange i change List.mem_cons_self)
          | _ => cases hs
        | _ => cases hs
      obtain ⟨hobs, hend⟩ := ih hnext hrest
      rw [List.filter_cons_of_neg (by rw [hs]; decide)]
      refine ⟨?_, hend⟩
      rw [observations, if_neg (by rw [hs]; decide), hobs]

end

end Session.Alike

/-! ## Channels that keep the same stream -/

def Printing.bytes : Printing → List UInt8
  | .lines printed => printed.flatMap OutputLine.bytes
  | .report printed => printed.flatMap OutputLine.bytes

namespace Channel

variable {limit : Option Nat} {c : Channel} {stream : List UInt8}

theorem keeps_onto (h : Keeps limit c stream) (p : Printing) :
    Keeps limit (p.onto c) (stream ++ p.bytes) := by
  cases p with
  | lines printed => exact keeps_writeLines h printed
  | report printed => exact keeps_writeReport h printed

theorem keeps_apply (h : Keeps limit c stream) {change : ChannelChange}
    (hroom : change.room.getD c.room = c.room) : Keeps limit (change.apply c) stream :=
  ⟨h.bytes, hroom.trans h.room⟩

end Channel

/-- The channels of lifecycle `i` keep the same stream, the first one up to the limit. -/
def SameStream (i : Nat) (limit : Option Nat) (j : Nat) (c₁ c₂ : Channel) : Prop :=
  j = i → ∃ stream, c₁.Keeps limit stream ∧ c₂.Keeps none stream

theorem lasting_sameStream (i : Nat) (limit : Option Nat) (j : Nat) :
    Lasting (SameStream i limit j) := by
  intro p c₁ c₂ h hj
  obtain ⟨stream, h₁, h₂⟩ := h hj
  exact ⟨stream ++ p.bytes, Channel.keeps_onto h₁ p, Channel.keeps_onto h₂ p⟩

namespace Session

variable {s₁ s₂ : Session σ} {i : Nat} {limit : Option Nat}

theorem Alike.bytesOf_eq_cut (h : Alike (SameStream i limit) s₁ s₂) :
    s₁.bytesOf i = cut limit (s₂.bytesOf i) := by
  have hi := h.lifecycles i
  unfold bytesOf
  generalize s₁.lifecycles[i]? = l₁ at hi ⊢
  generalize s₂.lifecycles[i]? = l₂ at hi ⊢
  cases hi with
  | none => cases limit <;> simp [cut]
  | @some l₁ l₂ ha =>
    obtain ⟨stream, h₁, h₂⟩ := ha.channels rfl
    show l₁.tracer.channel.bytes.toList = cut limit l₂.tracer.channel.bytes.toList
    rw [h₁.bytes, h₂.bytes]
    rfl

/-- The channel of lifecycle `i` is empty and has the room, which the steps leave as it is. -/
structure HasRoom (s : Session σ) (i : Nat) (room : Option Nat) (steps : List SessionStep) :
    Prop where
  start : ∀ l, s.lifecycles[i]? = some l →
    l.tracer.channel.bytes = #[] ∧ l.tracer.channel.room = room
  constant : ∀ change, .on i (.channel change) ∈ steps →
    change.room = none ∨ change.room = some none ∧ room = none

variable [LineSource σ]

/-- A run keeps, up to the limit, what the run without changes of channels keeps. -/
theorem bytesOf_run {steps steps' : List SessionStep} (hs : s₁.silent = s₂.silent)
    (h₁ : s₁.HasRoom i limit steps) (h₂ : s₂.HasRoom i none steps') :
    (s₁.run steps).bytesOf i =
      cut limit ((s₂.run (steps.filter SessionStep.isTracing)).bytesOf i) := by
  have halike : Alike (SameStream i limit) s₁ s₂ := by
    refine .of_silent hs fun j l₁ l₂ hl₁ hl₂ hj => ⟨[], ?_, ?_⟩
    · subst hj
      exact Channel.keeps_nil (h₁.start l₁ hl₁).1 (h₁.start l₁ hl₁).2
    · subst hj
      exact Channel.keeps_nil (h₂.start l₂ hl₂).1 (h₂.start l₂ hl₂).2
  refine (halike.run (lasting_sameStream i limit) steps ?_).2.bytesOf_eq_cut
  intro j change hmem c₁ c₂ h hj
  subst hj
  obtain ⟨stream, hc₁, hc₂⟩ := h rfl
  refine ⟨stream, Channel.keeps_apply hc₁ ?_, hc₂⟩
  rcases h₁.constant change hmem with hroom | ⟨hroom, hlimit⟩
  · rw [hroom]
    rfl
  · rw [hroom, hc₁.room, hlimit]
    rfl

/-- **Output has no influence, and is cut cleanly.**  Two runs that differ only in their channels
and in the changes of these answer alike and are in the same state after every other step.  Where
the channel of a lifecycle has a constant capacity in one run and is unlimited in the other, the
first run keeps the beginning of what the second keeps. -/
theorem observations_eq_and_bytes_eq_take (s₁ s₂ : Session σ) (steps₁ steps₂ : List SessionStep)
    (hs : s₁.silent = s₂.silent)
    (hsteps : steps₁.filter SessionStep.isTracing = steps₂.filter SessionStep.isTracing) :
    s₁.observations steps₁ = s₂.observations steps₂ ∧
      ∀ i capacity, s₁.HasRoom i (some capacity) steps₁ → s₂.HasRoom i none steps₂ →
        (s₁.run steps₁).bytesOf i = ((s₂.run steps₂).bytesOf i).take capacity := by
  constructor
  · have hany : ∀ s : Session σ, s.silent = s₂.silent → ∀ steps,
        s.observations steps = s₂.observations (steps.filter SessionStep.isTracing) := by
      intro s hsilent steps
      have halike : Alike (fun _ _ _ => True) s s₂ := .of_silent hsilent fun _ _ _ _ _ => trivial
      exact (halike.run (fun _ _ _ _ _ => trivial) steps fun _ _ _ _ _ _ => trivial).1
    calc s₁.observations steps₁
        = s₂.observations (steps₁.filter SessionStep.isTracing) := hany s₁ hs steps₁
      _ = s₂.observations (steps₂.filter SessionStep.isTracing) := by rw [hsteps]
      _ = s₂.observations steps₂ := (hany s₂ rfl steps₂).symm
  · intro i capacity h₁ h₂
    have hall := bytesOf_run rfl h₂ h₂
    rw [bytesOf_run hs h₁ h₂, hsteps, hall]
    rfl

/-- The first run has room for ten bytes and its flushes fail midway, the second one flushes. -/
theorem observations_eq_and_bytes_eq_take_full_channel :
    let tracer (c : Channel) : Tracer (Overlay FileLines) :=
      .fresh .standard (Declarations.source ⟨[(("demo.py", 1), "class Foo:")], .empty⟩) c
    let s₁ : Session (Overlay FileLines) := .ofTracers [tracer ⟨some 10, false, #[], 0⟩]
    let s₂ : Session (Overlay FileLines) := .ofTracers [tracer .unlimited]
    let call : Event := ⟨.called, (CallContext.ofFunction "demo" "Foo").declaredAt "demo.py" 1⟩
    let steps₁ : List SessionStep := [.on 0 (.setup ⟨"demo", true⟩), .dispatch call,
      .on 0 (.channel ⟨none, some true⟩), .on 0 (.handle call), .on 0 .teardown, .on 0 .drop]
    let steps₂ : List SessionStep := [.on 0 (.setup ⟨"demo", true⟩), .dispatch call,
      .on 0 (.handle call), .on 0 .teardown, .on 0 .drop]
    s₁.silent = s₂.silent ∧
      steps₁.filter SessionStep.isTracing = steps₂.filter SessionStep.isTracing ∧
      s₁.HasRoom 0 (some 10) steps₁ ∧ s₂.HasRoom 0 none steps₂ ∧
      s₁.observations steps₁ = s₂.observations steps₂ ∧
      (s₁.run steps₁).bytesOf 0 = ((s₂.run steps₂).bytesOf 0).take 10 := by
  intro tracer s₁ s₂ call steps₁ steps₂
  have hs : s₁.silent = s₂.silent := rfl
  have hsteps : steps₁.filter SessionStep.isTracing = steps₂.filter SessionStep.isTracing := rfl
  have h₁ : s₁.HasRoom 0 (some 10) steps₁ := by
    constructor
    · intro l hl
      cases hl
      exact ⟨rfl, rfl⟩
    · intro change hmem
      simp only [steps₁, List.mem_cons, List.not_mem_nil, SessionStep.on.injEq, true_and,
        LifecycleStep.channel.injEq, reduceCtorEq, and_false, false_or, or_false] at hmem
      exact .inl (by rw [hmem])
  have h₂ : s₂.HasRoom 0 none steps₂ := by
    constructor
    · intro l hl
      cases hl
      exact ⟨rfl, rfl⟩
    · intro change hmem
      simp [steps₂] at hmem
  obtain ⟨hobs, hbytes⟩ := observations_eq_and_bytes_eq_take s₁ s₂ steps₁ steps₂ hs hsteps
  exact ⟨hs, hsteps, h₁, h₂, hobs, hbytes 0 10 h₁ h₂⟩

end Session

end CallTrace
