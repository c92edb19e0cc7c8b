import CallTrace.Proofs.Tracing.Events
import CallTrace.Tracing.Session

/-!
# What a step prints

A step of a lifecycle acts on the channel by a `Printing` that depends on the rest of the state
alone, and nothing of the channel flows back: with another channel the step ends the same way and
leaves the same lifecycle, but for what was printed on that channel (`step_withChannel`).
-/

namespace CallTrace

/-! ## Taking channels away -/

variable {σ : Type}

def Tracer.withChannel (t : Tracer σ) (c : Channel) : Tracer σ := { t with channel := c }

def Lifecycle.withChannel (l : Lifecycle σ) (c : Channel) : Lifecycle σ :=
  { l with tracer := l.tracer.withChannel c }

def LifecycleAnswer.withChannel (a : LifecycleAnswer σ) (c : Channel) : LifecycleAnswer σ :=
  { a with lifecycle := a.lifecycle.withChannel c }

/-- The lifecycle with a channel that tells nothing. -/
def Lifecycle.silent (l : Lifecycle σ) : Lifecycle σ := l.withChannel .unlimited

/-- The session with channels that tell nothing: what is left are the hook and, of each lifecycle,
its state and arming, and its tracer's filter, location flag, rules, sources, inventory and
depth. -/
def Session.silent (s : Session σ) : Session σ :=
  { s with lifecycles := s.lifecycles.map Lifecycle.silent }

theorem Lifecycle.eq_withChannel {l₁ l₂ : Lifecycle σ} (h : l₁.silent = l₂.silent) :
    l₁ = l₂.withChannel l₁.tracer.channel := by
  have hback : l₁.silent.withChannel l₁.tracer.channel = l₁ := rfl
  rw [← hback, h]
  rfl

/-! ## What a step prints -/

/-- What a step does to the channel. -/
inductive Printing
  | lines (printed : List OutputLine)
  | report (printed : List OutputLine)

namespace Printing

def onto (p : Printing) (c : Channel) : Channel :=
  match p with
  | .lines printed => (c.writeLines printed).2
  | .report printed => (c.writeReport printed).2

def nothing : Printing := .lines []

theorem nothing_onto (c : Channel) : nothing.onto c = c := rfl

end Printing

namespace Lifecycle

theorem configure_withChannel (l : Lifecycle σ) (config : TracerConfig) (c : Channel) :
    (l.withChannel c).configure config = (l.configure config).map (·.withChannel c) := by
  unfold configure Tracer.configure
  cases ModuleFilter.ofText config.modulePattern <;> rfl

theorem setup_withChannel (l : Lifecycle σ) (config : TracerConfig) (c : Channel) :
    (l.withChannel c).setup config = (l.setup config).map (·.withChannel c) := by
  unfold setup Tracer.configure
  cases ModuleFilter.ofText config.modulePattern <;> rfl

theorem answerSetup_withChannel (l : Lifecycle σ) (effect : HookEffect)
    (r : Except InvalidPattern (Lifecycle σ)) (c : Channel) :
    (l.withChannel c).answerSetup effect (r.map (·.withChannel c)) =
      (l.answerSetup effect r).withChannel c := by
  cases r <;> rfl

theorem release_withChannel (l : Lifecycle σ) :
    ∃ p : Printing, ∀ c, (l.withChannel c).release = l.release.withChannel (p.onto c) := by
  unfold release
  cases h : l.armed with
  | true =>
    refine ⟨.report (.banner :: l.tracer.inventory.view.lines), fun c => ?_⟩
    show (if l.armed = true then _ else _) = _
    rw [h]
    rfl
  | false =>
    refine ⟨.nothing, fun c => ?_⟩
    show (if l.armed = true then _ else _) = _
    rw [h, Printing.nothing_onto]
    rfl

theorem drop_withChannel (l : Lifecycle σ) :
    ∃ p : Printing, ∀ c, (l.withChannel c).drop = l.drop.withChannel (p.onto c) := by
  unfold drop
  by_cases h : l.state = .dropped
  · refine ⟨.nothing, fun c => ?_⟩
    rw [if_pos h, Printing.nothing_onto]
    exact if_pos h
  · obtain ⟨p, hp⟩ := l.release_withChannel
    refine ⟨p, fun c => ?_⟩
    have hstate : (l.withChannel c).state ≠ .dropped := h
    rw [if_neg h, if_neg hstate, hp c]
    rfl

end Lifecycle

section
variable [LineSource σ]

theorem Tracer.handle_withChannel (t : Tracer σ) (e : Event) :
    ∃ p : Printing, ∀ c,
      (t.withChannel c).handle e = ((t.handle e).1, (t.handle e).2.withChannel (p.onto c)) := by
  cases t.effect e with
  | ignored h =>
    refine ⟨.nothing, fun c => ?_⟩
    rw [handle_ignored h, Printing.nothing_onto]
    exact handle_ignored h
  | crashed sources hk hp hfound =>
    refine ⟨.nothing, fun c => ?_⟩
    rw [handle_crashed hk hp hfound, Printing.nothing_onto]
    exact handle_crashed hk hp hfound
  | entered found sources hk hp hfound =>
    refine ⟨.lines (t.callLines e.context found), fun c => ?_⟩
    rw [handle_entered hk hp hfound]
    exact handle_entered hk hp hfound
  | left hk hp =>
    refine ⟨.nothing, fun c => ?_⟩
    rw [handle_left hk hp, Printing.nothing_onto]
    exact handle_left hk hp

namespace Lifecycle

/-- The channel has no influence on a step but on the channel. -/
theorem liveStep_withChannel (l : Lifecycle σ) (step : LifecycleStep)
    (h : ∀ change, step ≠ .channel change) :
    ∃ p : Printing, ∀ c,
      (l.withChannel c).liveStep step = (l.liveStep step).withChannel (p.onto c) := by
  cases step with
  | setup config =>
    refine ⟨.nothing, fun c => ?_⟩
    rw [Printing.nothing_onto, liveStep, setup_withChannel]
    exact l.answerSetup_withChannel .take _ c
  | configure config =>
    refine ⟨.nothing, fun c => ?_⟩
    rw [Printing.nothing_onto, liveStep, configure_withChannel]
    exact l.answerSetup_withChannel .keep _ c
  | handle e =>
    obtain ⟨p, hp⟩ := l.tracer.handle_withChannel e
    refine ⟨p, fun c => ?_⟩
    have hc : (l.withChannel c).tracer.handle e = _ := hp c
    rw [liveStep, hc]
    rfl
  | teardown => exact ⟨.report (.banner :: l.tracer.inventory.view.lines), fun c => rfl⟩
  | release =>
    obtain ⟨p, hp⟩ := l.release_withChannel
    refine ⟨p, fun c => ?_⟩
    rw [liveStep, hp c]
    rfl
  | report => exact ⟨.report (.banner :: l.tracer.inventory.view.lines), fun c => rfl⟩
  | drop =>
    obtain ⟨p, hp⟩ := l.drop_withChannel
    refine ⟨p, fun c => ?_⟩
    rw [liveStep, hp c]
    rfl
  | channel change => exact absurd rfl (h change)

theorem step_withChannel (l : Lifecycle σ) (step : LifecycleStep)
    (h : ∀ change, step ≠ .channel change) :
    ∃ p : Printing, ∀ c, (l.withChannel c).step step = (l.step step).withChannel (p.onto c) := by
  unfold Lifecycle.step
  by_cases hd : l.state = .dropped
  · refine ⟨.nothing, fun c => ?_⟩
    have hdc : (l.withChannel c).state = .dropped := hd
    rw [if_pos hd, if_pos hdc, Printing.nothing_onto]
    cases step with
    | channel change => exact absurd rfl (h change)
    | _ => rfl
  · obtain ⟨p, hp⟩ := l.liveStep_withChannel step h
    refine ⟨p, fun c => ?_⟩
    have hdc : (l.withChannel c).state ≠ .dropped := hd
    rw [if_neg hd, if_neg hdc]
    exact hp c

end Lifecycle

end

end CallTrace
