import CallTrace.Tracing.Tracer

/-!
# What an event does to a tracer

An event is ignored unless it is a call or a return of a traced module.  A call either crashes,
which changes the sources alone, or is entered as what it was found to be, and a return makes the
tracer leave.  `Tracer.effect` says that there is nothing else; what each of the four does is said
by its own lemma (`handle_ignored`, `handle_crashed`, `handle_entered`, `handle_left`).
-/

namespace CallTrace.Tracer

variable {σ : Type}

/-- The tracer after a call that was found to be `c`. -/
def entered (t : Tracer σ) (ctx : CallContext) (c : Classification) (sources : σ) : Tracer σ :=
  { t with
    sources
    inventory := c.recordInto t.inventory
    channel := (t.channel.writeLines (t.callLines ctx c)).2
    depth := Depth.deeper t.depth }

/-- The event is no call and no return of a traced module. -/
def Ignores (t : Tracer σ) (e : Event) : Prop :=
  t.filter.passes e.context.module = true → e.kind ≠ .called ∧ e.kind ≠ .returned

variable [LineSource σ] (t : Tracer σ) (e : Event)

/-- All that an event can be to a tracer. -/
inductive Effect : Prop
  | ignored (h : t.Ignores e)
  | crashed (sources : σ) (hk : e.kind = .called)
      (hp : t.filter.passes e.context.module = true)
      (hfound : t.rules.classify e.context t.sources = (none, sources))
  | entered (c : Classification) (sources : σ) (hk : e.kind = .called)
      (hp : t.filter.passes e.context.module = true)
      (hfound : t.rules.classify e.context t.sources = (some c, sources))
  | left (hk : e.kind = .returned) (hp : t.filter.passes e.context.module = true)

theorem effect : t.Effect e := by
  cases hp : t.filter.passes e.context.module with
  | false =>
    refine .ignored fun hpasses => ?_
    rw [hp] at hpasses
    cases hpasses
  | true =>
    cases hk : e.kind with
    | called =>
      cases hfound : t.rules.classify e.context t.sources with
      | mk found sources =>
        cases found with
        | none => exact .crashed sources hk hp hfound
        | some c => exact .entered c sources hk hp hfound
    | returned => exact .left hk hp
    | reachedLine | raised | other => exact .ignored fun _ => by simp [hk]

variable {t e}

theorem handle_ignored (h : t.Ignores e) : t.handle e = (.done, t) := by
  unfold handle
  split
  · next hp =>
    obtain ⟨hcalled, hreturned⟩ := h hp
    cases hk : e.kind with
    | called => exact absurd hk hcalled
    | returned => exact absurd hk hreturned
    | reachedLine | raised | other => rfl
  · rfl

theorem handle_crashed {sources : σ} (hk : e.kind = .called)
    (hp : t.filter.passes e.context.module = true)
    (hfound : t.rules.classify e.context t.sources = (none, sources)) :
    t.handle e = (.crashed, { t with sources }) := by
  rw [handle, if_pos hp, hk]
  dsimp only
  rw [enter, hfound]

theorem handle_entered {c : Classification} {sources : σ} (hk : e.kind = .called)
    (hp : t.filter.passes e.context.module = true)
    (hfound : t.rules.classify e.context t.sources = (some c, sources)) :
    t.handle e = (.done, t.entered e.context c sources) := by
  rw [handle, if_pos hp, hk]
  dsimp only
  rw [enter, hfound]
  rfl

theorem handle_left (hk : e.kind = .returned) (hp : t.filter.passes e.context.module = true) :
    t.handle e = (.done, t.leave) := by
  rw [handle, if_pos hp, hk]

end CallTrace.Tracer
