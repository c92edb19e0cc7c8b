import CallTrace.Proofs.Tracing.Sessions
import CallTrace.Source.Snapshots

/-!
# Lifecycles that share a hook are isolated

`shares` is the part of a run that is for one lifecycle: its own steps, and the events that were
dispatched while it had the hook.  The lifecycle ends up as if it had been alone with its share
(`run_isolated`), where alone means either of two things:

* `Lifecycle.alone`: there is no hook at all, and events are given straight to the tracer.
* A session of its own, where the events of the share are dispatched.  There the lifecycle has the
  hook whenever it has it in the shared session (`Shadows.hook`), since nobody can take it away.
-/

namespace CallTrace

variable {σ : Type} [LineSource σ]

/-! ## The share of a lifecycle -/

/-- What reaches a lifecycle: a step of its own, or an event given straight to its tracer. -/
inductive Share
  | step (own : LifecycleStep)
  | event (e : Event)
deriving DecidableEq, Repr

/-- What a lifecycle makes of what reaches it. -/
def Lifecycle.receive (l : Lifecycle σ) : Share → Lifecycle σ
  | .step own => (l.step own).lifecycle
  | .event e => { l with tracer := l.tracer.onEvent e }

/-- A lifecycle that is alone with its share. -/
def Lifecycle.alone (l : Lifecycle σ) (shares : List Share) : Lifecycle σ := shares.foldl receive l

theorem Lifecycle.alone_append (l : Lifecycle σ) (shares shares' : List Share) :
    l.alone (shares ++ shares') = (l.alone shares).alone shares' := List.foldl_append

/-- The share as a step of a session with just this lifecycle. -/
def Share.sessionStep : Share → SessionStep
  | .step own => .on 0 own
  | .event e => .dispatch e

namespace Session

/-- What of a step reaches lifecycle `i`. -/
def share (s : Session σ) (i : Nat) : SessionStep → List Share
  | .dispatch e => if s.hook = some i then [.event e] else []
  | .uninstall => []
  | .on k own => if k = i then [.step own] else []

/-- What of a run reaches lifecycle `i`. -/
def shares (s : Session σ) (i : Nat) : List SessionStep → List Share
  | [] => []
  | step :: rest => s.share i step ++ (s.step step).2.shares i rest

theorem stepAt_eq_alone (s : Session σ) (step : SessionStep) (i : Nat) (l : Lifecycle σ) :
    s.stepAt step i l = l.alone (s.share i step) := by
  cases step with
  | dispatch e =>
    rw [stepAt, share]
    split <;> rfl
  | uninstall => rfl
  | on k own =>
    rw [stepAt, share]
    split <;> rfl

/-! ## Alone and in company -/

/-- The only lifecycle of a session is like lifecycle `i` of another one, and has the hook if that
one has it there. -/
structure Shadows (alone s : Session σ) (i : Nat) (l : Lifecycle σ) : Prop where
  here : alone.lifecycles = [l]
  there : s.lifecycles[i]? = some l
  hook : s.hook = some i → alone.hook = some 0

theorem shadows_step {alone s : Session σ} {i : Nat} {l : Lifecycle σ} (h : Shadows alone s i l)
    (step : SessionStep) :
    Shadows (alone.run ((s.share i step).map Share.sessionStep)) (s.step step).2 i
      (l.alone (s.share i step)) := by
  obtain ⟨hook, lifecycles⟩ := alone
  obtain ⟨rfl, hthere, hhook⟩ := h
  have hnext : (s.step step).2.lifecycles[i]? = some (l.alone (s.share i step)) := by
    rw [s.getElem?_step, hthere, Option.map_some, stepAt_eq_alone]
  cases step with
  | dispatch e =>
    by_cases hi : s.hook = some i
    · have hshare : s.share i (.dispatch e) = [.event e] := if_pos hi
      cases hhook hi
      rw [hshare] at hnext ⊢
      exact ⟨rfl, hnext, fun _ => rfl⟩
    · have hshare : s.share i (.dispatch e) = [] := if_neg hi
      rw [hshare] at hnext ⊢
      refine ⟨rfl, hnext, fun hi' => ?_⟩
      rw [s.hook_dispatch] at hi'
      exact absurd hi' hi
  | uninstall =>
    -- only the shared hook is cleared, so the lone lifecycle may have its own for longer
    exact ⟨rfl, hnext, fun hi => by cases hi⟩
  | on k own =>
    by_cases hki : k = i
    · subst hki
      have hshare : s.share k (.on k own) = [.step own] := if_pos rfl
      rw [hshare] at hnext ⊢
      refine ⟨rfl, hnext, fun hk => ?_⟩
      rw [s.hook_step, hthere, Option.elim_some] at hk
      show hookAfter hook 0 (l.step own).effect = some 0
      rcases hookAfter_eq_some hk with ⟨hkeep, hk'⟩ | ⟨htake, -⟩
      · rw [hkeep]
        exact hhook hk'
      · rw [htake]
        rfl
    · have hshare : s.share i (.on k own) = [] := if_neg hki
      rw [hshare] at hnext ⊢
      exact ⟨rfl, hnext, fun hi => hhook (s.hook_of_step_other hki hi)⟩

theorem shadows_run {alone s : Session σ} {i : Nat} {l : Lifecycle σ} (h : Shadows alone s i l)
    (steps : List SessionStep) :
    Shadows (alone.run ((s.shares i steps).map Share.sessionStep)) (s.run steps) i
      (l.alone (s.shares i steps)) := by
  induction steps generalizing alone s l with
  | nil => exact h
  | cons step rest ih =>
    rw [shares, List.map_append, run_append, Lifecycle.alone_append]
    exact ih (shadows_step h step)

omit [LineSource σ] in
theorem shadows_ofTracers {tracers : List (Tracer σ)} {i : Nat} {t : Tracer σ}
    (ht : tracers[i]? = some t) :
    Shadows (ofTracers [t]) (ofTracers tracers) i (.ofTracer t) := by
  refine ⟨rfl, ?_, fun h => by cases h⟩
  show (tracers.map Lifecycle.ofTracer)[i]? = _
  rw [List.getElem?_map, ht]
  rfl

/-- **Lifecycles that share a hook are isolated.**  After any run a lifecycle is what its share
makes of it alone, be it without any hook or in a session of its own.  So what the others do
matters only for the share, and an event that is dispatched changes at most one lifecycle. -/
theorem run_isolated (tracers : List (Tracer σ)) (steps : List SessionStep) (i : Nat) (t : Tracer σ)
    (ht : tracers[i]? = some t) :
    let s := (ofTracers tracers).run steps
    let shares := (ofTracers tracers).shares i steps
    let alone := (Lifecycle.ofTracer t).alone shares
    s.lifecycles[i]? = some alone ∧
      ((ofTracers [t]).run (shares.map Share.sessionStep)).lifecycles = [alone] ∧
      (∀ (others : List (Tracer σ)) (steps' : List SessionStep), others[i]? = some t →
        (ofTracers others).shares i steps' = shares →
          ((ofTracers others).run steps').lifecycles[i]? = s.lifecycles[i]?) ∧
      ∀ (e : Event) (j k : Nat), (s.dispatch e).lifecycles[j]? ≠ s.lifecycles[j]? →
        (s.dispatch e).lifecycles[k]? ≠ s.lifecycles[k]? → j = k := by
  intro s shares alone
  have hshadows := shadows_run (shadows_ofTracers ht) steps
  refine ⟨hshadows.there, hshadows.here, fun others steps' hothers hshares => ?_, ?_⟩
  · have hothers' := (shadows_run (shadows_ofTracers hothers) steps').there
    rw [hshares] at hothers'
    exact hothers'.trans hshadows.there.symm
  · intro e j k hj hk
    have howner : ∀ m : Nat,
        (s.dispatch e).lifecycles[m]? ≠ s.lifecycles[m]? → s.hook = some m := by
      intro m hm
      refine Decidable.byContradiction fun hne => ?_
      exact hm (s.getElem?_dispatch_of_ne hne e)
    exact Option.some.inj ((howner j hj).symm.trans (howner k hk))

/-- The second lifecycle takes the hook from the first one, which misses an event, and tears down
before the first one is released. -/
theorem run_isolated_stolen_hook :
    let tracer : Tracer FileLines := .fresh .standard (.ofDisk .empty) .unlimited
    let call : Event := ⟨.called, .ofFunction "demo" "main"⟩
    let tracers := [tracer, tracer]
    let steps : List SessionStep := [.on 0 (.setup .standard), .dispatch call,
      .on 1 (.setup .standard), .dispatch call, .on 0 (.handle call), .on 1 .teardown,
      .dispatch call, .on 0 .release]
    let shares : List Share :=
      [.step (.setup .standard), .event call, .step (.handle call), .step .release]
    tracers[0]? = some tracer ∧ (ofTracers tracers).shares 0 steps = shares ∧
      ((ofTracers tracers).run steps).lifecycles[0]? =
        some ((Lifecycle.ofTracer tracer).alone shares) ∧
      ((ofTracers [tracer]).run (shares.map Share.sessionStep)).lifecycles =
        [(Lifecycle.ofTracer tracer).alone shares] := by
  intro tracer call tracers steps shares
  have hshares : (ofTracers tracers).shares 0 steps = shares := rfl
  obtain ⟨hshared, halone, -⟩ := run_isolated tracers steps 0 tracer rfl
  rw [hshares] at hshared halone
  exact ⟨rfl, hshares, hshared, halone⟩

end Session

end CallTrace
