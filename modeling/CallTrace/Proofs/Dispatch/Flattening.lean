import CallTrace.Dispatch.Worklist
import CallTrace.Proofs.Dispatch.Nesting

/-!
# Nested dispatch without nesting

Nested dispatch and the worklist perform the same actions in the same order: while a hook runs, what
is left of its actions stands in front of what was pending before.  So one of them comes to an end
exactly if the other does, in the same state (`performAll_eq_worklist`).

* `Worklist.taken`: the actions that a worklist takes, each with the hook installed at that moment.
  The deliveries are read off them.
* `Worklist.Performed`: what both ways of dispatching make of the actions at the front.
-/

namespace CallTrace.Dispatch

variable {hooks : List Hook}

/-! ## Performing in parts -/

theorem perform_cons {bound : Nat} {a : Action} {actions : List Action} {s t : State} :
    perform hooks bound (a :: actions) s = some t ↔
      ∃ u, act (dispatch hooks bound) s a = some u ∧ perform hooks bound actions u = some t := by
  rw [perform, List.foldlM_cons]
  exact Option.bind_eq_some_iff

theorem perform_append {bound : Nat} {before after : List Action} {s t : State} :
    perform hooks bound (before ++ after) s = some t ↔
      ∃ u, perform hooks bound before s = some u ∧ perform hooks bound after u = some t := by
  rw [perform, List.foldlM_append]
  exact Option.bind_eq_some_iff

/-- What a delivered event does: the hook that was installed gets it, and performs all of its
actions. -/
theorem performAll_event {kind : EventKind} {function : String} {s t : State} {hook : String}
    (hs : s.installed = some hook) (h : performAll hooks [.event kind function] s = some t) :
    performAll hooks (actionsOf hooks hook) (s.note hook kind function) = some t := by
  obtain ⟨u, hu, ht⟩ := perform_cons.1 h
  cases ht
  have hdispatch : dispatch hooks (hooks.length + 1) kind function s = some t := hu
  rw [dispatch_of_installed hs] at hdispatch
  exact performAll_eq_some_iff.2 ⟨_, hdispatch⟩

/-! ## Deliveries -/

/-- An action, with the hook that was installed when it was taken. -/
structure TakenAction where
  installed : Option String
  action : Action
deriving DecidableEq, Repr

/-- The delivery that the action made by itself. -/
def TakenAction.delivery? (a : TakenAction) : Option Delivery :=
  match a.action with
  | .event kind function => a.installed.map fun hook => ⟨hook, kind, function⟩
  | .install _ | .uninstall => none

namespace Worklist

def taken (hooks : List Hook) : Nat → Worklist → List TakenAction
  | 0, _ => []
  | n + 1, w =>
    match w.pending with
    | [] => []
    | a :: _ => ⟨w.state.installed, a⟩ :: taken hooks n (w.step hooks)

theorem deliveries_step (s : State) (a : Action) (rest : List Action) :
    ((⟨s, a :: rest⟩ : Worklist).step hooks).state.deliveries =
      (TakenAction.delivery? ⟨s.installed, a⟩).toList ++ s.deliveries := by
  cases a with
  | install hook => rfl
  | uninstall => rfl
  | event kind function =>
    unfold step TakenAction.delivery?
    cases s.installed <;> rfl

theorem run_done (n : Nat) (s : State) : run hooks n ⟨s, []⟩ = ⟨s, []⟩ := by
  induction n with
  | zero => rfl
  | succ n ih => exact ih

theorem run_add (m n : Nat) (w : Worklist) : run hooks (m + n) w = run hooks n (run hooks m w) := by
  induction m generalizing w with
  | zero => rw [Nat.zero_add]; rfl
  | succ m ih => rw [Nat.succ_add]; exact ih (w.step hooks)

/-- Each action taken makes its own delivery and no other one, in order. -/
theorem deliveries_run (n : Nat) (w : Worklist) :
    (run hooks n w).state.deliveries =
      ((taken hooks n w).filterMap TakenAction.delivery?).reverse ++ w.state.deliveries := by
  induction n generalizing w with
  | zero => rfl
  | succ n ih =>
    obtain ⟨s, pending⟩ := w
    cases pending with
    | nil => rw [run_done]; rfl
    | cons a rest =>
      show (run hooks n ((⟨s, a :: rest⟩ : Worklist).step hooks)).state.deliveries = _
      rw [ih, deliveries_step, taken]
      cases hd : TakenAction.delivery? ⟨s.installed, a⟩ with
      | none => rw [List.filterMap_cons_none hd]; rfl
      | some d => rw [List.filterMap_cons_some hd]; simp

/-! ## Events taken from a worklist -/

theorem step_of_vacant {s : State} (h : s.installed = none) (kind : EventKind) (function : String)
    (rest : List Action) :
    (⟨s, .event kind function :: rest⟩ : Worklist).step hooks = ⟨s, rest⟩ := by
  simp only [step, h]

theorem step_of_installed {s : State} {hook : String} (h : s.installed = some hook)
    (kind : EventKind) (function : String) (rest : List Action) :
    (⟨s, .event kind function :: rest⟩ : Worklist).step hooks =
      ⟨s.note hook kind function, actionsOf hooks hook ++ rest⟩ := by
  simp only [step, h]

/-! ## From nested dispatch to the worklist -/

theorem run_of_foldlM {f : EventKind → String → State → Option State}
    (hf : ∀ kind function s t rest, f kind function s = some t →
      ∃ n, run hooks n ⟨s, .event kind function :: rest⟩ = ⟨t, rest⟩)
    (actions rest : List Action) (s t : State) (h : actions.foldlM (act f) s = some t) :
    ∃ n, run hooks n ⟨s, actions ++ rest⟩ = ⟨t, rest⟩ := by
  induction actions generalizing s with
  | nil =>
    cases h
    exact ⟨0, rfl⟩
  | cons a actions ih =>
    rw [List.foldlM_cons] at h
    obtain ⟨u, hu, ht⟩ := Option.bind_eq_some_iff.1 h
    have hfirst : ∃ n, run hooks n ⟨s, a :: (actions ++ rest)⟩ = ⟨u, actions ++ rest⟩ := by
      cases a with
      | install hook =>
        cases hu
        exact ⟨1, rfl⟩
      | uninstall =>
        cases hu
        exact ⟨1, rfl⟩
      | event kind function => exact hf kind function s u _ hu
    obtain ⟨m, hm⟩ := hfirst
    obtain ⟨n, hn⟩ := ih u ht
    exact ⟨m + n, by rw [run_add, List.cons_append, hm, hn]⟩

theorem run_of_dispatch_vacant {bound : Nat} {s t : State} (hi : s.installed = none)
    {kind : EventKind} {function : String} (rest : List Action)
    (h : dispatch hooks bound kind function s = some t) :
    ∃ n, run hooks n ⟨s, .event kind function :: rest⟩ = ⟨t, rest⟩ := by
  rw [dispatch_of_vacant hi] at h
  cases h
  exact ⟨1, step_of_vacant hi kind function rest⟩

theorem run_of_dispatch (bound : Nat) (kind : EventKind) (function : String) (s t : State)
    (rest : List Action) (h : dispatch hooks bound kind function s = some t) :
    ∃ n, run hooks n ⟨s, .event kind function :: rest⟩ = ⟨t, rest⟩ := by
  induction bound generalizing kind function s t rest with
  | zero =>
    cases hi : s.installed with
    | none => exact run_of_dispatch_vacant hi rest h
    | some hook =>
      rw [dispatch_zero_of_installed hi] at h
      cases h
  | succ bound ih =>
    cases hi : s.installed with
    | none => exact run_of_dispatch_vacant hi rest h
    | some hook =>
      rw [dispatch_of_installed hi] at h
      obtain ⟨n, hn⟩ := run_of_foldlM ih _ rest _ t h
      refine ⟨1 + n, ?_⟩
      have hstep : run hooks 1 ⟨s, .event kind function :: rest⟩ =
          ⟨s.note hook kind function, actionsOf hooks hook ++ rest⟩ :=
        step_of_installed hi kind function rest
      rw [run_add, hstep, hn]

theorem run_of_perform {bound : Nat} {actions : List Action} {s t : State}
    (h : perform hooks bound actions s = some t) (rest : List Action) :
    ∃ n, run hooks n ⟨s, actions ++ rest⟩ = ⟨t, rest⟩ :=
  run_of_foldlM (fun kind function s t rest => run_of_dispatch bound kind function s t rest)
    actions rest s t h

/-! ## From the worklist to nested dispatch -/

/-- The actions in front of the rest are performed in the first `m` steps. -/
structure Performed (hooks : List Hook) (m : Nat) (s : State) (actions rest : List Action)
    (t : State) : Prop where
  nested : ∃ bound, perform hooks bound actions s = some t
  flat : run hooks m ⟨s, actions ++ rest⟩ = ⟨t, rest⟩

variable {actions rest : List Action} {s t u : State}

theorem performed_nil (s : State) (rest : List Action) : Performed hooks 0 s [] rest s :=
  ⟨⟨0, rfl⟩, rfl⟩

/-- An action that is done at once. -/
theorem Performed.cons {m : Nat} {a : Action} (h : Performed hooks m u actions rest t)
    (hact : ∀ bound, act (dispatch hooks bound) s a = some u)
    (hstep : (⟨s, a :: (actions ++ rest)⟩ : Worklist).step hooks = ⟨u, actions ++ rest⟩) :
    Performed hooks (m + 1) s (a :: actions) rest t := by
  obtain ⟨bound, hbound⟩ := h.nested
  constructor
  · exact ⟨bound, perform_cons.2 ⟨u, hact bound, hbound⟩⟩
  · show run hooks m ((⟨s, a :: (actions ++ rest)⟩ : Worklist).step hooks) = _
    rw [hstep, h.flat]

/-- An event that is delivered, whose hook performs its actions first. -/
theorem Performed.event {m₁ m₂ : Nat} {hook : String} {kind : EventKind} {function : String}
    (hi : s.installed = some hook)
    (h₁ : Performed hooks m₁ (s.note hook kind function) (actionsOf hooks hook) (actions ++ rest) u)
    (h₂ : Performed hooks m₂ u actions rest t) :
    Performed hooks (m₁ + m₂ + 1) s (.event kind function :: actions) rest t := by
  obtain ⟨b₁, hb₁⟩ := h₁.nested
  obtain ⟨b₂, hb₂⟩ := h₂.nested
  constructor
  · have hevent : dispatch hooks (max b₁ b₂ + 1) kind function s = some u := by
      rw [dispatch_of_installed hi]
      exact perform_mono (Nat.le_max_left b₁ b₂) hb₁
    have hrest : perform hooks (max b₁ b₂ + 1) actions u = some t := perform_mono (by omega) hb₂
    exact ⟨max b₁ b₂ + 1, perform_cons.2 ⟨u, hevent, hrest⟩⟩
  · show run hooks (m₁ + m₂)
      ((⟨s, .event kind function :: (actions ++ rest)⟩ : Worklist).step hooks) = _
    rw [step_of_installed hi, run_add, h₁.flat, h₂.flat]

/-- If a worklist gets done, then the actions at its front are performed on the way, before any
other.  Induction on the number of steps: an event splits what is left into the actions of its
hook and the rest, and both take fewer steps. -/
theorem performed_of_run (n : Nat) (actions rest : List Action) (s : State)
    (h : (run hooks n ⟨s, actions ++ rest⟩).pending = []) :
    ∃ m ≤ n, ∃ t, Performed hooks m s actions rest t := by
  induction n using Nat.strong_induction_on generalizing actions rest s with
  | _ n ih =>
    cases actions with
    | nil => exact ⟨0, Nat.zero_le n, s, performed_nil s rest⟩
    | cons a actions =>
      cases n with
      | zero => cases h
      | succ n =>
        have hnext : (run hooks n
            ((⟨s, a :: (actions ++ rest)⟩ : Worklist).step hooks)).pending = [] := h
        -- an action that is done at once leaves what is behind it
        have hsimple : ∀ u, (∀ bound, act (dispatch hooks bound) s a = some u) →
            (⟨s, a :: (actions ++ rest)⟩ : Worklist).step hooks = ⟨u, actions ++ rest⟩ →
            ∃ m ≤ n + 1, ∃ t, Performed hooks m s (a :: actions) rest t := by
          intro u hact hstep
          rw [hstep] at hnext
          obtain ⟨m, hm, t, ht⟩ := ih n (Nat.lt_succ_self n) actions rest u hnext
          exact ⟨m + 1, Nat.succ_le_succ hm, t, ht.cons hact hstep⟩
        cases a with
        | install hook => exact hsimple { s with installed := some hook } (fun _ => rfl) rfl
        | uninstall => exact hsimple { s with installed := none } (fun _ => rfl) rfl
        | event kind function =>
          cases hi : s.installed with
          | none =>
            exact hsimple s (fun bound => dispatch_of_vacant hi bound kind function)
              (step_of_vacant hi kind function _)
          | some hook =>
            rw [step_of_installed hi] at hnext
            obtain ⟨m₁, hm₁, u, hu⟩ := ih n (Nat.lt_succ_self n) _ _ _ hnext
            have hsplit : n = m₁ + (n - m₁) := by omega
            rw [hsplit, run_add, hu.flat] at hnext
            obtain ⟨m₂, hm₂, t, ht⟩ := ih (n - m₁) (by omega) actions rest u hnext
            exact ⟨m₁ + m₂ + 1, by omega, t, hu.event hi ht⟩

end Worklist

/-! ## Both ways of dispatching -/

/-- **Nested dispatch is a worklist.**  Nested dispatch comes to an end, with some bound on the
nesting and then with the bound that is used, exactly if the worklist gets done, and in the same
state.  An event that is taken makes one delivery, to the hook installed at that moment, or none
if there is no hook.  That hook performs all its actions, those that are left after any of them in
the state which these led to, whatever hook is installed then. -/
theorem performAll_eq_worklist (hooks : List Hook) (actions : List Action) (s : State) :
    (∀ t, (performAll hooks actions s = some t ↔ ∃ bound, perform hooks bound actions s = some t) ∧
      (performAll hooks actions s = some t ↔ ∃ n, Worklist.run hooks n ⟨s, actions⟩ = ⟨t, []⟩)) ∧
    (∀ n, (Worklist.run hooks n ⟨s, actions⟩).state.deliveries =
      ((Worklist.taken hooks n ⟨s, actions⟩).filterMap TakenAction.delivery?).reverse
        ++ s.deliveries) ∧
    ∀ kind function t, performAll hooks [.event kind function] s = some t →
      (s.installed = none → t = s) ∧
      ∀ hook, s.installed = some hook → ∀ before after, actionsOf hooks hook = before ++ after →
        ∃ u, performAll hooks before (s.note hook kind function) = some u ∧
          performAll hooks after u = some t := by
  refine ⟨fun t => ⟨performAll_eq_some_iff, ?_⟩, fun n => Worklist.deliveries_run n _, ?_⟩
  · constructor
    · intro h
      have hrun := Worklist.run_of_perform h []
      rwa [List.append_nil] at hrun
    · rintro ⟨n, hn⟩
      have hdone : (Worklist.run hooks n ⟨s, actions ++ []⟩).pending = [] := by
        rw [List.append_nil, hn]
      obtain ⟨m, hm, u, hu⟩ := Worklist.performed_of_run n actions [] s hdone
      have hflat := hu.flat
      rw [List.append_nil] at hflat
      -- the worklist stays as it is once it is done
      have hsplit : n = m + (n - m) := by omega
      rw [hsplit, Worklist.run_add, hflat, Worklist.run_done] at hn
      cases hn
      exact performAll_eq_some_iff.2 hu.nested
  · intro kind function t h
    constructor
    · intro hs
      obtain ⟨u, hu, ht⟩ := perform_cons.1 h
      cases ht
      have hdispatch : dispatch hooks (hooks.length + 1) kind function s = some t := hu
      rw [dispatch_of_vacant hs] at hdispatch
      exact (Option.some.inj hdispatch).symm
    · intro hook hs before after hactions
      have hall := performAll_event hs h
      rw [hactions] at hall
      exact perform_append.1 hall

/-- The first hook replaces itself, and the one that replaces it is replaced in turn during a
nested event.  What is left of the first hook's actions is performed all the same, and its last
event goes to the third hook. -/
theorem performAll_eq_worklist_replaced_within :
    let hooks : List Hook := [⟨"a", [.install "b", .event .called "g", .event .returned "h"]⟩,
      ⟨"b", [.uninstall, .install "c"]⟩]
    let s : State := ⟨some "a", []⟩
    let t : State := ⟨some "c",
      [⟨"c", .returned, "h"⟩, ⟨"b", .called, "g"⟩, ⟨"a", .called, "f"⟩]⟩
    performAll hooks [.event .called "f"] s = some t ∧
      (∃ n, Worklist.run hooks n ⟨s, [.event .called "f"]⟩ = ⟨t, []⟩) ∧
      actionsOf hooks "a" = [.install "b", .event .called "g"] ++ [.event .returned "h"] ∧
      ∃ u, performAll hooks [.install "b", .event .called "g"] (s.note "a" .called "f") = some u ∧
        performAll hooks [.event .returned "h"] u = some t := by
  intro hooks s t
  have hnested : performAll hooks [.event .called "f"] s = some t := by decide
  obtain ⟨hboth, -, hevent⟩ := performAll_eq_worklist hooks [.event .called "f"] s
  obtain ⟨-, hruns⟩ := hevent .called "f" t hnested
  exact ⟨hnested, (hboth t).2.1 hnested, rfl, hruns "a" rfl _ _ rfl⟩

/-- A hook that is entered within itself never finishes. -/
example : performAll [⟨"a", [.event .called "f"]⟩] [.event .called "f"] ⟨some "a", []⟩ = none := by
  decide

end CallTrace.Dispatch
