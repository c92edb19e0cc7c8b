import CallTrace.Dispatch.Basic
import Mathlib.Data.Finset.Card

/-!
# How deep deliveries nest

A hook that is entered finds itself installed and performs the same actions each time, so whether
it finishes depends on the bound alone (`perform_afterwards`).  With a larger bound more hooks may
finish.  Once one step of the bound brings no further hook, no larger one does, and before that
each step brings one of the hooks there are.  Hence a bound that exceeds the number of hooks is
large enough (`performAll_eq_some_iff`).
-/

namespace CallTrace.Dispatch

variable {hooks : List Hook}

/-! ## Events -/

theorem dispatch_of_installed {bound : Nat} {hook : String} {s : State}
    (h : s.installed = some hook)
    (kind : EventKind) (function : String) :
    dispatch hooks (bound + 1) kind function s =
      perform hooks bound (actionsOf hooks hook) (s.note hook kind function) := by
  rw [dispatch, h]
  rfl

theorem dispatch_of_vacant {s : State} (h : s.installed = none) (bound : Nat) (kind : EventKind)
    (function : String) : dispatch hooks bound kind function s = some s := by
  rw [dispatch, h]

theorem dispatch_zero_of_installed {hook : String} {s : State} (h : s.installed = some hook)
    (kind : EventKind) (function : String) : dispatch hooks 0 kind function s = none := by
  rw [dispatch, h]

/-! ## Earlier deliveries -/

/-- The same state with deliveries that came before. -/
def State.afterwards (s : State) (earlier : List Delivery) : State :=
  { s with deliveries := s.deliveries ++ earlier }

theorem State.installed_afterwards (s : State) (earlier : List Delivery) :
    (s.afterwards earlier).installed = s.installed := rfl

theorem foldlM_act_afterwards {f : EventKind → String → State → Option State}
    (earlier : List Delivery)
    (hf : ∀ kind function s, f kind function (s.afterwards earlier) =
      (f kind function s).map (·.afterwards earlier))
    (actions : List Action) (s : State) :
    actions.foldlM (act f) (s.afterwards earlier) =
      (actions.foldlM (act f) s).map (·.afterwards earlier) := by
  induction actions generalizing s with
  | nil => rfl
  | cons a rest ih =>
    have hact : act f (s.afterwards earlier) a = (act f s a).map (·.afterwards earlier) := by
      cases a with
      | install hook => rfl
      | uninstall => rfl
      | event kind function => exact hf kind function s
    rw [List.foldlM_cons, List.foldlM_cons, hact]
    cases act f s a with
    | none => rfl
    | some u => exact ih u

theorem dispatch_afterwards_of_vacant {s : State} (h : s.installed = none) (bound : Nat)
    (kind : EventKind) (function : String) (earlier : List Delivery) :
    dispatch hooks bound kind function (s.afterwards earlier) =
      (dispatch hooks bound kind function s).map (·.afterwards earlier) := by
  rw [dispatch_of_vacant h, dispatch_of_vacant ((s.installed_afterwards earlier).trans h)]
  rfl

theorem dispatch_afterwards (bound : Nat) (kind : EventKind) (function : String) (s : State)
    (earlier : List Delivery) :
    dispatch hooks bound kind function (s.afterwards earlier) =
      (dispatch hooks bound kind function s).map (·.afterwards earlier) := by
  induction bound generalizing kind function s with
  | zero =>
    cases hi : s.installed with
    | none => exact dispatch_afterwards_of_vacant hi 0 kind function earlier
    | some hook =>
      rw [dispatch_zero_of_installed hi,
        dispatch_zero_of_installed ((s.installed_afterwards earlier).trans hi)]
      rfl
  | succ bound ih =>
    cases hi : s.installed with
    | none => exact dispatch_afterwards_of_vacant hi (bound + 1) kind function earlier
    | some hook =>
      rw [dispatch_of_installed hi,
        dispatch_of_installed ((s.installed_afterwards earlier).trans hi)]
      exact foldlM_act_afterwards earlier ih _ (s.note hook kind function)

/-- What was delivered before has no influence. -/
theorem perform_afterwards (bound : Nat) (actions : List Action) (s : State)
    (earlier : List Delivery) :
    perform hooks bound actions (s.afterwards earlier) =
      (perform hooks bound actions s).map (·.afterwards earlier) :=
  foldlM_act_afterwards earlier
    (fun kind function s => dispatch_afterwards bound kind function s earlier) actions s

/-! ## Larger bounds -/

theorem perform_mono {b c : Nat} (hle : b ≤ c) {actions : List Action} {s t : State}
    (h : perform hooks b actions s = some t) : perform hooks c actions s = some t := by
  induction c, hle using Nat.le_induction with
  | base => exact h
  | succ c _ ih => exact foldlM_act_mono (dispatch_succ hooks c) actions s t ih

/-- Bounds that both suffice lead to the same state. -/
theorem perform_unique {b c : Nat} {actions : List Action} {s t u : State}
    (ht : perform hooks b actions s = some t) (hu : perform hooks c actions s = some u) :
    t = u := by
  have ht' := perform_mono (Nat.le_max_left b c) ht
  rw [perform_mono (Nat.le_max_right b c) hu] at ht'
  exact (Option.some.inj ht').symm

/-! ## Hooks that finish -/

/-- Whether the hook finishes when an event enters it. -/
def finishes (hooks : List Hook) (bound : Nat) (name : String) : Bool :=
  (perform hooks bound (actionsOf hooks name) ⟨some name, []⟩).isSome

theorem isSome_perform_entered (bound : Nat) (name : String) (log : List Delivery) :
    (perform hooks bound (actionsOf hooks name) ⟨some name, log⟩).isSome =
      finishes hooks bound name := by
  have hstate : (⟨some name, log⟩ : State) = State.afterwards ⟨some name, []⟩ log := rfl
  rw [hstate, perform_afterwards, Option.isSome_map, finishes]

theorem finishes_mono {b c : Nat} (hle : b ≤ c) {name : String} (h : finishes hooks b name = true) :
    finishes hooks c name = true := by
  obtain ⟨t, ht⟩ := Option.isSome_iff_exists.1 h
  exact Option.isSome_iff_exists.2 ⟨t, perform_mono hle ht⟩

/-- A name without a hook stands for one that does nothing. -/
theorem finishes_of_not_mem {name : String} (h : name ∉ hooks.map Hook.name) (bound : Nat) :
    finishes hooks bound name = true := by
  have hfind : hooks.find? (fun hook => hook.name == name) = none := by
    rw [List.find?_eq_none]
    intro hook hmem heq
    exact h (List.mem_map.2 ⟨hook, hmem, beq_iff_eq.1 heq⟩)
  have hactions : actionsOf hooks name = [] := by rw [actionsOf, hfind]; rfl
  rw [finishes, hactions]
  rfl

/-- If all hooks that finish with one bound finish with another one too, then so do actions that
enter them. -/
theorem perform_of_finishes {b c : Nat}
    (h : ∀ name, finishes hooks c name = true → finishes hooks b name = true)
    {actions : List Action} {s t : State} (hs : perform hooks (c + 1) actions s = some t) :
    perform hooks (b + 1) actions s = some t := by
  refine foldlM_act_mono (fun kind function s t hst => ?_) actions s t hs
  cases hi : s.installed with
  | none =>
    rw [dispatch_of_vacant hi] at hst ⊢
    exact hst
  | some hook =>
    rw [dispatch_of_installed hi] at hst ⊢
    have hentered :
        s.note hook kind function = ⟨some hook, ⟨hook, kind, function⟩ :: s.deliveries⟩ := by
      rw [State.note, hi]
    have hfin : finishes hooks c hook = true := by
      rw [← isSome_perform_entered, ← hentered, hst]
      rfl
    have hb :
        (perform hooks b (actionsOf hooks hook) (s.note hook kind function)).isSome = true := by
      rw [hentered, isSome_perform_entered]
      exact h hook hfin
    obtain ⟨u, hu⟩ := Option.isSome_iff_exists.1 hb
    rw [perform_unique hst hu]
    exact hu

/-! ## Bounds that suffice -/

/-- The next larger bound brings no further hook that finishes. -/
def Settled (hooks : List Hook) (bound : Nat) : Prop :=
  ∀ name, finishes hooks (bound + 1) name = true → finishes hooks bound name = true

theorem Settled.succ {bound : Nat} (h : Settled hooks bound) : Settled hooks (bound + 1) := by
  intro name hname
  obtain ⟨t, ht⟩ := Option.isSome_iff_exists.1 hname
  exact Option.isSome_iff_exists.2 ⟨t, perform_of_finishes h ht⟩

theorem Settled.finishes {b : Nat} (h : Settled hooks b) (c : Nat) {name : String}
    (hc : finishes hooks c name = true) : finishes hooks b name = true := by
  have hsettled : ∀ d, Settled hooks (b + d) := by
    intro d
    induction d with
    | zero => exact h
    | succ d ih => exact ih.succ
  have hdown : ∀ d, Dispatch.finishes hooks (b + d) name = true →
      Dispatch.finishes hooks b name = true := by
    intro d
    induction d with
    | zero => exact id
    | succ d ih => exact fun hd => ih (hsettled d name hd)
  exact hdown c (finishes_mono (Nat.le_add_left c b) hc)

def finishing (hooks : List Hook) (bound : Nat) : Finset String :=
  (hooks.map Hook.name).toFinset.filter fun name => finishes hooks bound name = true

theorem card_finishing_lt {bound : Nat} (h : ¬ Settled hooks bound) :
    (finishing hooks bound).card < (finishing hooks (bound + 1)).card := by
  obtain ⟨name, hname⟩ := not_forall.1 h
  obtain ⟨hnext, hnow⟩ := Classical.not_imp.1 hname
  apply Finset.card_lt_card
  refine ⟨?_, fun hback => ?_⟩
  · intro x hx
    obtain ⟨hmem, hfin⟩ := Finset.mem_filter.1 hx
    exact Finset.mem_filter.2 ⟨hmem, finishes_mono (Nat.le_succ bound) hfin⟩
  · have hmem : name ∈ hooks.map Hook.name :=
      Decidable.byContradiction fun hnot => hnow (finishes_of_not_mem hnot bound)
    have hin := hback (Finset.mem_filter.2 ⟨List.mem_toFinset.2 hmem, hnext⟩)
    exact hnow (Finset.mem_filter.1 hin).2

theorem card_finishing_le (bound : Nat) : (finishing hooks bound).card ≤ hooks.length := by
  calc (finishing hooks bound).card
      ≤ (hooks.map Hook.name).toFinset.card := Finset.card_filter_le _ _
    _ ≤ (hooks.map Hook.name).length := List.toFinset_card_le _
    _ = hooks.length := List.length_map _

/-- A bound settles that is not larger than the number of hooks. -/
theorem exists_settled (hooks : List Hook) : ∃ bound ≤ hooks.length, Settled hooks bound := by
  by_contra hnone
  have hall : ∀ bound ≤ hooks.length, ¬ Settled hooks bound := by
    intro bound hle hsettled
    exact hnone ⟨bound, hle, hsettled⟩
  have hgrows : ∀ bound ≤ hooks.length + 1, bound ≤ (finishing hooks bound).card := by
    intro bound
    induction bound with
    | zero => intro _; exact Nat.zero_le _
    | succ bound ih =>
      intro hle
      have hbefore := ih (by omega)
      have hlt := card_finishing_lt (hall bound (by omega))
      omega
  have hlast := hgrows (hooks.length + 1) (Nat.le_refl _)
  have hmost : (finishing hooks (hooks.length + 1)).card ≤ hooks.length :=
    card_finishing_le (hooks.length + 1)
  omega

/-- Performing all actions succeeds whenever some bound on the nesting is large enough. -/
theorem performAll_eq_some_iff {actions : List Action} {s t : State} :
    performAll hooks actions s = some t ↔ ∃ bound, perform hooks bound actions s = some t := by
  constructor
  · intro h
    exact ⟨hooks.length + 1, h⟩
  · rintro ⟨c, hc⟩
    obtain ⟨b, hb, hsettled⟩ := exists_settled hooks
    have hfin : ∀ name, finishes hooks c name = true → finishes hooks b name = true :=
      fun name => hsettled.finishes c
    have hperform := perform_of_finishes hfin (perform_mono (Nat.le_succ c) hc)
    exact perform_mono (Nat.succ_le_succ hb) hperform

end CallTrace.Dispatch
