import CallTrace.Context

/-!
# Dispatching events to hooks

At most one hook is installed at a time. An event is delivered to the hook that is installed when
its dispatch starts; the hook then performs its actions, which may install or remove hooks and
dispatch further events in turn. `perform` runs actions in this nested way. Events may nest without
end, so it takes a bound on the nesting: `performAll` takes one that is large enough whenever there
is an end, since a hook that is entered within itself never finishes.
-/

namespace CallTrace.Dispatch

/-! ## Hooks -/

inductive Action
  | install (hook : String)
  | uninstall
  | event (kind : EventKind) (function : String)
deriving DecidableEq, Repr

/-- A hook and the actions that it performs for each event. -/
structure Hook where
  name : String
  actions : List Action
deriving DecidableEq, Repr

/-- The actions of the hook with the given name. -/
def actionsOf (hooks : List Hook) (name : String) : List Action :=
  ((hooks.find? fun h => h.name == name).map Hook.actions).getD []

/-- An event that a hook received. -/
structure Delivery where
  hook : String
  kind : EventKind
  function : String
deriving DecidableEq, Repr

/-- The installed hook, and the deliveries so far, the latest first. -/
structure State where
  installed : Option String
  deliveries : List Delivery
deriving DecidableEq, Repr

namespace State

def start : State := ⟨none, []⟩

def note (s : State) (hook : String) (kind : EventKind) (function : String) : State :=
  { s with deliveries := ⟨hook, kind, function⟩ :: s.deliveries }

end State

/-! ## Nested dispatch -/

/-- Performs an action, where `dispatch` takes care of events. -/
def act (dispatch : EventKind → String → State → Option State) (s : State) :
    Action → Option State
  | .install hook => some { s with installed := some hook }
  | .uninstall => some { s with installed := none }
  | .event kind function => dispatch kind function s

/-- Dispatches an event; nothing comes of it if deliveries nest deeper than `bound`. -/
def dispatch (hooks : List Hook) (bound : Nat) (kind : EventKind) (function : String) (s : State) :
    Option State :=
  match s.installed with
  | none => some s
  | some hook =>
    match bound with
    | 0 => none
    | bound + 1 =>
      (actionsOf hooks hook).foldlM (act (dispatch hooks bound)) (s.note hook kind function)

theorem foldlM_act_mono {f g : EventKind → String → State → Option State}
    (h : ∀ kind function s t, f kind function s = some t → g kind function s = some t)
    (actions : List Action) (s t : State) (hs : actions.foldlM (act f) s = some t) :
    actions.foldlM (act g) s = some t := by
  induction actions generalizing s with
  | nil => exact hs
  | cons a rest ih =>
    rw [List.foldlM_cons] at hs ⊢
    obtain ⟨u, hu, ht⟩ := Option.bind_eq_some_iff.1 hs
    refine Option.bind_eq_some_iff.2 ⟨u, ?_, ih u ht⟩
    cases a with
    | install hook => exact hu
    | uninstall => exact hu
    | event kind function => exact h kind function s u hu

/-- A larger bound changes nothing that is finished. -/
theorem dispatch_succ (hooks : List Hook) (bound : Nat) (kind : EventKind) (function : String)
    (s t : State) (h : dispatch hooks bound kind function s = some t) :
    dispatch hooks (bound + 1) kind function s = some t := by
  induction bound generalizing kind function s t with
  | zero =>
    unfold dispatch at h ⊢
    split at h
    · next hi => simpa [hi] using h
    · cases h
  | succ bound ih =>
    rw [dispatch] at h ⊢
    cases hi : s.installed with
    | none => simpa [hi] using h
    | some hook =>
      rw [hi] at h
      exact foldlM_act_mono ih _ _ _ h

/-- Performs actions in order. -/
def perform (hooks : List Hook) (bound : Nat) (actions : List Action) (s : State) : Option State :=
  actions.foldlM (act (dispatch hooks bound)) s

/-- Performs actions in order, with room for as many deliveries within each other as there are
hooks. -/
def performAll (hooks : List Hook) (actions : List Action) (s : State) : Option State :=
  perform hooks (hooks.length + 1) actions s

end CallTrace.Dispatch
