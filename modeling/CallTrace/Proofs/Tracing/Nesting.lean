import CallTrace.Proofs.Tracing.Consultations
import Mathlib.Algebra.Order.Ring.Int

/-!
# Nested calls and their indentation

Events are nested for a filter when each traced call is followed by its return, with nested events
in between.  While nested events are dispatched to a tracer, its depth exceeds that of the
beginning by the calls that are still open, less the calls whose lookup crashed: these are not
counted, but their returns are (`depth_of_nested`).  So in the end the depth is what it was if no
lookup crashed, and lower by one for each that did (`shallower_after_crash`).
-/

namespace CallTrace

variable {σ : Type}

/-! ## Nested events -/

namespace ModuleFilter

/-- One for a traced call, minus one for a traced return, zero for all else. -/
def nesting (f : ModuleFilter) (e : Event) : Int :=
  if f.passes e.context.module then
    match e.kind with
    | .called => 1
    | .returned => -1
    | .reachedLine | .raised | .other => 0
  else 0

/-- The traced calls less the traced returns. -/
def openCalls (f : ModuleFilter) (events : List Event) : Int := (events.map f.nesting).sum

/-- Each traced call has its return, with nested events between the two.  All other events may stand
anywhere. -/
inductive Nested (f : ModuleFilter) : List Event → Prop
  | nil : f.Nested []
  | ignored (e : Event) {rest : List Event} (he : f.nesting e = 0) (hrest : f.Nested rest) :
      f.Nested (e :: rest)
  | call (called returned : Event) {inner rest : List Event} (hcalled : f.nesting called = 1)
      (hinner : f.Nested inner) (hreturned : f.nesting returned = -1) (hrest : f.Nested rest) :
      f.Nested (called :: (inner ++ returned :: rest))

variable {f : ModuleFilter}

theorem openCalls_cons (e : Event) (events : List Event) :
    f.openCalls (e :: events) = f.nesting e + f.openCalls events := by
  simp [openCalls]

theorem openCalls_append (events events' : List Event) :
    f.openCalls (events ++ events') = f.openCalls events + f.openCalls events' := by
  simp [openCalls]

/-- In the end all calls have returned. -/
theorem openCalls_nested {events : List Event} (h : f.Nested events) : f.openCalls events = 0 := by
  induction h with
  | nil => rfl
  | ignored e he hrest ih =>
    rw [openCalls_cons, he, ih]
    rfl
  | call called returned hcalled hinner hreturned hrest ihinner ihrest =>
    rw [openCalls_cons, openCalls_append, openCalls_cons, hcalled, hreturned, ihinner, ihrest]
    rfl

/-- On the way no more calls return than were made. -/
theorem openCalls_nonneg {events before after : List Event} (h : f.Nested events)
    (hsplit : before ++ after = events) : 0 ≤ f.openCalls before := by
  induction h generalizing before after with
  | nil =>
    rw [(List.append_eq_nil_iff.1 hsplit).1]
    exact Int.le_refl 0
  | ignored e he hrest ih =>
    rcases List.append_eq_cons_iff.1 hsplit with ⟨rfl, -⟩ | ⟨before, rfl, hrest⟩
    · exact Int.le_refl 0
    · have hbefore := ih hrest.symm
      rw [openCalls_cons, he]
      omega
  | @call called returned inner rest hcalled hinner hreturned hrest ihinner ihrest =>
    rcases List.append_eq_cons_iff.1 hsplit with ⟨rfl, -⟩ | ⟨before, rfl, htail⟩
    · exact Int.le_refl 0
    rw [openCalls_cons, hcalled]
    rcases List.append_eq_append_iff.1 htail with ⟨within, hbefore, hlater⟩ | ⟨within, rfl, -⟩
    · subst hbefore
      rw [openCalls_append, openCalls_nested hinner]
      rcases List.append_eq_cons_iff.1 hlater.symm with ⟨rfl, -⟩ | ⟨before, rfl, hafter⟩
      · simp [openCalls]
      · have hbefore := ihrest hafter.symm
        rw [openCalls_cons, hreturned]
        omega
    · have hbefore := ihinner rfl
      omega

end ModuleFilter

/-! ## What an event does to the depth -/

namespace Tracer

theorem nesting_of_ignores {t : Tracer σ} {e : Event} (h : t.Ignores e) :
    t.filter.nesting e = 0 := by
  unfold ModuleFilter.nesting
  split
  · next hp =>
    cases hk : e.kind with
    | called => exact absurd hk (h hp).1
    | returned => exact absurd hk (h hp).2
    | reachedLine | raised | other => rfl
  · rfl

variable [LineSource σ] (t : Tracer σ) (e : Event)

/-- All that an event can be to a tracer, with what it is to the depth. -/
inductive Turn : Prop
  | ignored (hnesting : t.filter.nesting e = 0) (hcrash : t.crashesOn e = false)
      (h : t.onEvent e = t)
  | crashed (sources : σ) (hnesting : t.filter.nesting e = 1) (hcrash : t.crashesOn e = true)
      (hfound : t.rules.classify e.context t.sources = (none, sources))
      (h : t.onEvent e = { t with sources })
  | entered (c : Classification) (sources : σ) (hnesting : t.filter.nesting e = 1)
      (hcrash : t.crashesOn e = false)
      (hfound : t.rules.classify e.context t.sources = (some c, sources))
      (h : t.onEvent e = t.entered e.context c sources)
  | left (hnesting : t.filter.nesting e = -1) (hcrash : t.crashesOn e = false)
      (h : t.onEvent e = t.leave)

theorem turn : t.Turn e := by
  cases t.effect e with
  | ignored h =>
    refine .ignored (nesting_of_ignores h) ?_ (congrArg Prod.snd (handle_ignored h))
    rw [crashesOn, consults_of_ignores h, Bool.false_and]
  | crashed sources hk hp hfound =>
    have hnesting : t.filter.nesting e = 1 := by simp [ModuleFilter.nesting, hp, hk]
    refine .crashed sources hnesting ?_ hfound (congrArg Prod.snd (handle_crashed hk hp hfound))
    rw [t.crashesOn_iff e hk hp, hfound]
  | entered c sources hk hp hfound =>
    have hnesting : t.filter.nesting e = 1 := by simp [ModuleFilter.nesting, hp, hk]
    refine .entered c sources hnesting ?_ hfound (congrArg Prod.snd (handle_entered hk hp hfound))
    rw [← Bool.not_eq_true, t.crashesOn_iff e hk hp, hfound]
    exact Option.some_ne_none c
  | left hk hp =>
    refine .left ?_ ?_ (congrArg Prod.snd (handle_left hk hp))
    · simp [ModuleFilter.nesting, hp, hk]
    · simp [crashesOn, consults, hk]

theorem filter_onEvent : (t.onEvent e).filter = t.filter := by
  cases t.turn e with
  | ignored hnesting hcrash h => exact (congrArg Tracer.filter h).trans rfl
  | crashed sources hnesting hcrash hfound h => exact (congrArg Tracer.filter h).trans rfl
  | entered c sources hnesting hcrash hfound h => exact (congrArg Tracer.filter h).trans rfl
  | left hnesting hcrash h => exact (congrArg Tracer.filter h).trans rfl

/-- The depth follows the nesting, but a call whose lookup crashes is not counted. -/
theorem depth_onEvent (hroom : t.depth.natAbs + 1 < 2 ^ 63) :
    (t.onEvent e).depth = t.depth + t.filter.nesting e - (t.crashesOn e).toNat := by
  have hhigh : t.depth < Depth.top := by
    rw [Depth.top]
    omega
  have hlow : Depth.bottom < t.depth := by
    rw [Depth.bottom]
    omega
  cases t.turn e with
  | ignored hnesting hcrash h =>
    rw [h, hnesting, hcrash]
    simp
  | crashed sources hnesting hcrash hfound h =>
    rw [h, hnesting, hcrash]
    simp
  | entered c sources hnesting hcrash hfound h =>
    have hdepth : (t.entered e.context c sources).depth = Depth.deeper t.depth := rfl
    rw [h, hnesting, hcrash, hdepth, Depth.deeper_of_lt hhigh]
    simp
  | left hnesting hcrash h =>
    have hdepth : t.leave.depth = Depth.shallower t.depth := rfl
    rw [h, hnesting, hcrash, hdepth, Depth.shallower_of_lt hlow]
    simp [Int.sub_eq_add_neg]

theorem natAbs_depth_onEvent_le (hroom : t.depth.natAbs + 1 < 2 ^ 63) :
    (t.onEvent e).depth.natAbs ≤ t.depth.natAbs + 1 := by
  have hdepth := t.depth_onEvent e hroom
  cases t.turn e with
  | ignored hnesting hcrash | crashed _ hnesting hcrash | entered _ _ hnesting hcrash
  | left hnesting hcrash =>
    rw [hnesting, hcrash] at hdepth
    simp only [Bool.toNat_true, Bool.toNat_false] at hdepth
    omega

/-- The lines that an event prints: those of a traced call that is found to be something. -/
def printed : List OutputLine :=
  if t.filter.nesting e = 1 then
    (t.rules.classify e.context t.sources).1.elim [] (t.callLines e.context)
  else []

theorem channel_onEvent : (t.onEvent e).channel = (t.channel.writeLines (t.printed e)).2 := by
  unfold printed
  cases t.turn e with
  | ignored hnesting hcrash h =>
    rw [h, hnesting]
    rfl
  | crashed sources hnesting hcrash hfound h =>
    rw [h, if_pos hnesting, hfound]
    rfl
  | entered c sources hnesting hcrash hfound h =>
    rw [h, if_pos hnesting, hfound]
    rfl
  | left hnesting hcrash h =>
    rw [h, hnesting]
    rfl

theorem indent_printed {line : OutputLine} (h : line ∈ t.printed e) :
    line.indent = 2 * t.depth.toNat := by
  unfold printed at h
  split at h
  · cases hfound : (t.rules.classify e.context t.sources).1 with
    | none =>
      rw [hfound] at h
      cases h
    | some c =>
      rw [hfound, Option.elim_some, callLines] at h
      rcases List.mem_append.1 h with h | h
      · split at h
        · cases List.mem_singleton.1 h
          rfl
        · cases h
      · cases List.mem_singleton.1 h
        rfl
  · cases h

end Tracer

/-! ## Runs of events -/

/-- Whether the step is an event or a change of a channel. -/
def SessionStep.isEventOrChannel : SessionStep → Bool
  | .dispatch _ => true
  | .on _ (.channel _) => true
  | _ => false

def SessionStep.event? : SessionStep → Option Event
  | .dispatch e => some e
  | _ => none

namespace Session

/-- Lifecycle `i` has the hook. -/
structure Installed (s : Session σ) (i : Nat) (l : Lifecycle σ) : Prop where
  hook : s.hook = some i
  lifecycle : s.lifecycles[i]? = some l

variable [LineSource σ]

/-- The number of lookups that crash during a run. -/
def crashes (s : Session σ) (steps : List SessionStep) : Nat := (s.log steps).countP Taken.crashed

def events (steps : List SessionStep) : List Event := steps.filterMap SessionStep.event?

variable {s : Session σ} {i : Nat} {l : Lifecycle σ}

theorem crashes_cons (step : SessionStep) (rest : List SessionStep) :
    s.crashes (step :: rest) =
      (Taken.mk s step (s.step step).1 (s.step step).2).crashed.toNat
        + (s.step step).2.crashes rest := by
  unfold crashes
  rw [log, List.countP_cons, Nat.add_comm]
  cases (Taken.mk s step (s.step step).1 (s.step step).2).crashed <;> rfl

/-! ### Steps -/

theorem installed_dispatch (h : s.Installed i l) (e : Event) :
    (s.step (.dispatch e)).2.Installed i { l with tracer := l.tracer.onEvent e } := by
  constructor
  · rw [s.hook_dispatch, h.hook]
  · rw [s.getElem?_step, h.lifecycle, Option.map_some, stepAt, if_pos h.hook]

theorem crashed_dispatch (h : s.Installed i l) (e : Event) (outcome : Except StepError Unit)
    (after : Session σ) :
    (Taken.mk s (.dispatch e) outcome after).crashed = l.tracer.crashesOn e := by
  have hdelivery : (Taken.mk s (.dispatch e) outcome after).delivery? = some ⟨i, l.tracer, e⟩ :=
    delivery?_dispatch h.hook h.lifecycle e
  rw [Taken.crashed, hdelivery]
  rfl

/-- A change of any channel leaves filter and depth as they were. -/
theorem installed_channel (h : s.Installed i l) (k : Nat) (change : ChannelChange) :
    ∃ c, (s.step (.on k (.channel change))).2.Installed i
      { l with tracer := { l.tracer with channel := c } } := by
  have hhook : (s.step (.on k (.channel change))).2.hook = some i := by
    rw [hook_step]
    cases s.lifecycles[k]? with
    | none => exact h.hook
    | some l' =>
      rw [Option.elim_some, l'.step_channel]
      exact h.hook
  by_cases hki : k = i
  · refine ⟨change.apply l.tracer.channel, hhook, ?_⟩
    rw [s.getElem?_step, h.lifecycle, Option.map_some, stepAt, if_pos hki,
      l.step_channel]
    rfl
  · refine ⟨l.tracer.channel, hhook, ?_⟩
    rw [s.getElem?_step, h.lifecycle, Option.map_some, stepAt, if_neg hki]

/-! ### Runs -/

/-- The depth follows the calls that are open, less those whose lookup crashed. -/
theorem depth_run {steps : List SessionStep} (h : s.Installed i l)
    (hsteps : ∀ step ∈ steps, step.isEventOrChannel = true)
    (hroom : l.tracer.depth.natAbs + (events steps).length < 2 ^ 63) :
    ∃ l', (s.run steps).Installed i l' ∧ l'.tracer.filter = l.tracer.filter ∧
      l'.tracer.depth =
        l.tracer.depth + l.tracer.filter.openCalls (events steps) - s.crashes steps := by
  induction steps generalizing s l with
  | nil =>
    refine ⟨l, h, rfl, ?_⟩
    simp [events, ModuleFilter.openCalls, crashes, log]
  | cons step rest ih =>
    have hrest : ∀ step ∈ rest, step.isEventOrChannel = true :=
      fun step hmem => hsteps step (List.mem_cons_of_mem _ hmem)
    cases step with
    | dispatch e =>
      have hevents : events (.dispatch e :: rest) = e :: events rest := rfl
      rw [hevents, List.length_cons] at hroom
      have hdepth := l.tracer.depth_onEvent e (by omega)
      have hfilter := l.tracer.filter_onEvent e
      have hbound := l.tracer.natAbs_depth_onEvent_le e (by omega)
      have hnext : (l.tracer.onEvent e).depth.natAbs + (events rest).length < 2 ^ 63 := by omega
      obtain ⟨l', hl', hfilter', hdepth'⟩ := ih (installed_dispatch h e) hrest hnext
      refine ⟨l', hl', hfilter'.trans hfilter, ?_⟩
      rw [hdepth', hevents, ModuleFilter.openCalls_cons, crashes_cons, crashed_dispatch h]
      show (l.tracer.onEvent e).depth + (l.tracer.onEvent e).filter.openCalls _ - _ = _
      rw [hdepth, hfilter]
      omega
    | uninstall => cases hsteps .uninstall List.mem_cons_self
    | on k own =>
      cases own with
      | channel change =>
        obtain ⟨c, hc⟩ := installed_channel h k change
        obtain ⟨l', hl', hfilter', hdepth'⟩ := ih hc hrest hroom
        have hcrashes : s.crashes (.on k (.channel change) :: rest) =
            (s.step (.on k (.channel change))).2.crashes rest := by
          rw [crashes_cons]
          exact Nat.zero_add _
        refine ⟨l', hl', hfilter', ?_⟩
        rw [hcrashes]
        exact hdepth'
      | _ => cases hsteps _ List.mem_cons_self

/-- **Indentation follows nesting, but for crashed lookups.**  Nested events are dispatched to the
tracer that has the hook, while channels change at will.  In the end its depth is lower by the
number of lookups that crashed, so it is what it was at the beginning if and only if none did.
Each line printed on the way is indented by the calls that are then open and the crashes up to
then. -/
theorem depth_of_nested (s : Session σ) (i : Nat) (l : Lifecycle σ) (steps : List SessionStep)
    (h : s.Installed i l) (hsteps : ∀ step ∈ steps, step.isEventOrChannel = true)
    (hnested : l.tracer.filter.Nested (events steps))
    (hroom : l.tracer.depth.natAbs + (events steps).length < 2 ^ 63) :
    (∃ l', (s.run steps).Installed i l' ∧
      l'.tracer.depth = l.tracer.depth - s.crashes steps) ∧
    ∀ before e after, before ++ .dispatch e :: after = steps →
      let stillOpen := l.tracer.filter.openCalls (events before)
      0 ≤ stillOpen ∧ ∃ l', (s.run before).Installed i l' ∧
        (s.run (before ++ [.dispatch e])).Installed i
          { l' with tracer := l'.tracer.onEvent e } ∧
        (l'.tracer.onEvent e).channel = (l'.tracer.channel.writeLines (l'.tracer.printed e)).2 ∧
        ∀ line ∈ l'.tracer.printed e,
          line.indent = 2 * (l.tracer.depth + stillOpen - s.crashes before).toNat := by
  constructor
  · obtain ⟨l', hl', -, hdepth⟩ := depth_run h hsteps hroom
    rw [ModuleFilter.openCalls_nested hnested, Int.add_zero] at hdepth
    exact ⟨l', hl', hdepth⟩
  · intro before e after hsplit stillOpen
    have hevents : events before ++ events (.dispatch e :: after) = events steps := by
      rw [← hsplit]
      exact List.filterMap_append.symm
    have hshort : (events before).length ≤ (events steps).length := by
      rw [← hevents, List.length_append]
      omega
    have hbefore : ∀ step ∈ before, step.isEventOrChannel = true :=
      fun step hmem => hsteps step (hsplit ▸ List.mem_append_left _ hmem)
    obtain ⟨l', hl', -, hdepth⟩ := depth_run h hbefore (by omega)
    refine ⟨ModuleFilter.openCalls_nonneg hnested hevents, l', hl', ?_, l'.tracer.channel_onEvent e,
      fun line hline => ?_⟩
    · rw [run_append]
      exact installed_dispatch hl' e
    · rw [l'.tracer.indent_printed e hline, hdepth]

/-- Within a call, a call crashes and returns and another one is made, while the channel is full.
The tracer is at depth one before. -/
theorem depth_of_nested_crashed_and_full :
    let tracer : Tracer (Brittle FileLines) :=
      .fresh .standard ⟨["boom.py"], .ofDisk .empty⟩ .unlimited
    let main : CallContext := .ofFunction "demo" "main"
    let boom : CallContext := (CallContext.ofFunction "demo" "boom").declaredAt "boom.py" 1
    let s := (ofTracers [tracer]).run [.on 0 (.setup ⟨"demo", true⟩), .dispatch ⟨.called, main⟩]
    let before : List SessionStep := [.dispatch ⟨.called, main⟩,
      .on 0 (.channel ⟨some (some 0), none⟩), .dispatch ⟨.called, boom⟩,
      .dispatch ⟨.called, .ofFunction "os" "stat"⟩, .dispatch ⟨.returned, boom⟩]
    let after : List SessionStep := [.dispatch ⟨.raised, main⟩, .dispatch ⟨.returned, main⟩,
      .dispatch ⟨.returned, main⟩]
    let steps := before ++ .dispatch ⟨.called, main⟩ :: after
    ∃ l l' l'', s.Installed 0 l ∧ (∀ step ∈ steps, step.isEventOrChannel = true) ∧
      l.tracer.filter.Nested (events steps) ∧
      l.tracer.depth.natAbs + (events steps).length < 2 ^ 63 ∧
      (s.run steps).Installed 0 l' ∧ l'.tracer.depth = l.tracer.depth - 1 ∧
      (s.run before).Installed 0 l'' ∧
      ∀ line ∈ l''.tracer.printed ⟨.called, main⟩,
        line.indent =
          2 * (l.tracer.depth + l.tracer.filter.openCalls (events before) - 1).toNat := by
  intro tracer main boom s before after steps
  obtain ⟨l, hlifecycle, hnested, hroom⟩ : ∃ l, s.lifecycles[0]? = some l ∧
      l.tracer.filter.Nested (events steps) ∧
      l.tracer.depth.natAbs + (events steps).length < 2 ^ 63 := by
    refine ⟨_, rfl, ?_, by decide⟩
    exact .call ⟨.called, main⟩ ⟨.returned, main⟩ (by decide)
      (.call ⟨.called, boom⟩ ⟨.returned, boom⟩ (by decide)
        (.ignored ⟨.called, .ofFunction "os" "stat"⟩ (by decide) .nil) (by decide)
        (.call ⟨.called, main⟩ ⟨.returned, main⟩ (by decide)
          (.ignored ⟨.raised, main⟩ (by decide) .nil) (by decide) .nil)) (by decide) .nil
  have hinstalled : s.Installed 0 l := ⟨by decide, hlifecycle⟩
  have hsteps : ∀ step ∈ steps, step.isEventOrChannel = true := by decide
  obtain ⟨⟨l', hl', hdepth⟩, hlines⟩ := depth_of_nested s 0 l steps hinstalled hsteps hnested hroom
  obtain ⟨-, l'', hl'', -, -, hindent⟩ := hlines before ⟨.called, main⟩ after rfl
  have hcrashes : s.crashes steps = 1 ∧ s.crashes before = 1 := by decide
  rw [hcrashes.1] at hdepth
  rw [hcrashes.2] at hindent
  exact ⟨l, l', l'', hinstalled, hsteps, hnested, hroom, hl', hdepth, hl'', hindent⟩

/-- The lookup of a call crashes, and its return leaves the depth below that of the beginning. -/
theorem shallower_after_crash :
    let tracer : Tracer (Brittle FileLines) :=
      .fresh .standard ⟨["boom.py"], .ofDisk .empty⟩ .unlimited
    let s := (ofTracers [tracer]).run [.on 0 (.setup ⟨"demo", false⟩)]
    let boom : CallContext := (CallContext.ofFunction "demo" "boom").declaredAt "boom.py" 1
    let steps : List SessionStep := [.dispatch ⟨.called, boom⟩, .dispatch ⟨.returned, boom⟩]
    ∃ l l', s.Installed 0 l ∧ l.tracer.filter.Nested (events steps) ∧ l.tracer.depth = 0 ∧
      (s.run steps).Installed 0 l' ∧ l'.tracer.depth = -1 := by
  intro tracer s boom steps
  refine ⟨_, _, ⟨rfl, rfl⟩, ?_, rfl, ⟨rfl, rfl⟩, by decide⟩
  exact .call ⟨.called, boom⟩ ⟨.returned, boom⟩ (by decide) .nil (by decide) .nil

end Session

end CallTrace
