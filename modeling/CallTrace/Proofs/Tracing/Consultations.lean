import CallTrace.Proofs.Tracing.Erasure
import CallTrace.Proofs.Tracing.Lookups
import CallTrace.Proofs.Tracing.MapSources

/-!
# Lookups and crashes in a run

An event is delivered to whoever has the hook, or handled directly.  It is looked up where its
function is declared if it is a traced call without a bound receiver (`Tracer.consults`), and only
then.  This is seen by watching the sources of a session, which changes nothing else
(`run_mapSources`): what each has been asked is read off the log (`asked_run`).

A lookup that crashes changes the sources alone (`step_of_crashesOn`).  If it leaves them as they
were, the whole step can be left out of the run.
-/

namespace CallTrace

variable {σ τ : Type}

/-! ## What a tracer looks up -/

namespace Tracer

variable (t : Tracer σ) (e : Event)

/-- Whether the event is a traced call without a bound receiver. -/
def consults : Bool :=
  e.kind = .called && t.filter.passes e.context.module && t.rules.needsDeclaration e.context

variable {t e} in
theorem consults_of_ignores (h : t.Ignores e) : t.consults e = false := by
  simp only [consults, Bool.and_eq_false_iff, decide_eq_false_iff_not]
  cases hp : t.filter.passes e.context.module with
  | false => exact .inl (.inr rfl)
  | true => exact .inl (.inl (h hp).1)

variable {t e} in
theorem consults_of_called (hk : e.kind = .called)
    (hp : t.filter.passes e.context.module = true) :
    t.consults e = t.rules.needsDeclaration e.context := by
  simp [consults, hk, hp]

variable [LineSource σ]

/-- The lookup of the declaration line. -/
def declaration : Lookup × σ := lookup t.sources e.context.file e.context.firstLine

/-- Whether the declaration is looked up and the lookup crashes. -/
def crashesOn : Bool := t.consults e && (t.declaration e).1 = .crashed

theorem classify_of_crashesOn (h : t.crashesOn e = true) :
    (e.kind = .called ∧ t.filter.passes e.context.module = true) ∧
      t.rules.classify e.context t.sources = (none, (t.declaration e).2) := by
  simp only [crashesOn, consults, Bool.and_eq_true, decide_eq_true_eq] at h
  obtain ⟨⟨htraced, hneeds⟩, hcrash⟩ := h
  exact ⟨htraced, t.rules.classify_of_crashed e.context t.sources hneeds hcrash⟩

theorem handle_of_crashesOn (h : t.crashesOn e = true) :
    t.handle e = (.crashed, { t with sources := (t.declaration e).2 }) := by
  obtain ⟨⟨hk, hp⟩, hfound⟩ := t.classify_of_crashesOn e h
  exact handle_crashed hk hp hfound

/-- The lookup of a traced call crashes exactly if the call is found to be nothing. -/
theorem crashesOn_iff (hk : e.kind = .called) (hp : t.filter.passes e.context.module = true) :
    t.crashesOn e = true ↔ (t.rules.classify e.context t.sources).1 = none := by
  constructor
  · intro h
    rw [(t.classify_of_crashesOn e h).2]
  · intro h
    cases hcrash : t.crashesOn e with
    | true => rfl
    | false =>
      rw [crashesOn, consults_of_called hk hp] at hcrash
      obtain ⟨c, sources, hfound⟩ : ∃ c sources,
          t.rules.classify e.context t.sources = (some c, sources) := by
        refine t.rules.exists_classify_of_not_crashed e.context t.sources fun hneeds hlookup => ?_
        have hcrashed : (t.declaration e).1 = .crashed := hlookup
        simp [hneeds, hcrashed] at hcrash
      rw [hfound] at h
      cases h

/-- What is noted by a watched source when an event is handled. -/
theorem asked_watched_handle (t : Tracer (Watched σ)) :
    (t.handle e).2.sources.asked =
      t.sources.asked ++ if t.consults e then [(e.context.file, e.context.firstLine)] else [] := by
  have hasked := t.rules.asked_classify e.context t.sources
  cases t.effect e with
  | ignored h =>
    rw [handle_ignored h, consults_of_ignores h]
    exact (List.append_nil _).symm
  | crashed sources hk hp hfound =>
    rw [handle_crashed hk hp hfound, consults_of_called hk hp, ← hasked, hfound]
  | entered c sources hk hp hfound =>
    rw [handle_entered hk hp hfound, consults_of_called hk hp, ← hasked, hfound]
    rfl
  | left hk hp =>
    rw [handle_left hk hp]
    simp [consults, hk, leave]

end Tracer

/-! ## Events on their way -/

/-- An event on its way to the tracer of a lifecycle. -/
structure Delivery (σ : Type) where
  receiver : Nat
  tracer : Tracer σ
  event : Event

/-- The tracer that an event of a step reaches, and the event. -/
def Session.delivery? (s : Session σ) : SessionStep → Option (Delivery σ)
  | .dispatch e => s.hook.bind fun i => (s.lifecycles[i]?).map fun l => ⟨i, l.tracer, e⟩
  | .on i (.handle e) =>
    (s.lifecycles[i]?).bind fun l => if l.state = .dropped then none else some ⟨i, l.tracer, e⟩
  | _ => none

/-- The event of a step reaches the tracer of lifecycle `d.receiver`, through the hook or
directly. -/
structure Session.Delivers (s : Session σ) (step : SessionStep) (d : Delivery σ) (l : Lifecycle σ) :
    Prop where
  lifecycle : s.lifecycles[d.receiver]? = some l
  tracer : d.tracer = l.tracer
  way : (step = .dispatch d.event ∧ s.hook = some d.receiver) ∨
    (step = .on d.receiver (.handle d.event) ∧ l.state ≠ .dropped)

namespace Session

variable {s : Session σ} {step : SessionStep} {d : Delivery σ}

theorem delivers_of_delivery? (h : s.delivery? step = some d) : ∃ l, s.Delivers step d l := by
  unfold delivery? at h
  split at h
  · next e =>
    obtain ⟨i, hhook, h⟩ := Option.bind_eq_some_iff.1 h
    obtain ⟨l, hl, rfl⟩ := Option.map_eq_some_iff.1 h
    exact ⟨l, hl, rfl, .inl ⟨rfl, hhook⟩⟩
  · next i e =>
    obtain ⟨l, hl, h⟩ := Option.bind_eq_some_iff.1 h
    split at h
    · cases h
    · next hlive =>
      cases h
      exact ⟨l, hl, rfl, .inr ⟨rfl, hlive⟩⟩
  · cases h

/-- A dispatched event reaches the owner of the hook. -/
theorem delivery?_dispatch {i : Nat} {l : Lifecycle σ} (hhook : s.hook = some i)
    (hl : s.lifecycles[i]? = some l) (e : Event) :
    s.delivery? (.dispatch e) = some ⟨i, l.tracer, e⟩ := by
  simp [delivery?, hhook, hl]

theorem delivery?_handle {i : Nat} {l : Lifecycle σ} (hl : s.lifecycles[i]? = some l)
    (hlive : l.state ≠ .dropped) (e : Event) :
    s.delivery? (.on i (.handle e)) = some ⟨i, l.tracer, e⟩ := by
  simp [delivery?, hl, hlive]

section
variable [LineSource σ]

/-- The event is handled by the tracer that it reaches. -/
theorem stepAt_of_delivers {l : Lifecycle σ} (h : s.Delivers step d l) :
    s.stepAt step d.receiver l = { l with tracer := (d.tracer.handle d.event).2 } := by
  obtain ⟨-, htracer, ⟨rfl, hhook⟩ | ⟨rfl, hlive⟩⟩ := h
  · rw [stepAt, if_pos hhook, htracer]
    rfl
  · rw [stepAt, if_pos rfl, Lifecycle.step_of_live hlive, htracer]
    rfl

theorem stepAt_of_delivers_other {l l' : Lifecycle σ} {j : Nat} (h : s.Delivers step d l)
    (hj : d.receiver ≠ j) : s.stepAt step j l' = l' := by
  obtain ⟨-, -, ⟨rfl, hhook⟩ | ⟨rfl, -⟩⟩ := h
  · rw [stepAt, if_neg]
    rw [hhook]
    exact fun heq => hj (Option.some.inj heq)
  · rw [stepAt, if_neg hj]

theorem hook_of_delivers {l : Lifecycle σ} (h : s.Delivers step d l) :
    (s.step step).2.hook = s.hook := by
  obtain ⟨hl, -, ⟨rfl, -⟩ | ⟨rfl, hlive⟩⟩ := h
  · exact s.hook_dispatch d.event
  · rw [hook_step, hl, Option.elim_some, Lifecycle.step_of_live hlive]
    rfl

/-- Only who handles an event directly is told that it crashed. -/
theorem outcome_of_delivers {l : Lifecycle σ} (h : s.Delivers step d l) :
    (s.step step).1 =
      if step = .on d.receiver (.handle d.event) ∧ (d.tracer.handle d.event).1 = .crashed then
        .error .crashed
      else .ok () := by
  obtain ⟨hl, htracer, ⟨rfl, -⟩ | ⟨rfl, hlive⟩⟩ := h
  · rfl
  · rw [outcome_step, hl, Option.elim_some, Lifecycle.step_of_live hlive, htracer]
    simp [Lifecycle.liveStep]

/-- No other tracer has anything to ask. -/
theorem unasked_stepAt {j : Nat} {l : Lifecycle σ} (hl : s.lifecycles[j]? = some l)
    (h : ∀ d, s.delivery? step = some d → d.receiver ≠ j) :
    l.tracer.Unasked (s.stepAt step j l).tracer := by
  cases step with
  | dispatch e =>
    rw [stepAt]
    split
    · next hhook => exact absurd rfl (h _ (delivery?_dispatch hhook hl e))
    · exact ⟨rfl, rfl, rfl⟩
  | uninstall => exact ⟨rfl, rfl, rfl⟩
  | on i own =>
    rw [stepAt]
    split
    · next hij =>
      subst hij
      refine l.unasked_step fun e he => Decidable.byContradiction fun hlive => ?_
      subst he
      exact h _ (delivery?_handle hl hlive e) rfl
    · exact ⟨rfl, rfl, rfl⟩

/-- A step delivers an event to the tracer, which handles it, or leaves it with nothing to ask. -/
theorem delivered_or_unasked {j : Nat} {l : Lifecycle σ} (hl : s.lifecycles[j]? = some l)
    (step : SessionStep) :
    (∃ d, s.delivery? step = some d ∧ d.receiver = j ∧ d.tracer = l.tracer ∧
      s.stepAt step j l = { l with tracer := (l.tracer.handle d.event).2 }) ∨
    (∀ d, s.delivery? step = some d → d.receiver ≠ j) ∧
      l.tracer.Unasked (s.stepAt step j l).tracer := by
  by_cases hreceiver : ∃ d, s.delivery? step = some d ∧ d.receiver = j
  · obtain ⟨d, hd, rfl⟩ := hreceiver
    obtain ⟨l', hdelivers⟩ := delivers_of_delivery? hd
    cases hl.symm.trans hdelivers.lifecycle
    refine .inl ⟨d, hd, rfl, hdelivers.tracer, ?_⟩
    rw [stepAt_of_delivers hdelivers, hdelivers.tracer]
  · have hother : ∀ d, s.delivery? step = some d → d.receiver ≠ j :=
      fun d hd hj => hreceiver ⟨d, hd, hj⟩
    exact .inr ⟨hother, unasked_stepAt hl hother⟩

end

end Session

/-! ## What is looked up in a run -/

/-- The session with sources that are watched from now on. -/
def Session.watched (s : Session σ) : Session (Watched σ) := s.mapSources .ofSource

def Session.unwatched (s : Session (Watched σ)) : Session σ := s.mapSources Watched.below

/-- What the source of lifecycle `i` was asked since it is watched. -/
def Session.asked (s : Session (Watched σ)) (i : Nat) : List (String × Nat) :=
  (s.lifecycles[i]?).elim [] fun l => l.tracer.sources.asked

/-- What a step has to ask the source of lifecycle `i`: the declaration of the one call that is
delivered to it, or nothing. -/
def Session.questions (s : Session σ) (step : SessionStep) (i : Nat) : List (String × Nat) :=
  match s.delivery? step with
  | some d =>
    if d.receiver = i ∧ d.tracer.consults d.event = true then
      [(d.event.context.file, d.event.context.firstLine)]
    else []
  | none => []

def Taken.questions (t : Taken σ) (i : Nat) : List (String × Nat) := t.before.questions t.step i

namespace Session

theorem unwatched_watched (s : Session σ) : s.watched.unwatched = s := by
  refine eq_of_getElem? rfl fun j => ?_
  show (s.watched.mapSources Watched.below).lifecycles[j]? = _
  rw [getElem?_mapSources, watched, getElem?_mapSources]
  cases s.lifecycles[j]? <;> rfl

theorem asked_watched (s : Session σ) (i : Nat) : s.watched.asked i = [] := by
  unfold asked
  rw [watched, getElem?_mapSources]
  cases s.lifecycles[i]? <;> rfl

theorem delivery?_mapSources (f : σ → τ) (s : Session σ) (step : SessionStep) :
    (s.mapSources f).delivery? step =
      (s.delivery? step).map fun d => ⟨d.receiver, d.tracer.mapSources f, d.event⟩ := by
  cases step with
  | dispatch e =>
    have hhook : (s.mapSources f).hook = s.hook := rfl
    rw [delivery?, delivery?, hhook]
    cases s.hook with
    | none => rfl
    | some i =>
      rw [Option.bind_some, Option.bind_some, getElem?_mapSources]
      cases s.lifecycles[i]? <;> rfl
  | uninstall => rfl
  | on i own =>
    cases own with
    | handle e =>
      rw [delivery?, delivery?, getElem?_mapSources]
      cases s.lifecycles[i]? with
      | none => rfl
      | some l =>
        show (if l.state = .dropped then _ else _) =
          Option.map _ (if l.state = .dropped then _ else _)
        split <;> rfl
    | _ => rfl

theorem questions_of_receiver {s : Session σ} {step : SessionStep} {d : Delivery σ}
    (hd : s.delivery? step = some d) :
    s.questions step d.receiver =
      if d.tracer.consults d.event then [(d.event.context.file, d.event.context.firstLine)]
      else [] := by
  rw [questions, hd]
  simp

theorem questions_of_not_receiver {s : Session σ} {step : SessionStep} {i : Nat}
    (h : ∀ d, s.delivery? step = some d → d.receiver ≠ i) : s.questions step i = [] := by
  unfold questions
  cases hd : s.delivery? step with
  | none => rfl
  | some d => exact if_neg fun hi => h d hd hi.1

theorem questions_mapSources (f : σ → τ) (s : Session σ) (step : SessionStep) (i : Nat) :
    (s.mapSources f).questions step i = s.questions step i := by
  unfold questions
  rw [delivery?_mapSources]
  cases s.delivery? step <;> rfl

variable [LineSource σ]

theorem asked_step (s : Session (Watched σ)) (step : SessionStep) (i : Nat) :
    (s.step step).2.asked i = s.asked i ++ s.questions step i := by
  unfold asked
  rw [s.getElem?_step]
  cases hl : s.lifecycles[i]? with
  | none =>
    have hnone : ∀ d, s.delivery? step = some d → d.receiver ≠ i := by
      rintro d hd rfl
      obtain ⟨l, hdelivers⟩ := delivers_of_delivery? hd
      rw [hdelivers.lifecycle] at hl
      cases hl
    rw [questions_of_not_receiver hnone]
    rfl
  | some l =>
    rw [Option.map_some, Option.elim_some, Option.elim_some]
    rcases delivered_or_unasked hl step with ⟨d, hd, rfl, htracer, hstep⟩ | ⟨hother, hsame⟩
    · rw [hstep, questions_of_receiver hd, htracer]
      exact l.tracer.asked_watched_handle d.event
    · rw [hsame.sources, questions_of_not_receiver hother, List.append_nil]

theorem asked_run (s : Session (Watched σ)) (steps : List SessionStep) (i : Nat) :
    (s.run steps).asked i =
      s.asked i ++ (s.unwatched.log steps).flatMap fun t => t.questions i := by
  induction steps generalizing s with
  | nil => exact (List.append_nil _).symm
  | cons step rest ih =>
    have hquestions : s.unwatched.questions step i = s.questions step i :=
      questions_mapSources _ s step i
    have hnext : (s.unwatched.step step).2 = (s.step step).2.unwatched :=
      congrArg Prod.snd (s.step_mapSources passesLookups_below step)
    rw [log, List.flatMap_cons, Taken.questions, hquestions, hnext, ← List.append_assoc,
      ← asked_step]
    exact ih _

end Session

/-! ## Lookups that crash -/

/-- The session with other sources for lifecycle `i`. -/
def Session.withSources (s : Session σ) (i : Nat) (sources : σ) : Session σ :=
  { s with lifecycles :=
      s.lifecycles.modify i fun l => { l with tracer := { l.tracer with sources } } }

theorem Session.withSources_self {s : Session σ} {i : Nat} {l : Lifecycle σ}
    (hl : s.lifecycles[i]? = some l) : s.withSources i l.tracer.sources = s := by
  refine eq_of_getElem? rfl fun j => ?_
  show (s.lifecycles.modify i _)[j]? = _
  rw [List.getElem?_modify]
  by_cases hij : i = j
  · subst hij
    rw [hl]
    simp
  · simp [hij]

/-- The tracer that the event of the step reached, and the event. -/
def Taken.delivery? (t : Taken σ) : Option (Delivery σ) := t.before.delivery? t.step

variable [LineSource σ]

/-- Whether the step made a lookup that crashed. -/
def Taken.crashed (t : Taken σ) : Bool := t.delivery?.any fun d => d.tracer.crashesOn d.event

/-- If a lookup crashed, it left the sources as they were. -/
def Taken.CrashesCleanly (t : Taken σ) : Prop :=
  ∀ d, t.delivery? = some d → d.tracer.crashesOn d.event = true →
    (d.tracer.declaration d.event).2 = d.tracer.sources

theorem Taken.crashed_iff {t : Taken σ} :
    t.crashed = true ↔ ∃ d, t.delivery? = some d ∧ d.tracer.crashesOn d.event = true := by
  unfold crashed
  rw [Option.any_eq_true]

namespace Session

variable {s : Session σ} {step : SessionStep} {d : Delivery σ}

/-- A lookup that crashes changes nothing but the sources, and only a direct caller is told. -/
theorem step_of_crashesOn (hd : s.delivery? step = some d)
    (h : d.tracer.crashesOn d.event = true) :
    (s.step step).2 = s.withSources d.receiver (d.tracer.declaration d.event).2 ∧
      (step = .dispatch d.event ∧ (s.step step).1 = .ok () ∨
        step = .on d.receiver (.handle d.event) ∧ (s.step step).1 = .error .crashed) := by
  obtain ⟨l, hdelivers⟩ := delivers_of_delivery? hd
  have hhandle := d.tracer.handle_of_crashesOn d.event h
  constructor
  · refine eq_of_getElem? (hook_of_delivers hdelivers) fun j => ?_
    show _ = (s.lifecycles.modify d.receiver _)[j]?
    rw [s.getElem?_step, List.getElem?_modify]
    by_cases hj : d.receiver = j
    · subst hj
      rw [hdelivers.lifecycle, Option.map_some, stepAt_of_delivers hdelivers, hhandle,
        hdelivers.tracer]
      simp
    · have hid : s.stepAt step j = id := funext fun l' => stepAt_of_delivers_other hdelivers hj
      rw [hid]
      simp [hj]
  · have houtcome := outcome_of_delivers hdelivers
    rw [hhandle] at houtcome
    rcases hdelivers.way with ⟨rfl, -⟩ | ⟨rfl, -⟩
    · exact .inl ⟨rfl, rfl⟩
    · exact .inr ⟨rfl, by simpa using houtcome⟩

/-- **Only necessary lookups happen, and a lookup that crashes is a no-op.**  Watched sources lead
a run to the same end, and are asked once for each call that is delivered, traced and binds no
receiver, for its declaration, and for nothing else.  An event whose lookup crashes changes the
sources at most, whether it came through the hook or directly.  Where these are left as they were,
so is the whole session.  Such events can then be left out of the run: all other steps are taken
in the same sessions and end the same way. -/
theorem asked_once_and_crashes_erased (s : Session σ) (steps : List SessionStep) :
    ((s.watched.run steps).unwatched = s.run steps ∧
      ∀ i, (s.watched.run steps).asked i = (s.log steps).flatMap fun t => t.questions i) ∧
    (∀ t ∈ s.log steps, ∀ d, t.delivery? = some d → d.tracer.crashesOn d.event = true →
      t.after = t.before.withSources d.receiver (d.tracer.declaration d.event).2 ∧
        (t.step = .dispatch d.event ∧ t.outcome = .ok () ∨
          t.step = .on d.receiver (.handle d.event) ∧ t.outcome = .error .crashed)) ∧
    ((∀ t ∈ s.log steps, t.CrashesCleanly) →
      (∀ t ∈ s.log steps, t.crashed = true → t.after = t.before) ∧
      let kept := (s.log steps).filter fun t => !t.crashed
      s.log (kept.map Taken.step) = kept ∧ s.run (kept.map Taken.step) = s.run steps) := by
  have hcrash : ∀ t ∈ s.log steps, ∀ d, t.delivery? = some d →
      d.tracer.crashesOn d.event = true →
      t.after = t.before.withSources d.receiver (d.tracer.declaration d.event).2 ∧
        (t.step = .dispatch d.event ∧ t.outcome = .ok () ∨
          t.step = .on d.receiver (.handle d.event) ∧ t.outcome = .error .crashed) := by
    intro t ht d hd h
    have hstep := step_of_crashesOn hd h
    rw [step_of_mem_log ht] at hstep
    exact hstep
  refine ⟨⟨?_, fun i => ?_⟩, hcrash, fun hclean => ?_⟩
  · have hunwatched : s.watched.unwatched = s := unwatched_watched s
    have hrun := s.watched.run_mapSources passesLookups_below steps
    exact hrun.symm.trans (congrArg (·.run steps) hunwatched)
  · have hasked : s.watched.asked i = [] := asked_watched s i
    rw [asked_run, hasked, List.nil_append, unwatched_watched]
  · have hsame : ∀ t ∈ s.log steps, t.crashed = true → t.after = t.before := by
      intro t ht h
      obtain ⟨d, hd, hd'⟩ := Taken.crashed_iff.1 h
      obtain ⟨l, hdelivers⟩ := delivers_of_delivery? hd
      rw [(hcrash t ht d hd hd').1, hclean t ht d hd hd', hdelivers.tracer]
      exact withSources_self hdelivers.lifecycle
    refine ⟨hsame, log_kept fun t ht hkeep => hsame t ht ?_⟩
    simpa using hkeep

/-- A file crashes each lookup in it: of two calls that need their declaration, but not of one that
binds its receiver.  A call of another module is not looked up. -/
theorem asked_once_and_crashes_erased_brittle :
    let tracer : Tracer (Brittle FileLines) :=
      .fresh .standard ⟨["boom.py"], .ofDisk .empty⟩ .unlimited
    let s : Session (Brittle FileLines) := .ofTracers [tracer]
    let boom : CallContext := (CallContext.ofFunction "demo" "boom").declaredAt "boom.py" 7
    let setup : SessionStep := .on 0 (.setup ⟨"demo", false⟩)
    let crashing : List SessionStep := [.dispatch ⟨.called, boom⟩, .on 0 (.handle ⟨.called, boom⟩)]
    let others : List SessionStep := [.dispatch ⟨.called, boom.bind "self" (.instanceOf "Foo")⟩,
      .dispatch ⟨.called, .ofFunction "demo" "main"⟩, .dispatch ⟨.called, .ofFunction "os" "stat"⟩,
      .dispatch ⟨.returned, boom⟩]
    let steps := setup :: crashing ++ others
    (s.watched.run steps).asked 0 = [("boom.py", 7), ("boom.py", 7), (CallContext.unknownFile, 1)] ∧
      (∀ t ∈ s.log steps, t.CrashesCleanly) ∧
      (s.log steps).map Taken.crashed = [false, true, true, false, false, false, false] ∧
      s.run (setup :: others) = s.run steps := by
  intro tracer s boom setup crashing others steps
  obtain ⟨⟨-, hasked⟩, -, herased⟩ := asked_once_and_crashes_erased s steps
  have hquestions : ((s.log steps).flatMap fun t => t.questions 0) =
      [("boom.py", 7), ("boom.py", 7), (CallContext.unknownFile, 1)] := by decide
  have hclean : ∀ t ∈ s.log steps, t.CrashesCleanly := by
    intro t _ d _ h
    have hcrash : (d.tracer.declaration d.event).1 = .crashed := by
      simp only [Tracer.crashesOn, Bool.and_eq_true, decide_eq_true_eq] at h
      exact h.2
    exact crashesCleanly_brittle crashesCleanly_fileLines _ _ _ hcrash
  have hkept : ((s.log steps).filter fun t => !t.crashed).map Taken.step = setup :: others := by
    decide
  exact ⟨(hasked 0).trans hquestions, hclean, by decide, hkept ▸ (herased hclean).2.2⟩

end Session

end CallTrace
