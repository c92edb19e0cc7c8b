import CallTrace.Proofs.Tracing.Sessions
import CallTrace.Proofs.Tracing.WholeRun

/-!
# Clients that take turns

Several clients deliver their events to one tracer, one event at a time.  `Interleaves` says which
orders keep the order of each client.  The result does not depend on which of them it is
(`interleavings_agree`): all of them are permutations of the same events (`Interleaves.perm`), and
what a history says of depth, inventory and entries depends on the traced events but not on their
order, up to the indentation of the entries and the order in which they stand.
-/

namespace CallTrace

/-! ## Interleavings -/

/-- Each event is the next one of some client, until no client has any left. -/
inductive Interleaves {α : Type} : List (List α) → List α → Prop
  | done {clients : List (List α)} (h : ∀ events ∈ clients, events = []) : Interleaves clients []
  | next {clients : List (List α)} (i : Nat) {e : α} {rest order : List α}
      (hi : clients[i]? = some (e :: rest)) (h : Interleaves (clients.set i rest) order) :
      Interleaves clients (e :: order)

/-- What is left when the next event of a client was taken. -/
theorem perm_flatten_set {α : Type} {clients : List (List α)} {i : Nat} {e : α} {rest : List α}
    (hi : clients[i]? = some (e :: rest)) :
    clients.flatten.Perm (e :: (clients.set i rest).flatten) := by
  induction clients generalizing i with
  | nil => cases hi
  | cons events clients ih =>
    cases i with
    | zero =>
      cases hi
      exact .refl _
    | succ i =>
      rw [List.set_cons_succ, List.flatten_cons, List.flatten_cons]
      exact ((ih hi).append_left events).trans List.perm_middle

/-- An interleaving has the events of all clients. -/
theorem Interleaves.perm {α : Type} {clients : List (List α)} {order : List α}
    (h : Interleaves clients order) : order.Perm clients.flatten := by
  induction h with
  | done h => rw [List.flatten_eq_nil_iff.2 h]
  | next i hi _ ih => exact (ih.cons _).trans (perm_flatten_set hi).symm

/-! ## Entries -/

/-- What is printed of one call: its place, if that is asked for, and its name. -/
structure TraceEntry where
  indent : Nat
  place : Option String
  name : String
deriving DecidableEq, Repr

namespace TraceEntry

def text (entry : TraceEntry) : String :=
  entry.place.elim "" (fun place => OutputLine.asText ⟨entry.indent, place⟩)
    ++ OutputLine.asText ⟨entry.indent, entry.name⟩

def unindented (entry : TraceEntry) : TraceEntry := { entry with indent := 0 }

end TraceEntry

/-- The event is a call of a module that the configuration traces. -/
def TracerConfig.tracesCall (config : TracerConfig) (e : Event) : Bool :=
  config.traces e.context.module && e.kind = .called

section
variable (rules : ClassifierRules) (d : Declarations) (config : TracerConfig)

/-- The entry of a call at the given indentation. -/
def entryAt (indent : Nat) (e : Event) : TraceEntry where
  indent
  place :=
    if config.printLocation then some (e.context.file ++ ":" ++ toString e.context.line) else none
  name := (History.callOf rules d e).displayName

theorem text_entryAt (past : History) (e : Event) :
    (entryAt rules d config (History.indent past) e).text =
      History.callText rules d past config e := by
  unfold TraceEntry.text entryAt History.callText
  cases config.printLocation <;> rfl

end

/-! ## Events under a fixed configuration -/

namespace History

variable {config : TracerConfig} {log : History}

def followedBy (log : History) (events : List Event) : History := log ++ events.map .event

theorem followedBy_append (log : History) (events : List Event) (e : Event) :
    log.followedBy (events ++ [e]) = log.followedBy events ++ [.event e] := by
  simp [followedBy]

theorem inForce?_followedBy (log : History) (events : List Event) :
    inForce? (log.followedBy events) = inForce? log := by
  induction events using List.reverseRecOn with
  | nil => exact congrArg inForce? (List.append_nil log)
  | append_singleton events e ih => rw [followedBy_append, inForce?_append_event, ih]

theorem traces_followedBy (h : inForce? log = some config) (events : List Event) (e : Event) :
    traces (log.followedBy events) e = config.traces e.context.module := by
  rw [traces_of_inForce ((inForce?_followedBy log events).trans h)]

/-- Of the events those are traced whose modules are. -/
theorem traced_followedBy (h : inForce? log = some config) (events : List Event)
    (kind : EventKind) :
    traced (log.followedBy events) kind =
      traced log kind ++
        events.filter fun e => config.traces e.context.module && e.kind = kind := by
  induction events using List.reverseRecOn with
  | nil => simp [followedBy]
  | append_singleton events e ih =>
    rw [followedBy_append, traced_append, ih, List.filter_append, List.append_assoc]
    congr 2
    have hlast : tracedAs? kind (log.followedBy events) (.event e) =
        if config.traces e.context.module && e.kind = kind then some e else none := by
      rw [← traces_followedBy h events e]
      rfl
    rw [hlast]
    cases ht : config.traces e.context.module && decide (e.kind = kind) <;> simp [ht]

/-- The events write one entry for each traced call, in the order of the calls. -/
theorem written_followedBy (rules : ClassifierRules) (d : Declarations)
    (h : inForce? log = some config) (events : List Event) :
    ∃ entries : List TraceEntry,
      written rules d (log.followedBy events) false =
        written rules d log false ++ String.join (entries.map TraceEntry.text) ∧
      entries.map TraceEntry.unindented =
        (events.filter config.tracesCall).map (entryAt rules d config 0) := by
  induction events using List.reverseRecOn with
  | nil => exact ⟨[], by simp [followedBy], rfl⟩
  | append_singleton events e ih =>
    obtain ⟨entries, hwritten, hentries⟩ := ih
    have hforce : inForce? (log.followedBy events) = some config := by rw [inForce?_followedBy, h]
    have htraces := traces_followedBy h events e
    cases hcall : config.tracesCall e with
    | false =>
      have hnot : tracedAs? .called (log.followedBy events) (.event e) = none := by
        rw [tracedAs?, htraces, ← TracerConfig.tracesCall, hcall]
        rfl
      refine ⟨entries, ?_, ?_⟩
      · rw [followedBy_append, written_append, stepText_of_not_called rules d hnot,
          String.append_empty, hwritten]
      · simp [hentries, hcall]
    | true =>
      obtain ⟨hmodule, hk⟩ := Bool.and_eq_true_iff.1 hcall
      rw [hmodule] at htraces
      refine ⟨entries ++ [entryAt rules d config (indent (log.followedBy events)) e], ?_, ?_⟩
      · rw [followedBy_append, written_append,
          stepText_of_called rules d hforce htraces (of_decide_eq_true hk), hwritten,
          ← text_entryAt, List.map_append, String.join_append, String.append_assoc]
        simp
      · simp [hentries, hcall, TraceEntry.unindented, entryAt]

end History

/-! ## Delivered events -/

/-- The inventory depends on the calls, and not on their order. -/
theorem Inventory.recordAll_perm {calls calls' : List Classification} (h : calls.Perm calls') :
    recordAll calls = recordAll calls' := by
  refine eq_of_holds (ordered_recordAll calls) (ordered_recordAll calls')
    (fun x y => ?_) fun f => ?_
  · rw [holds_recordAll, holds_recordAll]
    exact (h.filterMap _).mem_iff
  · rw [mem_freeFunctions_recordAll, mem_freeFunctions_recordAll]
    exact (h.filterMap _).mem_iff

section
variable (rules : ClassifierRules) (d : Declarations) (config : TracerConfig)

/-- The only lifecycle has the hook, and the events bring it from `l` to `l'`.  They print the
entries, one for each call of a traced module. -/
structure Delivered (start : Session (Overlay FileLines)) (events : List Event)
    (l l' : Lifecycle (Overlay FileLines)) (entries : List TraceEntry) : Prop where
  before : start = ⟨some 0, [l]⟩
  after : start.run (events.map .dispatch) = ⟨some 0, [l']⟩
  bytes : l'.tracer.channel.bytes.toList =
    l.tracer.channel.bytes.toList ++ Channel.utf8 (String.join (entries.map TraceEntry.text))
  perCall : entries.map TraceEntry.unindented =
    (events.filter config.tracesCall).map (entryAt rules d config 0)

end

variable {rules : ClassifierRules} {d : Declarations} {config : TracerConfig}

/-- After some history a lifecycle gets events, and follows the history with these events. -/
theorem exists_delivered (log : History) (hforce : History.inForce? log = some config)
    (events : List Event) (hbound : log.countP SoloStep.isEvent + events.length < 2 ^ 63) :
    ∃ l l' entries,
      Delivered rules d config ((Session.ofTracers [.fresh rules d.source .unlimited]).run
        (log.map SoloStep.sessionStep)) events l l' entries ∧
      Follows rules d log l ∧ Follows rules d (log.followedBy events) l' := by
  have hcount : (log.followedBy events).countP SoloStep.isEvent =
      log.countP SoloStep.isEvent + events.length := by
    rw [History.followedBy, List.countP_append, List.countP_map]
    exact congrArg _ (List.countP_eq_length.2 fun _ _ => rfl)
  obtain ⟨l, hl, hrun⟩ := follows_run rules d log (by omega)
  obtain ⟨l', hl', hrun'⟩ := follows_run rules d (log.followedBy events) (by omega)
  obtain ⟨entries, hwritten, hentries⟩ :=
    History.written_followedBy rules d hforce events
  have hinstalled : soloSession log l = ⟨some 0, [l]⟩ := by
    rw [soloSession, hforce]
    rfl
  have hinstalled' : soloSession (log.followedBy events) l' = ⟨some 0, [l']⟩ := by
    rw [soloSession, History.inForce?_followedBy, hforce]
    rfl
  refine ⟨l, l', entries, ⟨hrun.trans hinstalled, ?_, ?_, hentries⟩, hl, hl'⟩
  · rw [← hinstalled', ← hrun', ← Session.run_append, History.followedBy, List.map_append,
      List.map_map]
    rfl
  · rw [hl'.bytes, hl.bytes, hwritten, Channel.utf8_append]

/-- **The result does not depend on who comes first.**  A lifecycle with any past has the hook
under some configuration, and clients deliver their events to it.  In whichever order they do so,
as long as each keeps its own, the depth and the view are the same in the end, so that the same
report would be written, and the same entries were printed up to order and indentation: one for
each traced call. -/
theorem interleavings_agree (rules : ClassifierRules) (d : Declarations) (config : TracerConfig)
    (log : History) (clients : List (List Event)) (order₁ order₂ : List Event)
    (hforce : History.inForce? log = some config)
    (h₁ : Interleaves clients order₁) (h₂ : Interleaves clients order₂)
    (hbound : log.countP SoloStep.isEvent + clients.flatten.length < 2 ^ 63) :
    let start := (Session.ofTracers [.fresh rules d.source .unlimited]).run
      (log.map SoloStep.sessionStep)
    ∃ l l₁ l₂ entries₁ entries₂,
      Delivered rules d config start order₁ l l₁ entries₁ ∧
      Delivered rules d config start order₂ l l₂ entries₂ ∧
      l₁.tracer.depth = l₂.tracer.depth ∧
      l₁.tracer.inventory.view = l₂.tracer.inventory.view ∧
      l₁.tracer.report.channel.bytes.toList =
        l₁.tracer.channel.bytes.toList ++ Channel.utf8 l₁.tracer.inventory.view.reportText ∧
      l₂.tracer.report.channel.bytes.toList =
        l₂.tracer.channel.bytes.toList ++ Channel.utf8 l₁.tracer.inventory.view.reportText ∧
      (entries₁.map TraceEntry.unindented).Perm (entries₂.map TraceEntry.unindented) ∧
      entries₁.length = clients.flatten.countP config.tracesCall := by
  intro start
  have hperm : order₁.Perm order₂ := h₁.perm.trans h₂.perm.symm
  rw [← h₁.perm.length_eq] at hbound
  obtain ⟨l, l₁, entries₁, hd₁, -, hl₁⟩ := exists_delivered log hforce order₁ hbound
  rw [hperm.length_eq] at hbound
  obtain ⟨l', l₂, entries₂, hd₂, -, hl₂⟩ := exists_delivered log hforce order₂ hbound
  cases hd₁.before.symm.trans hd₂.before
  have htraced : ∀ kind, (History.traced (log.followedBy order₁) kind).Perm
      (History.traced (log.followedBy order₂) kind) := by
    intro kind
    rw [History.traced_followedBy hforce, History.traced_followedBy hforce]
    exact (hperm.filter _).append_left _
  have hinventory : l₁.tracer.inventory = l₂.tracer.inventory := by
    rw [hl₁.inventory, hl₂.inventory]
    exact Inventory.recordAll_perm ((htraced .called).map _)
  refine ⟨l, l₁, l₂, entries₁, entries₂, hd₁, hd₂, ?_, by rw [hinventory], ?_, ?_, ?_, ?_⟩
  · rw [hl₁.depth, hl₂.depth, (htraced .called).length_eq, (htraced .returned).length_eq]
  · exact (Channel.keeps_report (Channel.keeps_self hl₁.unlimited) _).bytes
  · rw [hinventory]
    exact (Channel.keeps_report (Channel.keeps_self hl₂.unlimited) _).bytes
  · rw [hd₁.perCall, hd₂.perCall]
    exact (hperm.filter _).map _
  · have hlength := congrArg List.length hd₁.perCall
    rw [List.length_map, List.length_map, ← List.countP_eq_length_filter] at hlength
    rw [hlength, h₁.perm.countP_eq]

/-- One client runs a class body, found by its registered line, and returns from a module that is
not traced.  The other one calls a function whose file does not exist, and returns from it.  A
call was made before, under another configuration. -/
theorem interleavings_agree_two_clients :
    let d : Declarations := ⟨[(("demo.py", 1), "class Foo:")], .empty⟩
    let body := (CallContext.ofFunction "demo" "Foo").declaredAt "demo.py" 1
    let main := (CallContext.ofFunction "demo" "main").declaredAt "gone.py" 7
    let os : CallContext := .ofFunction "os" "stat"
    let config : TracerConfig := ⟨"demo", true⟩
    let log : History := [.setup .standard, .event ⟨.called, os⟩, .setup config]
    let clients : List (List Event) :=
      [[⟨.called, body⟩, ⟨.returned, os⟩], [⟨.called, main⟩, ⟨.returned, main⟩]]
    let order₁ : List Event :=
      [⟨.called, body⟩, ⟨.returned, os⟩, ⟨.called, main⟩, ⟨.returned, main⟩]
    let order₂ : List Event :=
      [⟨.called, main⟩, ⟨.called, body⟩, ⟨.returned, main⟩, ⟨.returned, os⟩]
    History.inForce? log = some config ∧ Interleaves clients order₁ ∧ Interleaves clients order₂ ∧
      log.countP SoloStep.isEvent + clients.flatten.length < 2 ^ 63 ∧
      let start := (Session.ofTracers [.fresh .standard d.source .unlimited]).run
        (log.map SoloStep.sessionStep)
      ∃ l l₁ l₂ entries₁ entries₂,
        Delivered .standard d config start order₁ l l₁ entries₁ ∧
        Delivered .standard d config start order₂ l l₂ entries₂ ∧
        l₁.tracer.depth = l₂.tracer.depth ∧
        l₁.tracer.inventory.view = l₂.tracer.inventory.view ∧
        (entries₁.map TraceEntry.unindented).Perm (entries₂.map TraceEntry.unindented) ∧
        entries₁.length = 2 := by
  intro d body main os config log clients order₁ order₂
  have hforce : History.inForce? log = some config := by decide
  have hdone : Interleaves [([] : List Event), []] [] := .done (by decide)
  have h₁ : Interleaves clients order₁ :=
    .next 0 rfl (.next 0 rfl (.next 1 rfl (.next 1 rfl hdone)))
  have h₂ : Interleaves clients order₂ :=
    .next 1 rfl (.next 0 rfl (.next 1 rfl (.next 0 rfl hdone)))
  have hbound : log.countP SoloStep.isEvent + clients.flatten.length < 2 ^ 63 := by decide
  obtain ⟨l, l₁, l₂, entries₁, entries₂, hd₁, hd₂, hdepth, hview, -, -, hperm,
      hlength⟩ :=
    interleavings_agree .standard d config log clients order₁ order₂ hforce h₁ h₂ hbound
  exact ⟨hforce, h₁, h₂, hbound, l, l₁, l₂, entries₁, entries₂, hd₁, hd₂, hdepth, hview, hperm,
    hlength.trans (by decide)⟩

end CallTrace
