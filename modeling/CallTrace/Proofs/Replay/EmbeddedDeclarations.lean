import CallTrace.Proofs.Replay.Prepared
import CallTrace.Proofs.Source.Declarations
import CallTrace.Proofs.Tracing.Lookups
import CallTrace.Replay.Run
import Mathlib.Data.List.Induction

/-!
# Declarations that recordings carry

All declarations of a recording are registered by their places before the replay starts, so a lookup
finds the last one of the whole recording for its place (`registered?_embeddedSources`), at all
times.  A recorded call without a receiver is therefore classified by the last declaration for its
place, which is its own only if no later call carries another one for that place
(`classified_by_last_declared`); calls without file and line all share one place.
-/

namespace CallTrace

/-! ## The last declaration for a place -/

namespace RecordedEvent

/-- The declaration line that the event carries for a place. -/
def declared? (place : String × Nat) : RecordedEvent → Option String
  | .called call => if call.place = place then call.declaration else none
  | _ => none

/-- The last declaration line that a recording carries for a place. -/
def lastDeclared? (recorded : List RecordedEvent) (place : String × Nat) : Option String :=
  recorded.reverse.findSome? (declared? place)

theorem lastDeclared?_append (recorded : List RecordedEvent) (e : RecordedEvent)
    (place : String × Nat) :
    lastDeclared? (recorded ++ [e]) place =
      (e.declared? place).or (lastDeclared? recorded place) := by
  unfold lastDeclared?
  rw [List.reverse_append, List.findSome?_append]
  congr 1
  simp

/-- Where a call carries a declaration, there is a last one. -/
theorem exists_lastDeclared {recorded : List RecordedEvent} {call : RecordedCall} {text : String}
    (hcall : .called call ∈ recorded) (htext : call.declaration = some text) :
    ∃ last, lastDeclared? recorded call.place = some last := by
  rw [← Option.isSome_iff_exists, lastDeclared?, List.findSome?_isSome_iff]
  refine ⟨.called call, List.mem_reverse.2 hcall, ?_⟩
  rw [declared?, if_pos rfl, htext]
  rfl

/-! ## Lookups in a replay -/

theorem registered?_embed {σ : Type} (sources : Overlay σ) (e : RecordedEvent) (file : String)
    (line : Nat) :
    (embed sources e).registered? file line =
      (e.declared? (file, line)).or (sources.registered? file line) := by
  cases e with
  | called call =>
    cases hd : call.declaration with
    | none => simp [embed, declared?, hd]
    | some text =>
      have hembed : embed sources (.called call) =
          sources.insert call.declarationFile call.declarationLine text := by
        rw [embed, hd]
      have hplace : (call.declarationFile, call.declarationLine) = call.place := rfl
      rw [hembed, Overlay.registered?_insert, hplace, declared?, hd]
      by_cases hp : call.place = (file, line)
      · rw [if_pos hp, if_pos hp.symm]
        rfl
      · rw [if_neg hp, if_neg (Ne.symm hp)]
        rfl
  | returned | reachedLine | raised => rfl

theorem below_embed {σ : Type} (sources : Overlay σ) (e : RecordedEvent) :
    (embed sources e).below = sources.below := by
  unfold embed
  split
  · split <;> rfl
  · rfl

/-- The embedded sources answer with the last declaration of the recording. -/
theorem registered?_embeddedSources (disk : FileSystem) (recorded : List RecordedEvent)
    (file : String) (line : Nat) :
    (embeddedSources disk recorded).registered? file line =
      lastDeclared? recorded (file, line) := by
  induction recorded using List.reverseRecOn with
  | nil => rfl
  | append_singleton recorded e ih =>
    rw [lastDeclared?_append, ← ih, embeddedSources, List.foldl_append]
    exact registered?_embed _ e file line

theorem below_embeddedSources (disk : FileSystem) (recorded : List RecordedEvent) :
    (embeddedSources disk recorded).below = .ofDisk disk := by
  induction recorded using List.reverseRecOn with
  | nil => rfl
  | append_singleton recorded e ih =>
    rw [← ih, embeddedSources, List.foldl_append]
    exact below_embed _ e

/-- What the embedded sources serve. -/
def declarations (disk : FileSystem) (recorded : List RecordedEvent) : Declarations :=
  ⟨(embeddedSources disk recorded).registered, disk⟩

theorem servedBy_embeddedSources (disk : FileSystem) (recorded : List RecordedEvent) :
    (declarations disk recorded).ServedBy (embeddedSources disk recorded) := by
  have hbelow := below_embeddedSources disk recorded
  refine ⟨rfl, ?_, fun path s hs => ?_⟩
  · rw [hbelow]
    rfl
  · rw [hbelow] at hs
    cases hs

theorem line?_declarations {disk : FileSystem} {recorded : List RecordedEvent} {file : String}
    {line : Nat} {text : String} (h : lastDeclared? recorded (file, line) = some text) :
    (declarations disk recorded).line? file line = some text := by
  have hr : (declarations disk recorded).registered.lookup (file, line) = some text := by
    rw [← h]
    exact registered?_embeddedSources disk recorded file line
  rw [Declarations.line?, hr]

end RecordedEvent

/-! ## Classification in a replay -/

/-- What the declaration line makes of a recorded call. -/
def RecordedCall.dictated (rules : ClassifierRules) (call : RecordedCall) (ctx : CallContext)
    (text : String) : Classification :=
  rules.byDeclaration ctx (rules.declarationKind text call.function)

def Session.classified? {σ : Type} [LineSource σ] (s : Session σ) (i : Nat) (ctx : CallContext) :
    Option Classification :=
  s.lifecycles[i]?.bind fun l => (l.tracer.rules.classify ctx l.tracer.sources).1

open RecordedEvent

section
variable (rules : ClassifierRules) (disk : FileSystem) (recorded : List RecordedEvent)
  (channel : Channel)

/-- The session of a replay that is about to start, as `trace` makes it but with any rules and any
channel. -/
def replaySession : Session (Overlay FileLines) :=
  .ofTracers [.fresh rules (embeddedSources disk recorded) channel]

/-- Rules and declarations are those of the recording, at all times. -/
theorem holds_run_replaySession (steps : List SessionStep) :
    ((replaySession rules disk recorded channel).run steps).Holds fun r sources =>
      r = rules ∧ (declarations disk recorded).ServedBy sources := by
  refine Session.holds_run ?_ ?_ steps
  · rintro r sources ctx ⟨rfl, hserved⟩
    exact ⟨rfl, (hserved.classify_serves r ctx).2⟩
  · intro i l hl
    cases i with
    | zero =>
      cases hl
      exact ⟨rfl, servedBy_embeddedSources disk recorded⟩
    | succ i => cases hl

variable {rules recorded}

/-- However far the replay is, the call is what the last declaration for its place dictates. -/
theorem classify_replayed (steps : List SessionStep) {call : RecordedCall} {ctx : CallContext}
    {last : String} (hctx : call.context = .ok ctx) (hfree : call.WithoutReceiver rules)
    (hlast : lastDeclared? recorded call.place = some last) :
    ∃ l sources, ((replaySession rules disk recorded channel).run steps).lifecycles[0]? = some l ∧
      l.tracer.rules.classify ctx l.tracer.sources =
        (some (call.dictated rules ctx last), sources) := by
  have hlt : 0 < ((replaySession rules disk recorded channel).run steps).lifecycles.length := by
    rw [Session.length_run]
    exact Nat.one_pos
  refine ⟨_, _, List.getElem?_eq_getElem hlt, Prod.ext ?_ rfl⟩
  obtain ⟨hrules, hserved⟩ := holds_run_replaySession rules disk recorded channel steps 0 _
    (List.getElem?_eq_getElem hlt)
  rw [hrules, (hserved.classify_serves rules ctx).1]
  obtain ⟨bindings, hframe, -⟩ := RecordedCall.context_eq hctx
  have hplace : (ctx.file, ctx.firstLine) = call.place := by
    rw [hframe]
    exact call.frame_place
  have hfunction : ctx.function = call.function := by
    rw [hframe]
    exact call.frame_function
  have hline : (declarations disk recorded).line? ctx.file ctx.firstLine = some last := by
    rw [← hplace] at hlast
    exact line?_declarations hlast
  unfold ClassifierRules.classificationBy RecordedCall.dictated
  rw [RecordedCall.byReceiver?_eq_none hctx hfree, hline, ← hfunction]
  rfl

end

/-- **The last declaration for a place counts.**  When a recorded call without a receiver is about
to be replayed, it is found to be what the last declaration for its place in the whole recording
dictates, and is entered as that if it is traced.  This is what its own declaration dictates
exactly if both dictate the same. -/
theorem classified_by_last_declared (rules : ClassifierRules) (disk : FileSystem)
    (recorded : List RecordedEvent) (events : List Event) (config : TracerConfig)
    (channel : Channel) (k : Nat) (call : RecordedCall) (text : String)
    (hprepare : prepare recorded = .ok events) (hcall : recorded[k]? = some (.called call))
    (htext : call.declaration = some text) (hfree : call.WithoutReceiver rules) :
    ∃ ctx last,
      call.context = .ok ctx ∧ (replaySteps events)[k]? = some (.dispatch ⟨.called, ctx⟩) ∧
      lastDeclared? recorded call.place = some last ∧
      let s := (replaySession rules disk recorded channel).run
        (.on 0 (.setup config) :: (replaySteps events).take k)
      s.classified? 0 ctx = some (call.dictated rules ctx last) ∧
      (s.classified? 0 ctx = some (call.dictated rules ctx text) ↔
        call.dictated rules ctx last = call.dictated rules ctx text) ∧
      ∀ l, s.hook = some 0 → s.lifecycles[0]? = some l →
        l.tracer.filter.passes ctx.module = true →
        ∃ sources, (s.step (.dispatch ⟨.called, ctx⟩)).2.lifecycles[0]? =
          some { l with
            tracer := l.tracer.entered ctx (call.dictated rules ctx last) sources } := by
  obtain ⟨ctx, hctx, hevent⟩ := prepare_called hprepare hcall
  obtain ⟨last, hlast⟩ := exists_lastDeclared (List.mem_of_getElem? hcall) htext
  have hstep : (replaySteps events)[k]? = some (.dispatch ⟨.called, ctx⟩) := by
    have hmap : (events.map SessionStep.dispatch)[k]? = some (.dispatch ⟨.called, ctx⟩) := by
      rw [List.getElem?_map, hevent]
      rfl
    rw [replaySteps, List.getElem?_append_left (List.getElem?_eq_some_iff.1 hmap).1, hmap]
  refine ⟨ctx, last, hctx, hstep, hlast, ?_⟩
  intro s
  obtain ⟨l, sources, hl, hclassify⟩ := classify_replayed disk channel
    (.on 0 (.setup config) :: (replaySteps events).take k) hctx hfree hlast
  have hfound : s.classified? 0 ctx = some (call.dictated rules ctx last) := by
    rw [Session.classified?, hl, Option.bind_some, hclassify]
  refine ⟨hfound, ?_, ?_⟩
  · rw [hfound]
    exact Option.some_inj
  · intro l' hhook hl' hp
    cases hl.symm.trans hl'
    exact ⟨sources, Session.getElem?_dispatch_called hhook hl hp hclassify⟩

/-- A class body and a function, both without file and line. -/
theorem classified_by_last_declared_unplaced :
    let foo : RecordedCall := ⟨"Foo", "demo", none, none, none, none, [], some "class Foo:"⟩
    let main : RecordedCall := ⟨"main", "demo", none, none, none, none, [], some "def main():"⟩
    let recorded : List RecordedEvent := [.called foo, .called main]
    let events : List Event := [⟨.called, foo.frame⟩, ⟨.called, main.frame⟩]
    let s := (replaySession .standard .empty recorded .unlimited).run
      [.on 0 (.setup .standard), .dispatch ⟨.called, foo.frame⟩]
    prepare recorded = .ok events ∧ recorded[1]? = some (.called main) ∧
      main.declaration = some "def main():" ∧ main.WithoutReceiver .standard ∧
      s.classified? 0 main.frame = some (.free "demo" "main") := by
  intro foo main recorded events s
  have hfree : main.WithoutReceiver .standard := by
    intro b hb
    cases hb
  obtain ⟨ctx, last, hctx, -, hlast, hfound, -⟩ := classified_by_last_declared .standard .empty
    recorded events .standard .unlimited 1 main "def main():" rfl rfl rfl hfree
  cases hctx
  cases hlast
  refine ⟨rfl, rfl, rfl, hfree, hfound.trans ?_⟩
  decide

/-- The body of a class is taken for a free function when a later call carries another declaration
and neither says where it is declared. -/
theorem declaration_of_other_call :
    let foo : RecordedCall := ⟨"Foo", "demo", none, none, none, none, [], some "class Foo:"⟩
    let main : RecordedCall := ⟨"main", "demo", none, none, none, none, [], some "def main():"⟩
    let recorded : List RecordedEvent :=
      [.called foo, .returned ⟨some "Foo", "demo"⟩, .called main]
    let s := (replaySession .standard .empty recorded .unlimited).run [.on 0 (.setup .standard)]
    ∃ events ctx, prepare recorded = .ok events ∧ foo.context = .ok ctx ∧
      (replaySteps events)[0]? = some (.dispatch ⟨.called, ctx⟩) ∧
      foo.declaration = some "class Foo:" ∧ foo.WithoutReceiver .standard ∧
      foo.dictated .standard ctx "class Foo:" = .member .staticInit "demo.Foo" "<static init>" ∧
      s.classified? 0 ctx = some (.free "demo" "Foo") := by
  intro foo main recorded s
  have hfree : foo.WithoutReceiver .standard := by
    intro b hb
    cases hb
  refine ⟨[⟨.called, foo.frame⟩, ⟨.returned, .ofFunction "demo" "Foo"⟩, ⟨.called, main.frame⟩],
    foo.frame, rfl, rfl, rfl, rfl, hfree, by decide, ?_⟩
  have hctx : foo.context = .ok foo.frame := rfl
  have hlast : lastDeclared? recorded foo.place = some "def main():" := rfl
  obtain ⟨l, sources, hl, hclassify⟩ := classify_replayed .empty .unlimited
    [.on 0 (.setup .standard)] hctx hfree hlast
  have hfound : foo.dictated .standard foo.frame "def main():" = .free "demo" "Foo" := by decide
  rw [Session.classified?, hl, Option.bind_some, hclassify, hfound]

end CallTrace
