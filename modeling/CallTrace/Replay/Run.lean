import CallTrace.Config
import CallTrace.Replay.Recording
import CallTrace.Tracing.Session

/-!
# Replaying recordings

A replay loads the configuration, reads and prepares the recording, makes the output file if one is
asked for, and then traces the recorded events with one tracer, up to its report. It stops at the
first fault. The output file is made before the module pattern is looked at.
-/

namespace CallTrace

/-! ## Outcomes -/

inductive ReplayError
  | config (error : LoadError)
  | recording (error : LoadError)
  | untyped (error : UntypedBinding)
  | output (error : FileError)
  | pattern (error : InvalidPattern)
deriving DecidableEq, Repr

def ReplayError.message : ReplayError → String
  | .config e | .recording e => e.message
  | .untyped e => e.message
  | .output e => e.message
  | .pattern e => e.message

/-- How a replay ends: whether it went through, the files after it, and what it wrote to the
standard error. -/
structure Replayed where
  outcome : Except ReplayError Unit
  disk : FileSystem
  standardError : Array UInt8

/-! ## Tracing the events -/

/-- The tracer of a replay, with nothing written yet. -/
def replayTracer (disk : FileSystem) (config : TraceConfig) (recorded : List RecordedEvent) :
    Tracer (Overlay FileLines) :=
  .fresh config.classifierRules (RecordedEvent.embeddedSources disk recorded) .unlimited

/-- What a replay does once its tracer is set up. -/
def replaySteps (events : List Event) : List SessionStep :=
  events.map .dispatch ++ [.on 0 .release]

/-- The bytes of trace and report. -/
def trace (disk : FileSystem) (config : TraceConfig) (recorded : List RecordedEvent)
    (events : List Event) : Except InvalidPattern (Array UInt8) :=
  let session := Session.ofTracers [replayTracer disk config recorded]
  match session.step (.on 0 (.setup config.tracerConfig)) with
  | (.error (.invalidPattern e), _) => .error e
  | (_, session) =>
    let session := session.run (replaySteps events)
    .ok (session.lifecycles.foldl (fun bytes l => bytes ++ l.tracer.channel.bytes) #[])

/-! ## Replays -/

/-- What a replay needs before it can write. -/
structure ReplayInput where
  config : TraceConfig
  recorded : List RecordedEvent
  events : List Event

/-- Loads the configuration, then the recording, and prepares its events. -/
def ReplayInput.load (disk : FileSystem) (config recording : String) :
    Except ReplayError ReplayInput := do
  let config ← (TraceConfig.load disk config).mapError .config
  let text ← (disk.readText recording).mapError fun e => .recording (.file e)
  let recorded ← (RecordedEvent.ofText text).mapError fun e => .recording (.document e)
  let events ← (RecordedEvent.prepare recorded).mapError .untyped
  return ⟨config, recorded, events⟩

/-- Replays a recording into a file, or to the standard error. -/
def replay (disk : FileSystem) (config recording : String) (output : Option String) : Replayed :=
  match ReplayInput.load disk config recording with
  | .error e => ⟨.error e, disk, #[]⟩
  | .ok input =>
    match output with
    | none =>
      match trace disk input.config input.recorded input.events with
      | .error e => ⟨.error (.pattern e), disk, #[]⟩
      | .ok bytes => ⟨.ok (), disk, bytes⟩
    | some path =>
      match disk.create path with
      | .error e => ⟨.error (.output e), disk, #[]⟩
      | .ok (here, disk) =>
        match trace disk input.config input.recorded input.events with
        | .error e => ⟨.error (.pattern e), disk, #[]⟩
        | .ok bytes => ⟨.ok (), disk.set here (.file ⟨bytes⟩), #[]⟩

end CallTrace
