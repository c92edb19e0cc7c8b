import CallTrace.Dispatch.Worklist
import CallTrace.Main
import CallTrace.Proofs.Config.PathShape
import CallTrace.Proofs.Dispatch.Flattening
import CallTrace.Proofs.Inventory.View
import CallTrace.Proofs.Output.Emission
import CallTrace.Proofs.Output.ReadBack
import CallTrace.Proofs.Pattern.Anchored
import CallTrace.Proofs.Pattern.Negation
import CallTrace.Proofs.Program.RefusedSetup
import CallTrace.Proofs.Replay.EmbeddedDeclarations
import CallTrace.Proofs.Replay.Failure
import CallTrace.Proofs.Replay.FirstFault
import CallTrace.Proofs.Source.JoinedLines
import CallTrace.Proofs.Tracing.ClassMarks
import CallTrace.Proofs.Tracing.HookOwner
import CallTrace.Proofs.Tracing.Interleaving
import CallTrace.Proofs.Tracing.Isolation
import CallTrace.Proofs.Tracing.Nesting
import CallTrace.Proofs.Tracing.OutputIndependence
import CallTrace.Proofs.Tracing.WholeRun
import CallTrace.Tracing.Program
