import CallTrace.CommandLine

/-!
# The program on real files

Puts the files that a replay may touch into a file system, runs the program on it, and writes back
what came of it.
-/

namespace CallTrace.CommandLine

/-- The code by which the system says that a directory is no file. -/
def directoryCode : UInt32 := 21

/-- Adds what is at a path, if something can be read there. -/
def gather (disk : FileSystem) (path : String) : IO FileSystem := do
  let asDirectory := disk.store (path ++ "/") .empty
  match ← (IO.FS.readBinFile path).toBaseIO with
  | .ok bytes => return disk.store path bytes
  | .error (.inappropriateType _ code _) =>
      return if code = directoryCode then asDirectory else disk
  | .error _ => return disk

def parentPath (path : String) : String :=
  let parent := (Path.pieces path).dropLast.map String.ofList
  if parent.isEmpty then "." else "/".intercalate parent ++ "/"

/-- The paths that a replay reads whatever the files hold, and the place of its output. -/
def namedPaths (o : ReplayOptions) : List String :=
  (if TraceConfig.isPath o.config then [o.config] else []) ++ [o.recording]
    ++ (o.output.elim [] fun path => [parentPath path, path])

/-- The files in which a replay may look declarations up. -/
def sourcePaths (disk : FileSystem) (o : ReplayOptions) : List String :=
  match ReplayInput.load disk o.config o.recording with
  | .ok input => (input.events.map fun e => e.context.file).eraseDups
  | .error _ => []

/-- The files that the arguments speak of. -/
def gatherAll (args : List String) : IO FileSystem := do
  match parse args with
  | .error _ => return .empty
  | .ok o =>
    let disk ← (namedPaths o).foldlM gather .empty
    (sourcePaths disk o).foldlM gather disk

/-- Writes the output file if there is something new in it. -/
def writeBack (before after : FileSystem) (path : String) : IO Unit := do
  match after.read path with
  | .error _ => return
  | .ok bytes =>
    if (before.read path).toOption.map ByteArray.data ≠ some bytes.data then
      IO.FS.writeBinFile path bytes

end CallTrace.CommandLine

open CallTrace CommandLine in
def main (args : List String) : IO UInt32 := do
  let disk ← gatherAll args
  let finished := run disk args
  match parse args with
  | .ok ⟨_, some path, _⟩ => writeBack disk finished.disk path
  | _ => pure ()
  (← IO.getStdout).putStr finished.standardOutput
  (← IO.getStderr).write ⟨finished.standardError⟩
  return finished.exitCode.toUInt32
