import CallTrace.Files.Error
import CallTrace.Files.Path

/-!
# A file system

Files and directories, each at a location: the names that lead to it from the root. The root and
the directories that lead to the working directory are always there. A path is walked name by
name; each step needs a directory to start from, so that `a/..` needs `a`. `read` gives the bytes
of a file, `readText` its text, and `create` empties or makes a file.
-/

namespace CallTrace

/-- The names that lead from the root to a file or directory. -/
abbrev Location := List String

/-- What is found at a location. -/
inductive FileNode
  | file (bytes : ByteArray)
  | directory

/-- The files and directories of a system, and where relative paths start. -/
structure FileSystem where
  workingDirectory : Location
  entries : List (Location × FileNode)

namespace FileSystem

/-- A file system with an empty working directory. -/
def empty : FileSystem := ⟨["work"], []⟩

/-! ## Walking -/

def node? (fs : FileSystem) (here : Location) : Option FileNode :=
  if here.isPrefixOf fs.workingDirectory then some .directory else fs.entries.lookup here

/-- One step of a walk. -/
def enter (fs : FileSystem) (here : Location) (name : String) : Except FileError Location :=
  match fs.node? here with
  | none => .error .notFound
  | some (.file _) => .error .notADirectory
  | some .directory =>
    if name = "." then .ok here
    else if name = ".." then .ok here.dropLast
    else if Path.maxName < name.utf8ByteSize then .error .nameTooLong
    else .ok (here ++ [name])

/-- Where a path starts, if it can be a path at all. -/
def start (fs : FileSystem) (path : String) : Except FileError Location :=
  if path.toList.contains '\x00' then .error .nulInPath
  else if path.isEmpty then .error .notFound
  else if Path.maxPath < path.utf8ByteSize then .error .nameTooLong
  else .ok (if Path.isAbsolute path then [] else fs.workingDirectory)

/-- Walks all names from a location. -/
def walk (fs : FileSystem) (here : Location) (names : List String) : Except FileError Location :=
  names.foldlM fs.enter here

/-- The location that a path leads to, where nothing need be yet. -/
def locate (fs : FileSystem) (path : String) : Except FileError Location := do
  let here ← fs.start path
  let there ← fs.walk here (Path.names path)
  if Path.endsInSlash path then fs.enter there "." else .ok there

/-! ## Reading -/

def read (fs : FileSystem) (path : String) : Except FileError ByteArray := do
  let here ← fs.locate path
  match fs.node? here with
  | none => .error .notFound
  | some .directory => .error .isADirectory
  | some (.file bytes) => .ok bytes

def readText (fs : FileSystem) (path : String) : Except FileError String := do
  let bytes ← fs.read path
  match String.fromUTF8? bytes with
  | some text => .ok text
  | none => .error .notText

/-! ## Changing -/

/-- Puts a node at a location, in place of what was there. -/
def set (fs : FileSystem) (here : Location) (node : FileNode) : FileSystem :=
  { fs with entries := (here, node) :: fs.entries.filter fun e => e.1 != here }

/-- The location of the file to be created at a path. -/
def locateNew (fs : FileSystem) (path : String) : Except FileError Location := do
  let here ← fs.start path
  let names := Path.names path
  let parent ← fs.walk here names.dropLast
  let parent ← fs.enter parent "."
  match names.getLast? with
  | none => .error .isADirectory
  | some name =>
    if Path.endsInSlash path || name == "." || name == ".." then .error .isADirectory
    else
      let there ← fs.enter parent name
      match fs.node? there with
      | some .directory => .error .isADirectory
      | _ => .ok there

/-- Makes an empty file, or empties the one that is there; also gives its location. -/
def create (fs : FileSystem) (path : String) : Except FileError (Location × FileSystem) := do
  let here ← fs.locateNew path
  .ok (here, fs.set here (.file .empty))

/-- The location that a path names when every step is taken as it is written. -/
def destination (fs : FileSystem) (path : String) : Location :=
  (Path.names path).foldl
    (fun here name =>
      if name = "." then here else if name = ".." then here.dropLast else here ++ [name])
    (if Path.isAbsolute path then [] else fs.workingDirectory)

/-- Makes a directory and those above it that are missing. -/
def makeDirectories (fs : FileSystem) (here : Location) : FileSystem :=
  (List.range (here.length + 1)).foldl
    (fun fs depth =>
      let above := here.take depth
      match fs.node? above with
      | none => fs.set above .directory
      | some _ => fs)
    fs

/-- Stores a file with the directories above it; a path that ends in a slash stores a directory. -/
def store (fs : FileSystem) (path : String) (bytes : ByteArray) : FileSystem :=
  let here := fs.destination path
  if Path.endsInSlash path then fs.makeDirectories here
  else (fs.makeDirectories here.dropLast).set here (.file bytes)

/-- Removes what is at a path, with all that is below it. -/
def remove (fs : FileSystem) (path : String) : FileSystem :=
  let here := fs.destination path
  { fs with entries := fs.entries.filter fun e => !here.isPrefixOf e.1 }

/-! ## Listing -/

/-- The names in the working directory. -/
def names (fs : FileSystem) : List String :=
  fs.entries.filterMap fun e =>
    match e.1.drop fs.workingDirectory.length with
    | [name] => if fs.workingDirectory.isPrefixOf e.1 then some name else none
    | _ => none

end FileSystem

end CallTrace
