import CallTrace.Files.Error

/-!
# Looking up source lines

A line source answers for a file and a line number. A lookup finds the line, fails with a reason,
or crashes; it may change the source, which remembers what it has read.
-/

namespace CallTrace

inductive SourceError
  | unreadable (file : String) (cause : FileError)
  | outOfRange (file : String) (line : Nat)
deriving DecidableEq, Repr

def SourceError.message : SourceError → String
  | .unreadable file _ => "cannot read " ++ file
  | .outOfRange file line => "line " ++ toString line ++ " out of range in " ++ file

inductive Lookup
  | found (text : String)
  | failed (error : SourceError)
  | crashed
deriving DecidableEq, Repr

/-- Sources of lines. Lines count from 1. -/
class LineSource (σ : Type) where
  lookup (source : σ) (file : String) (line : Nat) : Lookup × σ

export LineSource (lookup)

end CallTrace
