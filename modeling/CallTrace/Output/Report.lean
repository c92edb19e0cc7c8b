import CallTrace.Inventory
import CallTrace.Output.Channel

/-!
# Trace lines and reports

All output consists of lines: an indentation, a text and a line feed. A call is printed at twice its
depth, an unbalanced one at the margin. The report lists the classes of which only the body was run,
then the other classes with their members, then the free functions, in the order of the view.
-/

namespace CallTrace

/-! ## Lines -/

structure OutputLine where
  indent : Nat
  text : String
deriving DecidableEq, Repr

namespace OutputLine

/-- The parts that are written one after the other. -/
def parts (l : OutputLine) : List (List UInt8) :=
  [List.replicate l.indent 32, Channel.utf8 l.text, [10]]

def bytes (l : OutputLine) : List UInt8 := l.parts.flatten

/-- The line that prints a text at a depth. -/
def atDepth (depth : Int) (text : String) : OutputLine := ⟨2 * depth.toNat, text⟩

/-- The line that prints a place in the source at a depth. -/
def location (depth : Int) (file : String) (line : Nat) : OutputLine :=
  atDepth depth (file ++ ":" ++ toString line)

/-- The line before a report. -/
def banner : OutputLine := ⟨0, "********** Trace Results **********"⟩

end OutputLine

/-! ## Reports -/

/-- The lines for a class of which members other than its body were used. -/
def ClassView.lines (c : ClassView) : List OutputLine := ⟨3, c.name⟩ :: c.members.map (⟨5, ·⟩)

def InventoryView.lines (v : InventoryView) : List OutputLine :=
  [⟨0, "Used classes:"⟩, ⟨2, "only static init:"⟩]
    ++ (v.classes.filter fun c => c.onlyStaticInit).map (fun c => ⟨4, c.name⟩)
    ++ [⟨2, "not only static init:"⟩]
    ++ (v.classes.filter fun c => !c.onlyStaticInit).flatMap ClassView.lines
    ++ [⟨0, "Free functions:"⟩]
    ++ v.freeFunctions.map (⟨2, ·⟩)

/-! ## Writing -/

namespace Channel

/-- Writes lines, up to the first part that does not fit. -/
def writeLines (c : Channel) (lines : List OutputLine) : Outcome × Channel :=
  c.putAll (lines.flatMap OutputLine.parts)

/-- Writes lines and flushes them. -/
def writeReport (c : Channel) (lines : List OutputLine) : Outcome × Channel :=
  match c.writeLines lines with
  | (.ok (), c) => c.flush
  | (.error e, c) => (.error e, c)

end Channel

end CallTrace
