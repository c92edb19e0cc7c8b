import CallTrace.Proofs.Output.Kept
import Mathlib.Data.String.Basic

/-!
# Output as text

The bytes of output lines are those of a text, line by line (`utf8_textOf`).  The text of a report
is written out as a whole in `InventoryView.text`, with the banner in `reportText`; the lines of
the report give the same (`utf8_text`, `keeps_report`).
-/

namespace CallTrace

/-! ## Lines -/

/-- The line as text: blanks, what it says, and a line feed. -/
def OutputLine.asText (l : OutputLine) : String :=
  String.ofList (List.replicate l.indent ' ') ++ l.text ++ "\n"

/-- Lines as one text. -/
def OutputLine.textOf (lines : List OutputLine) : String := String.join (lines.map asText)

theorem OutputLine.asText_zero (text : String) : asText ⟨0, text⟩ = text ++ "\n" :=
  congrArg (· ++ "\n") String.empty_append

namespace Channel

theorem utf8_ofList (chars : List Char) :
    utf8 (String.ofList chars) = chars.flatMap String.utf8EncodeChar :=
  List.toList_data_toByteArray

theorem utf8_blanks (n : Nat) :
    utf8 (String.ofList (List.replicate n ' ')) = List.replicate n 32 := by
  rw [utf8_ofList]
  induction n with
  | zero => rfl
  | succ n ih =>
    rw [List.replicate_succ, List.flatMap_cons, ih]
    rfl

theorem utf8_join (texts : List String) : utf8 (String.join texts) = texts.flatMap utf8 := by
  induction texts with
  | nil => rfl
  | cons text rest ih => rw [String.join_cons, utf8_append, ih, List.flatMap_cons]

end Channel

namespace OutputLine

theorem utf8_asText (l : OutputLine) : Channel.utf8 l.asText = l.bytes := by
  rw [asText, Channel.utf8_append, Channel.utf8_append, Channel.utf8_blanks, bytes, parts,
    List.flatten_cons, List.flatten_cons, List.flatten_cons, List.flatten_nil, List.append_assoc]
  rfl

theorem utf8_textOf (lines : List OutputLine) :
    Channel.utf8 (textOf lines) = lines.flatMap bytes := by
  rw [textOf, Channel.utf8_join, List.flatMap_map]
  simp only [utf8_asText]

theorem textOf_append (lines others : List OutputLine) :
    textOf (lines ++ others) = textOf lines ++ textOf others := by
  rw [textOf, List.map_append, String.join_append]
  rfl

theorem textOf_cons (l : OutputLine) (lines : List OutputLine) :
    textOf (l :: lines) = l.asText ++ textOf lines := by
  rw [textOf, List.map_cons, String.join_cons]
  rfl

theorem textOf_map {α : Type} (f : α → OutputLine) (items : List α) :
    textOf (items.map f) = String.join (items.map fun item => (f item).asText) := by
  rw [textOf, List.map_map]
  rfl

theorem textOf_flatMap {α : Type} (f : α → List OutputLine) (items : List α) :
    textOf (items.flatMap f) = String.join (items.map fun item => textOf (f item)) := by
  induction items with
  | nil => rfl
  | cons item rest ih =>
    rw [List.flatMap_cons, textOf_append, ih, List.map_cons, String.join_cons]

end OutputLine

/-! ## Reports -/

def ClassView.text (c : ClassView) : String :=
  "   " ++ c.name ++ "\n" ++ String.join (c.members.map fun member => "     " ++ member ++ "\n")

def InventoryView.text (v : InventoryView) : String :=
  "Used classes:\n  only static init:\n"
    ++ String.join ((v.classes.filter fun c => c.onlyStaticInit).map
        fun c => "    " ++ c.name ++ "\n")
    ++ "  not only static init:\n"
    ++ String.join ((v.classes.filter fun c => !c.onlyStaticInit).map ClassView.text)
    ++ "Free functions:\n"
    ++ String.join (v.freeFunctions.map fun function => "  " ++ function ++ "\n")

theorem ClassView.textOf_lines (c : ClassView) : OutputLine.textOf c.lines = c.text := by
  rw [lines, OutputLine.textOf_cons, OutputLine.textOf_map]
  rfl

theorem InventoryView.textOf_lines (v : InventoryView) : OutputLine.textOf v.lines = v.text := by
  have hfirst : OutputLine.textOf [⟨0, "Used classes:"⟩, ⟨2, "only static init:"⟩] =
      "Used classes:\n  only static init:\n" := by decide
  have hsecond : OutputLine.textOf [⟨2, "not only static init:"⟩] =
      "  not only static init:\n" := by
    decide
  have hthird : OutputLine.textOf [⟨0, "Free functions:"⟩] = "Free functions:\n" := by decide
  rw [lines, OutputLine.textOf_append, OutputLine.textOf_append, OutputLine.textOf_append,
    OutputLine.textOf_append, OutputLine.textOf_append, hfirst, hsecond, hthird,
    OutputLine.textOf_map, OutputLine.textOf_map, OutputLine.textOf_flatMap]
  simp only [ClassView.textOf_lines]
  rfl

/-- The report as bytes. -/
theorem InventoryView.utf8_text (v : InventoryView) :
    Channel.utf8 v.text = v.lines.flatMap OutputLine.bytes := by
  rw [← v.textOf_lines, OutputLine.utf8_textOf]

/-- Banner and report as text. -/
def InventoryView.reportText (v : InventoryView) : String :=
  "********** Trace Results **********\n" ++ v.text

theorem OutputLine.asText_banner : banner.asText = "********** Trace Results **********\n" := by
  rw [banner, asText_zero]
  simp only [String.reduceAppend]

theorem InventoryView.textOf_report (v : InventoryView) :
    OutputLine.textOf (.banner :: v.lines) = v.reportText := by
  rw [OutputLine.textOf_cons, v.textOf_lines, OutputLine.asText_banner]
  rfl

/-! ## Channels -/

namespace Channel

variable {limit : Option Nat} {c : Channel} {stream : List UInt8}

theorem keeps_lines (h : Keeps limit c stream) (lines : List OutputLine) :
    Keeps limit (c.writeLines lines).2 (stream ++ utf8 (OutputLine.textOf lines)) := by
  rw [OutputLine.utf8_textOf]
  exact keeps_writeLines h lines

theorem keeps_report (h : Keeps limit c stream) (v : InventoryView) :
    Keeps limit (c.writeReport (.banner :: v.lines)).2 (stream ++ utf8 v.reportText) := by
  rw [← v.textOf_report, OutputLine.utf8_textOf]
  exact keeps_writeReport h _

end Channel

end CallTrace
