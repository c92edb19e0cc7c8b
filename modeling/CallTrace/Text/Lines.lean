/-!
# Lines of a text

A line ends at a line feed, and a carriage return right before the feed belongs to the end. What
stands after the last feed is a line too unless it is empty; it is kept as it is, a carriage return
at its end included. `joinLines` is the way back: it puts the chosen end after each line.
-/

namespace CallTrace.Text

/-! ## Reading -/

/-- A line read backwards, without the carriage return that stood before its feed. -/
def dropReturn : List Char → List Char
  | '\r' :: rest => rest
  | line => line

/-- The lines of a text whose first line was read up to here; `read` holds it backwards. -/
def linesFrom (read : List Char) : List Char → List (List Char)
  | [] => if read.isEmpty then [] else [read.reverse]
  | c :: rest =>
    if c = '\n' then (dropReturn read).reverse :: linesFrom [] rest
    else linesFrom (c :: read) rest

theorem linesFrom_feed (line read rest : List Char) (h : '\n' ∉ line) :
    linesFrom read (line ++ '\n' :: rest)
      = (dropReturn (line.reverse ++ read)).reverse :: linesFrom [] rest := by
  induction line generalizing read with
  | nil => simp [linesFrom]
  | cons c line ih =>
    simp only [List.mem_cons, not_or] at h
    rw [List.cons_append, linesFrom, if_neg (Ne.symm h.1), ih _ h.2]
    simp

theorem linesFrom_last (line read : List Char) (h : '\n' ∉ line) :
    linesFrom read line
      = if (line.reverse ++ read).isEmpty then [] else [(line.reverse ++ read).reverse] := by
  induction line generalizing read with
  | nil => simp [linesFrom]
  | cons c line ih =>
    simp only [List.mem_cons, not_or] at h
    rw [linesFrom, if_neg (Ne.symm h.1), ih _ h.2]
    simp

def lines (text : String) : List String := (linesFrom [] text.toList).map String.ofList

/-- The line with the given number, where the first line has number 1. -/
def line? (lines : List String) (number : Nat) : Option String :=
  match number with
  | 0 => none
  | n + 1 => lines[n]?

/-! ## Writing -/

inductive LineEnd
  | feed
  | returnFeed
deriving DecidableEq, Repr

def LineEnd.chars : LineEnd → List Char
  | .feed => ['\n']
  | .returnFeed => ['\r', '\n']

/-- The text with the given lines and ends, and `last` after the last of them. -/
def joinLines (ended : List (List Char × LineEnd)) (last : List Char) : List Char :=
  ended.flatMap (fun line => line.1 ++ line.2.chars) ++ last

end CallTrace.Text
