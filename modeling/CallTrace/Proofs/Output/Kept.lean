import CallTrace.Output.Report

/-!
# What a channel keeps

`Keeps limit c stream` says that the bytes of `stream` were put into `c` since it was empty and had
room for `limit` bytes: what it holds is the beginning of the stream, cut at the limit, and the room
has shrunk by as much.  Every write goes on with the stream (`keeps_writeLines`,
`keeps_writeReport`), whether it fits or not: after a cut nothing is kept any more.
-/

namespace CallTrace

/-- The beginning of a stream, up to the limit. -/
def cut (limit : Option Nat) (stream : List UInt8) : List UInt8 :=
  match limit with
  | none => stream
  | some n => stream.take n

namespace Channel

/-! ## Writes as puts -/

theorem writeLines_eq_put (c : Channel) (lines : List OutputLine) :
    c.writeLines lines = c.put (lines.flatMap OutputLine.bytes) := by
  rw [writeLines, putAll_eq_put]
  congr 1
  induction lines with
  | nil => rfl
  | cons line rest ih =>
    rw [List.flatMap_cons, List.flatten_append, ih]
    rfl

theorem bytes_flush (c : Channel) : c.flush.2.bytes = c.bytes := by
  unfold flush
  split <;> rfl

theorem room_flush (c : Channel) : c.flush.2.room = c.room := by
  unfold flush
  split <;> rfl

/-- Flushing changes neither what is kept nor the room. -/
theorem bytes_writeReport (c : Channel) (lines : List OutputLine) :
    (c.writeReport lines).2.bytes = (c.writeLines lines).2.bytes := by
  unfold writeReport
  split
  · next h => rw [h, bytes_flush]
  · next h => rw [h]

theorem room_writeReport (c : Channel) (lines : List OutputLine) :
    (c.writeReport lines).2.room = (c.writeLines lines).2.room := by
  unfold writeReport
  split
  · next h => rw [h, room_flush]
  · next h => rw [h]

/-! ## The stream of a channel -/

/-- The channel was empty with room for `limit` bytes, and `stream` was put into it. -/
structure Keeps (limit : Option Nat) (c : Channel) (stream : List UInt8) : Prop where
  bytes : c.bytes.toList = cut limit stream
  room : c.room = limit.map (· - stream.length)

variable {limit : Option Nat} {c : Channel} {stream : List UInt8}

theorem keeps_nil (hb : c.bytes = #[]) (hr : c.room = limit) : Keeps limit c [] := by
  constructor
  · rw [hb]
    cases limit <;> simp [cut]
  · rw [hr]
    cases limit <;> simp

/-- A channel without limit keeps what it has kept so far. -/
theorem keeps_self (hr : c.room = none) : Keeps none c c.bytes.toList := ⟨rfl, hr⟩

theorem keeps_put (h : Keeps limit c stream) (bytes : List UInt8) :
    Keeps limit (c.put bytes).2 (stream ++ bytes) := by
  obtain ⟨hb, hr⟩ := h
  cases limit with
  | none =>
    simp only [Option.map_none] at hr
    constructor
    · simp only [put, hr, cut] at hb ⊢
      simp [hb]
    · simp [put, hr]
  | some n =>
    simp only [Option.map_some] at hr
    constructor
    · simp only [put, hr, cut] at hb ⊢
      rw [List.take_append]
      simp [hb]
    · simp only [put, hr, Option.map_some, List.length_append, Nat.sub_sub]

theorem keeps_writeLines (h : Keeps limit c stream) (lines : List OutputLine) :
    Keeps limit (c.writeLines lines).2 (stream ++ lines.flatMap OutputLine.bytes) := by
  rw [writeLines_eq_put]
  exact keeps_put h _

theorem keeps_writeReport (h : Keeps limit c stream) (lines : List OutputLine) :
    Keeps limit (c.writeReport lines).2 (stream ++ lines.flatMap OutputLine.bytes) := by
  have hw := keeps_writeLines h lines
  exact ⟨by rw [bytes_writeReport]; exact hw.bytes, by rw [room_writeReport]; exact hw.room⟩

end Channel

end CallTrace
