/-!
# Output channels

A channel keeps the bytes that are put into it. It may have room for so many bytes only: what goes
beyond is lost and the write fails, until the room is changed. Flushing counts, or fails if the
channel is told so.
-/

namespace CallTrace

inductive ChannelError
  | full
  | flushFailed
deriving DecidableEq, Repr

def ChannelError.message : ChannelError → String
  | .full => "channel full"
  | .flushFailed => "flush failed"

/-- Where output goes. No `room` means that there is no limit. -/
structure Channel where
  room : Option Nat
  flushFails : Bool
  bytes : Array UInt8
  flushes : Nat
deriving DecidableEq, Repr

abbrev Outcome := Except ChannelError Unit

namespace Channel

/-- An empty channel without limit. -/
def unlimited : Channel := ⟨none, false, #[], 0⟩

/-- Puts bytes, or as many of them as there is room for. -/
def put (c : Channel) (bytes : List UInt8) : Outcome × Channel :=
  match c.room with
  | none => (.ok (), { c with bytes := c.bytes ++ bytes })
  | some room =>
    let c := { c with room := some (room - bytes.length), bytes := c.bytes ++ bytes.take room }
    (if bytes.length ≤ room then .ok () else .error .full, c)

/-- Puts one part after the other, up to the first that does not fit. -/
def putAll (c : Channel) : List (List UInt8) → Outcome × Channel
  | [] => (.ok (), c)
  | part :: rest =>
    match c.put part with
    | (.ok (), c) => c.putAll rest
    | (.error e, c) => (.error e, c)

theorem put_nil (c : Channel) : c.put [] = (.ok (), c) := by
  cases c with
  | mk room flushFails bytes flushes => cases room <;> simp [put]

theorem append_append_list (a : Array UInt8) (p q : List UInt8) : a ++ p ++ q = a ++ (p ++ q) := by
  apply Array.toList_inj.1
  simp

/-- Parts are kept as if they were put at once. -/
theorem putAll_eq_put (c : Channel) (parts : List (List UInt8)) :
    c.putAll parts = c.put parts.flatten := by
  induction parts generalizing c with
  | nil => rw [putAll, List.flatten_nil, put_nil]
  | cons part rest ih =>
    rw [putAll, List.flatten_cons]
    cases hr : c.room with
    | none =>
      have hp : c.put part = (.ok (), { c with bytes := c.bytes ++ part }) := by rw [put, hr]
      rw [hp]
      simp only [ih]
      simp [put, hr, append_append_list]
    | some room =>
      by_cases hfit : part.length ≤ room
      · have hp : c.put part
            = (.ok (), { c with room := some (room - part.length), bytes := c.bytes ++ part }) := by
          rw [put, hr]
          simp [hfit, List.take_of_length_le hfit]
        rw [hp]
        simp only [ih]
        simp only [put, hr, List.length_append, List.take_append, List.take_of_length_le hfit,
          append_append_list]
        have : (rest.flatten.length ≤ room - part.length) ↔
            part.length + rest.flatten.length ≤ room := by
          omega
        simp only [this, Nat.sub_sub]
      · have hlt : room < part.length := by omega
        have hp : c.put part
            = (.error .full, { c with room := some 0, bytes := c.bytes ++ part.take room }) := by
          rw [put, hr]
          simp only [if_neg hfit]
          rw [Nat.sub_eq_zero_of_le (Nat.le_of_lt hlt)]
        rw [hp]
        have hall : ¬ (part ++ rest.flatten).length ≤ room := by
          rw [List.length_append]; omega
        have hz : room - (part ++ rest.flatten).length = 0 := by
          rw [List.length_append]; omega
        simp only [put, hr, if_neg hall, hz]
        rw [List.take_append_of_le_length (Nat.le_of_lt hlt)]

def flush (c : Channel) : Outcome × Channel :=
  if c.flushFails then (.error .flushFailed, c) else (.ok (), { c with flushes := c.flushes + 1 })

def utf8 (text : String) : List UInt8 := text.toUTF8.data.toList

theorem utf8_append (s t : String) : utf8 (s ++ t) = utf8 s ++ utf8 t := by
  show (s ++ t).toByteArray.data.toList = _
  rw [String.toByteArray_append, ByteArray.data_append, Array.toList_append]
  rfl

theorem utf8_inj {s t : String} : utf8 s = utf8 t ↔ s = t := by
  refine ⟨fun h => ?_, fun h => by rw [h]⟩
  apply String.toByteArray_inj.1
  have h' : s.toByteArray.data.toList = t.toByteArray.data.toList := h
  exact congrArg ByteArray.mk (Array.toList_inj.1 h')

end Channel

end CallTrace
