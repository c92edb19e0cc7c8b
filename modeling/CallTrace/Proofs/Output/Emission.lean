import CallTrace.Proofs.Output.Texts
import CallTrace.Tracing.Session

/-!
# Emissions are exact

An emission is what is written to a channel in one operation: a line, a location, a banner or a
report.  Whatever was written before and failed, and however its text is cut into parts, the
channel keeps as much of the full text as there is room for, and the emission fails if that is not
all of it (`emitted_exactly`).

* `Emission.text`: the full text.
* `Channel.Emitted`: how an emission goes.
* `Channel.answers`: what can be seen of steps that follow.  It depends on the room and on whether
flushes fail, and on nothing else that happened to the channel (`answers_congr`).
-/

namespace CallTrace

/-! ## Emissions -/

/-- What is written to a channel in one operation. -/
inductive Emission
  | line (depth : Int) (text : String)
  | location (depth : Int) (file : String) (line : Nat)
  | banner
  | report (view : InventoryView)
deriving DecidableEq, Repr

namespace Emission

/-- Two blanks for each level of a positive depth. -/
def indentation (depth : Int) : String := String.ofList (List.replicate (2 * max 0 depth).toNat ' ')

def text : Emission → String
  | .line depth text => indentation depth ++ text ++ "\n"
  | .location depth file number => indentation depth ++ (file ++ ":" ++ toString number) ++ "\n"
  | .banner => "********** Trace Results **********\n"
  | .report view => view.text

def bytes (e : Emission) : List UInt8 := Channel.utf8 e.text

def isReport : Emission → Bool
  | .report _ => true
  | .line _ _ | .location _ _ _ | .banner => false

theorem bytes_atDepth (depth : Int) (text : String) :
    Channel.utf8 (indentation depth ++ text ++ "\n") = (OutputLine.atDepth depth text).bytes := by
  have hindent : (2 * max 0 depth).toNat = 2 * depth.toNat := by omega
  rw [← OutputLine.utf8_asText, OutputLine.atDepth, OutputLine.asText, indentation, hindent]

end Emission

namespace Channel

def emit (c : Channel) : Emission → Outcome × Channel
  | .line depth text => c.writeLines [.atDepth depth text]
  | .location depth file line => c.writeLines [.location depth file line]
  | .banner => c.writeLines [.banner]
  | .report view => c.writeReport view.lines

/-! ## Emissions in parts -/

/-- Puts parts, and then flushes if told so. -/
def emitParts (c : Channel) (flushed : Bool) (parts : List (List UInt8)) : Outcome × Channel :=
  match c.putAll parts with
  | (.ok (), c) => if flushed then c.flush else (.ok (), c)
  | (.error e, c) => (.error e, c)

theorem emitParts_congr (c : Channel) (flushed : Bool) {parts others : List (List UInt8)}
    (h : parts.flatten = others.flatten) :
    c.emitParts flushed parts = c.emitParts flushed others := by
  rw [emitParts, emitParts, putAll_eq_put, putAll_eq_put, h]

theorem emitParts_false (c : Channel) (parts : List (List UInt8)) :
    c.emitParts false parts = c.putAll parts := by
  rw [emitParts]
  rcases c.putAll parts with ⟨⟨e⟩ | ⟨⟩, c'⟩ <;> rfl

theorem writeLines_singleton (c : Channel) (l : OutputLine) :
    c.writeLines [l] = c.emitParts false [l.bytes] := by
  rw [writeLines_eq_put, emitParts_false, putAll_eq_put]
  rfl

/-- An emission is its text, in whatever parts it is written. -/
theorem emit_eq_emitParts (c : Channel) (e : Emission) {parts : List (List UInt8)}
    (h : parts.flatten = e.bytes) : c.emit e = c.emitParts e.isReport parts := by
  have hwhole : [e.bytes].flatten = parts.flatten := by rw [h, List.flatten_singleton]
  rw [← emitParts_congr c e.isReport hwhole]
  cases e with
  | line depth text =>
    rw [Emission.bytes, Emission.text, Emission.bytes_atDepth]
    exact c.writeLines_singleton _
  | location depth file line =>
    rw [Emission.bytes, Emission.text, Emission.bytes_atDepth]
    exact c.writeLines_singleton _
  | banner =>
    have htext : (OutputLine.banner).asText = "********** Trace Results **********\n" := by decide
    rw [Emission.bytes, Emission.text, ← htext, OutputLine.utf8_asText]
    exact c.writeLines_singleton _
  | report view =>
    rw [Emission.bytes, Emission.text, view.utf8_text]
    show c.writeReport view.lines = _
    rw [writeReport, writeLines_eq_put, emitParts, putAll_eq_put, List.flatten_singleton]
    rfl

/-! ## How an emission goes -/

/-- How many of `n` bytes there is room for. -/
def fitting (c : Channel) (n : Nat) : Nat :=
  match c.room with
  | none => n
  | some room => min room n

/-- There is no room for all of `n` bytes. -/
def TooSmall (c : Channel) (n : Nat) : Prop := ∃ room, c.room = some room ∧ room < n

theorem not_tooSmall_of_unlimited {c : Channel} (h : c.room = none) (n : Nat) : ¬ c.TooSmall n := by
  rintro ⟨room, hroom, -⟩
  rw [h] at hroom
  cases hroom

theorem tooSmall_iff {c : Channel} {room : Nat} (h : c.room = some room) (n : Nat) :
    c.TooSmall n ↔ room < n := by
  constructor
  · rintro ⟨room', hroom, hlt⟩
    rw [h] at hroom
    cases hroom
    exact hlt
  · intro hlt
    exact ⟨room, h, hlt⟩

/-- What fits is kept and takes its room; the outcome says whether that was all. -/
theorem put_spec (c : Channel) (bytes : List UInt8) :
    ∃ o, c.put bytes = (o, { c with
        room := c.room.map (· - c.fitting bytes.length)
        bytes := c.bytes ++ bytes.take (c.fitting bytes.length) }) ∧
      (o = .error .full ∧ c.TooSmall bytes.length ∨ o = .ok () ∧ ¬ c.TooSmall bytes.length) := by
  cases hroom : c.room with
  | none =>
    refine ⟨.ok (), ?_, .inr ⟨rfl, not_tooSmall_of_unlimited hroom _⟩⟩
    simp only [put, hroom, fitting, List.take_length, Option.map_none]
  | some room =>
    have hleft : room - min room bytes.length = room - bytes.length := by omega
    have htake : bytes.take (min room bytes.length) = bytes.take room := by
      rw [List.take_eq_take_iff]
      omega
    rw [tooSmall_iff hroom]
    by_cases hfits : bytes.length ≤ room
    · refine ⟨.ok (), ?_, .inr ⟨rfl, by omega⟩⟩
      simp only [put, hroom, fitting, if_pos hfits, Option.map_some, hleft, htake]
    · refine ⟨.error .full, ?_, .inl ⟨rfl, by omega⟩⟩
      simp only [put, hroom, fitting, if_neg hfits, Option.map_some, hleft, htake]

/-- How an emission goes that takes the channel from `c` to `c'`. -/
structure Emitted (c : Channel) (e : Emission) (outcome : Outcome) (c' : Channel) : Prop where
  bytes : c'.bytes.toList = c.bytes.toList ++ e.bytes.take (c.fitting e.bytes.length)
  room : c'.room = c.room.map (· - c.fitting e.bytes.length)
  full : outcome = .error .full ↔ c.TooSmall e.bytes.length
  flushFailed : outcome = .error .flushFailed ↔
    ¬ c.TooSmall e.bytes.length ∧ e.isReport = true ∧ c.flushFails = true
  flushes : c'.flushes = c.flushes + if e.isReport = true ∧ outcome = .ok () then 1 else 0
  flushFails : c'.flushFails = c.flushFails

/-- What every emission does to the channel, flushes apart. -/
theorem emitted_of_flushes {c : Channel} {e : Emission} {outcome : Outcome} {flushes : Nat}
    (hfull : outcome = .error .full ↔ c.TooSmall e.bytes.length)
    (hflush : outcome = .error .flushFailed ↔
      ¬ c.TooSmall e.bytes.length ∧ e.isReport = true ∧ c.flushFails = true)
    (hflushes : flushes = c.flushes + if e.isReport = true ∧ outcome = .ok () then 1 else 0) :
    Emitted c e outcome
      { c with
        room := c.room.map (· - c.fitting e.bytes.length)
        bytes := c.bytes ++ e.bytes.take (c.fitting e.bytes.length)
        flushes := flushes } where
  bytes := by simp
  room := rfl
  full := hfull
  flushFailed := hflush
  flushes := hflushes
  flushFails := rfl

theorem emitted_emit (c : Channel) (e : Emission) : Emitted c e (c.emit e).1 (c.emit e).2 := by
  obtain ⟨o, hput, ho⟩ := c.put_spec e.bytes
  rw [emit_eq_emitParts c e List.flatten_singleton, emitParts, putAll_eq_put,
    List.flatten_singleton, hput]
  rcases ho with ⟨rfl, hsmall⟩ | ⟨rfl, hfits⟩
  · exact emitted_of_flushes (by simp [hsmall]) (by simp [hsmall]) (by simp)
  · show Emitted c e (if e.isReport then flush _ else _).1 (if e.isReport then flush _ else _).2
    cases hreport : e.isReport with
    | false => exact emitted_of_flushes (by simp [hfits]) (by simp [hreport]) (by simp [hreport])
    | true =>
      rw [if_pos rfl, flush]
      cases hfails : c.flushFails with
      | true =>
        rw [if_pos rfl, ← hfails]
        exact emitted_of_flushes (by simp [hfits]) (by simp [hfits, hreport, hfails]) (by simp)
      | false =>
        rw [if_neg Bool.false_ne_true, ← hfails]
        exact emitted_of_flushes (by simp [hfits]) (by simp [hfails]) (by simp [hreport])

end Channel

/-! ## Sequences -/

/-- An emission, or a change of the channel. -/
inductive EmissionStep
  | emit (e : Emission)
  | change (change : ChannelChange)
deriving DecidableEq, Repr

/-- What is seen of a step: how it ends, what it adds to the channel, and how often it flushes. -/
structure EmissionAnswer where
  outcome : Outcome
  added : List UInt8
  flushes : Nat
deriving DecidableEq

namespace Channel

def emissionStep (c : Channel) : EmissionStep → Outcome × Channel
  | .emit e => c.emit e
  | .change change => (.ok (), change.apply c)

def afterSteps (c : Channel) (steps : List EmissionStep) : Channel :=
  steps.foldl (fun c step => (c.emissionStep step).2) c

def answer (c : Channel) (step : EmissionStep) : EmissionAnswer :=
  { outcome := (c.emissionStep step).1
    added := (c.emissionStep step).2.bytes.toList.drop c.bytes.size
    flushes := (c.emissionStep step).2.flushes - c.flushes }

def answers (c : Channel) : List EmissionStep → List EmissionAnswer
  | [] => []
  | step :: rest => c.answer step :: (c.emissionStep step).2.answers rest

/-! ## What the past leaves behind -/

variable {c d : Channel}

theorem fitting_congr (h : c.room = d.room) (n : Nat) : c.fitting n = d.fitting n := by
  rw [fitting, fitting, h]

theorem tooSmall_congr (h : c.room = d.room) (n : Nat) : c.TooSmall n ↔ d.TooSmall n := by
  rw [TooSmall, TooSmall, h]

theorem answer_emit (c : Channel) (e : Emission) :
    c.answer (.emit e) =
      { outcome := (c.emit e).1
        added := e.bytes.take (c.fitting e.bytes.length)
        flushes := if e.isReport = true ∧ (c.emit e).1 = .ok () then 1 else 0 } := by
  have h := c.emitted_emit e
  have hadded : (c.emit e).2.bytes.toList.drop c.bytes.size =
      e.bytes.take (c.fitting e.bytes.length) := by
    rw [h.bytes, ← Array.length_toList, List.drop_left]
  have hflushes : (c.emit e).2.flushes - c.flushes =
      if e.isReport = true ∧ (c.emit e).1 = .ok () then 1 else 0 := by
    rw [h.flushes, Nat.add_sub_cancel_left]
  rw [answer, emissionStep, hadded, hflushes]

theorem answer_change (c : Channel) (change : ChannelChange) :
    c.answer (.change change) = ⟨.ok (), [], 0⟩ := by
  have hadded : c.bytes.toList.drop c.bytes.size = [] := by
    rw [← Array.length_toList, List.drop_length]
  have hflushes : c.flushes - c.flushes = 0 := Nat.sub_self _
  show (⟨.ok (), c.bytes.toList.drop c.bytes.size, c.flushes - c.flushes⟩ : EmissionAnswer) = _
  rw [hadded, hflushes]

/-- How an emission ends is decided by the room and by whether flushes fail. -/
theorem outcome_emit_congr (hroom : c.room = d.room) (hflush : c.flushFails = d.flushFails)
    (e : Emission) : (c.emit e).1 = (d.emit e).1 := by
  have hc := c.emitted_emit e
  have hd := d.emitted_emit e
  have herror : ∀ cause, (c.emit e).1 = .error cause ↔ (d.emit e).1 = .error cause := by
    intro cause
    cases cause with
    | full => rw [hc.full, hd.full, tooSmall_congr hroom]
    | flushFailed => rw [hc.flushFailed, hd.flushFailed, tooSmall_congr hroom, hflush]
  cases ho : (c.emit e).1 with
  | error cause => exact ((herror cause).1 ho).symm
  | ok u =>
    cases ho' : (d.emit e).1 with
    | ok u' => rfl
    | error cause =>
      rw [(herror cause).2 ho'] at ho
      cases ho

theorem answer_congr (hroom : c.room = d.room) (hflush : c.flushFails = d.flushFails)
    (step : EmissionStep) : c.answer step = d.answer step := by
  cases step with
  | emit e =>
    rw [answer_emit, answer_emit, outcome_emit_congr hroom hflush, fitting_congr hroom]
  | change change => rw [answer_change, answer_change]

theorem room_emissionStep_congr (hroom : c.room = d.room) (step : EmissionStep) :
    (c.emissionStep step).2.room = (d.emissionStep step).2.room := by
  cases step with
  | emit e =>
    show (c.emit e).2.room = (d.emit e).2.room
    rw [(c.emitted_emit e).room, (d.emitted_emit e).room, hroom, fitting_congr hroom]
  | change change =>
    show change.room.getD c.room = change.room.getD d.room
    rw [hroom]

theorem flushFails_emissionStep_congr (hflush : c.flushFails = d.flushFails) (step : EmissionStep) :
    (c.emissionStep step).2.flushFails = (d.emissionStep step).2.flushFails := by
  cases step with
  | emit e =>
    show (c.emit e).2.flushFails = (d.emit e).2.flushFails
    rw [(c.emitted_emit e).flushFails, (d.emitted_emit e).flushFails, hflush]
  | change change =>
    show change.flushFails.getD c.flushFails = change.flushFails.getD d.flushFails
    rw [hflush]

/-- Of all that happened to a channel, only the room that is left and whether flushes fail matters
to what follows. -/
theorem answers_congr (hroom : c.room = d.room) (hflush : c.flushFails = d.flushFails)
    (steps : List EmissionStep) : c.answers steps = d.answers steps := by
  induction steps generalizing c d with
  | nil => rfl
  | cons step rest ih =>
    rw [answers, answers, answer_congr hroom hflush,
      ih (room_emissionStep_congr hroom step) (flushFails_emissionStep_congr hflush step)]

/-- **Emissions are exact.**  After any steps an emission adds its full text as far as there is
room for, in whatever parts it is written; it fails if that is not all of it, and otherwise a
report fails if flushes do.  The steps that follow are answered as if it had done nothing but take
its room. -/
theorem emitted_exactly (c : Channel) (before : List EmissionStep) (e : Emission)
    (after : List EmissionStep) :
    let c₁ := c.afterSteps before
    let c₂ := (c₁.emit e).2
    Emitted c₁ e (c₁.emit e).1 c₂ ∧
      (∀ parts, parts.flatten = e.bytes → c₁.emitParts e.isReport parts = c₁.emit e) ∧
      c.afterSteps (before ++ .emit e :: after) = c₂.afterSteps after ∧
      c₂.answers after = ({ c₁ with room := c₂.room } : Channel).answers after := by
  intro c₁ c₂
  have hemitted : Emitted c₁ e (c₁.emit e).1 c₂ := c₁.emitted_emit e
  refine ⟨hemitted, fun parts h => (emit_eq_emitParts c₁ e h).symm, ?_, ?_⟩
  · rw [afterSteps, List.foldl_append]
    rfl
  · have hroom : c₂.room = ({ c₁ with room := c₂.room } : Channel).room := rfl
    exact answers_congr hroom hemitted.flushFails after

/-- A line is cut within a character, and the parts in which it is written include an empty one. -/
theorem emitted_exactly_cut_within_character :
    let c₁ := (⟨some 4, false, #[], 0⟩ : Channel).afterSteps
      [.emit (.line (-3) "a"), .change ⟨none, some true⟩]
    let e := Emission.line 0 "bé"
    [[0x62, 0xC3], [], [0xA9, 0x0A]].flatten = e.bytes ∧
      c₁.emitParts e.isReport [[0x62, 0xC3], [], [0xA9, 0x0A]] = c₁.emit e ∧
      (c₁.emit e).1 = .error .full := by
  intro c₁ e
  have hparts : [[0x62, 0xC3], [], [0xA9, 0x0A]].flatten = e.bytes := by decide
  obtain ⟨hemitted, hcut, -, -⟩ := emitted_exactly ⟨some 4, false, #[], 0⟩
    [.emit (.line (-3) "a"), .change ⟨none, some true⟩] e
    [.change ⟨some none, none⟩, .emit .banner]
  have hsmall : c₁.TooSmall e.bytes.length := ⟨2, by decide, by decide⟩
  exact ⟨hparts, hcut _ hparts, hemitted.full.2 hsmall⟩

end Channel
end CallTrace
