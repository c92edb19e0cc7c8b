import CallTrace.Source.Lookup

/-!
# Lines registered by hand

An overlay holds lines that were registered for a file and a number and answers with the one
registered last. For all else it asks the source below. A brittle source crashes on lookups in
some files before it asks the source below.
-/

namespace CallTrace

/-! ## Registered lines -/

/-- Registered lines, the last one first, over another source. -/
structure Overlay (σ : Type) where
  registered : List ((String × Nat) × String)
  below : σ

/-- An overlay with nothing registered. -/
def Overlay.over {σ : Type} (below : σ) : Overlay σ := ⟨[], below⟩

namespace Overlay

variable {σ : Type}

def insert (o : Overlay σ) (file : String) (line : Nat) (text : String) : Overlay σ :=
  { o with registered := ((file, line), text) :: o.registered }

/-- The line registered last for a file and number. -/
def registered? (o : Overlay σ) (file : String) (line : Nat) : Option String :=
  o.registered.lookup (file, line)

theorem registered?_insert (o : Overlay σ) (file file' : String) (line line' : Nat)
    (text : String) :
    (o.insert file line text).registered? file' line'
      = if (file', line') = (file, line) then some text else o.registered? file' line' := by
  rw [registered?, insert, List.lookup_cons]
  by_cases h : (file', line') = (file, line)
  · rw [if_pos h, beq_iff_eq.2 h]
  · rw [if_neg h, beq_eq_false_iff_ne.2 h]
    rfl

instance [LineSource σ] : LineSource (Overlay σ) where
  lookup o file line :=
    match o.registered? file line with
    | some text => (.found text, o)
    | none =>
      let (answer, below) := lookup o.below file line
      (answer, { o with below })

end Overlay

/-! ## Sources that crash -/

/-- A source that crashes on lookups in some files. -/
structure Brittle (σ : Type) where
  crashing : List String
  below : σ

namespace Brittle

variable {σ : Type}

instance [LineSource σ] : LineSource (Brittle σ) where
  lookup b file line :=
    if b.crashing.contains file then (.crashed, b)
    else
      let (answer, below) := lookup b.below file line
      (answer, { b with below })

end Brittle

end CallTrace
