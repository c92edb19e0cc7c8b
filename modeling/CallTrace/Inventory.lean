/-!
# The inventory of calls

Which members of which classes were called, and which free functions. Classes, the members of each
and the free functions are kept in increasing order without repetition, so that recording a call
again changes nothing. `view` is what a report shows.
-/

namespace CallTrace

/-! ## Sets of names -/

/-- Adds a name to names in increasing order. -/
def insertName (name : String) : List String → List String
  | [] => [name]
  | x :: rest =>
    if name < x then name :: x :: rest
    else if name = x then x :: rest
    else x :: insertName name rest

theorem mem_insertName (x name : String) (names : List String) :
    x ∈ insertName name names ↔ x = name ∨ x ∈ names := by
  induction names with
  | nil => simp [insertName]
  | cons y rest ih =>
    rw [insertName]
    split
    · simp
    · split
      · next h => subst h; simp
      · rw [List.mem_cons, ih, List.mem_cons]
        constructor
        · rintro (h | h | h) <;> simp [h]
        · rintro (h | h | h) <;> simp [h]

theorem insertName_increasing (name : String) (names : List String) (h : names.Pairwise (· < ·)) :
    (insertName name names).Pairwise (· < ·) := by
  induction names with
  | nil => simp [insertName]
  | cons y rest ih =>
    obtain ⟨hy, hrest⟩ := List.pairwise_cons.1 h
    rw [insertName]
    split
    · next hlt =>
      refine List.pairwise_cons.2 ⟨fun a ha => ?_, h⟩
      rcases List.mem_cons.1 ha with rfl | ha
      · exact hlt
      · exact String.lt_trans hlt (hy a ha)
    · split
      · exact h
      · next hlt hne =>
        refine List.pairwise_cons.2 ⟨fun a ha => ?_, ih hrest⟩
        rcases (mem_insertName a name rest).1 ha with rfl | ha
        · refine Decidable.byContradiction fun hna => hne ?_
          exact String.le_antisymm (String.not_lt.1 hna) (String.not_lt.1 hlt)
        · exact hy a ha

/-! ## Inventories -/

/-- The member that stands for running the body of a class. -/
def staticInitMember : String := "<static init>"

/-- The members of a class that were called. -/
structure ClassRecord where
  name : String
  members : List String
deriving DecidableEq, Repr

/-- Whether nothing but the body of the class was run. -/
def ClassRecord.hasOnlyStaticInit (c : ClassRecord) : Bool := c.members == [staticInitMember]

structure Inventory where
  classes : List ClassRecord
  freeFunctions : List String
deriving DecidableEq, Repr

namespace Inventory

def empty : Inventory := ⟨[], []⟩

def insertMember (className member : String) : List ClassRecord → List ClassRecord
  | [] => [⟨className, [member]⟩]
  | c :: rest =>
    if className < c.name then ⟨className, [member]⟩ :: c :: rest
    else if className = c.name then { c with members := insertName member c.members } :: rest
    else c :: insertMember className member rest

def recordMember (inv : Inventory) (className member : String) : Inventory :=
  { inv with classes := insertMember className member inv.classes }

def recordFunction (inv : Inventory) (name : String) : Inventory :=
  { inv with freeFunctions := insertName name inv.freeFunctions }

/-- The class of the given name, if one of its members was called. -/
def class? (inv : Inventory) (name : String) : Option ClassRecord :=
  inv.classes.find? fun c => c.name == name

def isEmpty (inv : Inventory) : Bool := inv.classes.isEmpty && inv.freeFunctions.isEmpty

end Inventory

/-! ## Views -/

/-- A class as a report shows it. -/
structure ClassView where
  name : String
  onlyStaticInit : Bool
  members : List String
deriving DecidableEq, Repr

/-- An inventory as a report shows it. -/
structure InventoryView where
  classes : List ClassView
  freeFunctions : List String
deriving DecidableEq, Repr

/-- What a report shows of the inventory. -/
def Inventory.view (inv : Inventory) : InventoryView :=
  ⟨inv.classes.map fun c => ⟨c.name, c.hasOnlyStaticInit, c.members⟩, inv.freeFunctions⟩

end CallTrace
