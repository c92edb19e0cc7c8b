import CallTrace.Proofs.Inventory.Canonical

/-!
# Views are canonical

The view of an inventory lists what was recorded and nothing else, in increasing order, so two
sequences of entries have the same view exactly if they hold the same entries
(`view_canonical`).

* `InventoryView.Sorted`: the shape of every view, whatever was recorded.
* `InventoryView.Lists`: a member is listed under a class.  By it a view says what was recorded.
-/

namespace CallTrace

/-! ## Views -/

namespace InventoryView

/-- Names increase in code point order, no class is without members, and the classes marked are
those of which nothing but the body was run. -/
structure Sorted (v : InventoryView) : Prop where
  classes : v.classes.Pairwise (·.name < ·.name)
  members : ∀ c ∈ v.classes, c.members.Pairwise (· < ·)
  inhabited : ∀ c ∈ v.classes, c.members ≠ []
  marked : ∀ c ∈ v.classes, c.onlyStaticInit = true ↔ c.members = [staticInitMember]
  freeFunctions : v.freeFunctions.Pairwise (· < ·)

/-- The member is listed under the class. -/
def Lists (v : InventoryView) (className member : String) : Prop :=
  ∃ c ∈ v.classes, c.name = className ∧ member ∈ c.members

end InventoryView

/-! ## Views of inventories -/

def ClassRecord.shown (c : ClassRecord) : ClassView := ⟨c.name, c.hasOnlyStaticInit, c.members⟩

theorem ClassRecord.shown_inj {c d : ClassRecord} (h : c.shown = d.shown) : c = d := by
  have hname : c.name = d.name := congrArg ClassView.name h
  have hmembers : c.members = d.members := congrArg ClassView.members h
  cases c; cases d
  cases hname; cases hmembers
  rfl

theorem ClassRecord.hasOnlyStaticInit_iff (c : ClassRecord) :
    c.hasOnlyStaticInit = true ↔ c.members = [staticInitMember] := by
  rw [hasOnlyStaticInit, beq_iff_eq]

namespace Inventory

variable {inv : Inventory}

theorem mem_view_classes {v : ClassView} : v ∈ inv.view.classes ↔ ∃ c ∈ inv.classes, c.shown = v :=
  List.mem_map

theorem lists_view (className member : String) :
    inv.view.Lists className member ↔ inv.Holds className member := by
  constructor
  · rintro ⟨v, hv, hname, hmember⟩
    obtain ⟨c, hc, rfl⟩ := mem_view_classes.1 hv
    exact ⟨c, hc, hname, hmember⟩
  · rintro ⟨c, hc, hname, hmember⟩
    exact ⟨c.shown, mem_view_classes.2 ⟨c, hc, rfl⟩, hname, hmember⟩

theorem sorted_view (h : inv.Ordered) : inv.view.Sorted where
  classes := List.pairwise_map.2 h.classes
  members := by
    intro v hv
    obtain ⟨c, hc, rfl⟩ := mem_view_classes.1 hv
    exact h.members c hc
  inhabited := by
    intro v hv
    obtain ⟨c, hc, rfl⟩ := mem_view_classes.1 hv
    exact h.inhabited c hc
  marked := by
    intro v hv
    obtain ⟨c, -, rfl⟩ := mem_view_classes.1 hv
    exact c.hasOnlyStaticInit_iff
  freeFunctions := h.freeFunctions

/-- Looking a class up finds it if it is there. -/
theorem class?_eq_some_iff (h : inv.Ordered) {name : String} {c : ClassRecord} :
    inv.class? name = some c ↔ c.name = name ∧ c ∈ inv.classes := by
  constructor
  · intro hc
    have hname : c.name = name := by simpa using List.find?_some hc
    exact ⟨hname, List.mem_of_find?_eq_some hc⟩
  · rintro ⟨rfl, hc⟩
    cases hd : inv.class? c.name with
    | none => exact absurd (beq_self_eq_true c.name) (List.find?_eq_none.1 hd c hc)
    | some d =>
      have hname : d.name = c.name := by simpa using List.find?_some hd
      rw [h.eq_of_name (List.mem_of_find?_eq_some hd) hc hname]

/-- Ordered inventories with the same view hold the same. -/
theorem view_eq_iff {a b : Inventory} (ha : a.Ordered) (hb : b.Ordered) :
    a.view = b.view ↔ (∀ x y, a.Holds x y ↔ b.Holds x y) ∧
      ∀ f, f ∈ a.freeFunctions ↔ f ∈ b.freeFunctions := by
  constructor
  · intro h
    refine ⟨fun x y => ?_, fun f => ?_⟩
    · rw [← lists_view, ← lists_view, h]
    · have hfree : a.freeFunctions = b.freeFunctions := congrArg InventoryView.freeFunctions h
      rw [hfree]
  · rintro ⟨hholds, hfree⟩
    rw [eq_of_holds ha hb hholds hfree]

/-! ## Views of entries -/

/-- Inventories of the same entries hold the same, and the other way round. -/
theorem mem_iff_mem_iff_holds (a b : List Entry) :
    (∀ e, e ∈ a ↔ e ∈ b) ↔ (∀ x y, (ofEntries a).Holds x y ↔ (ofEntries b).Holds x y) ∧
      ∀ f, f ∈ (ofEntries a).freeFunctions ↔ f ∈ (ofEntries b).freeFunctions := by
  simp only [holds_ofEntries, mem_freeFunctions_ofEntries]
  constructor
  · intro h
    exact ⟨fun x y => h (.member x y), fun f => h (.function f)⟩
  · rintro ⟨hmember, hfunction⟩ e
    cases e with
    | member x y => exact hmember x y
    | function f => exact hfunction f

/-- **A view is a canonical form of what was recorded.**  Views are equal exactly if the same
members and functions were recorded, in whatever order and however often.  Each view is sorted and
lists exactly what was recorded, and looking a class up finds what the view shows of it. -/
theorem view_canonical (entries : List Entry) :
    let inv := ofEntries entries
    (∀ others, inv.view = (ofEntries others).view ↔ ∀ e, e ∈ entries ↔ e ∈ others) ∧
      inv.view.Sorted ∧
      (∀ className member, inv.view.Lists className member ↔ .member className member ∈ entries) ∧
      (∀ f, f ∈ inv.view.freeFunctions ↔ .function f ∈ entries) ∧
      ∀ name c, inv.class? name = some c ↔
        c.name = name ∧ ⟨name, c.hasOnlyStaticInit, c.members⟩ ∈ inv.view.classes := by
  intro inv
  have hinv : inv.Ordered := ordered_ofEntries entries
  refine ⟨fun others => ?_, sorted_view hinv, fun x y => ?_, fun f => ?_, fun name c => ?_⟩
  · rw [mem_iff_mem_iff_holds]
    exact view_eq_iff hinv (ordered_ofEntries others)
  · rw [lists_view]
    exact holds_ofEntries entries x y
  · exact mem_freeFunctions_ofEntries entries f
  · rw [class?_eq_some_iff hinv]
    constructor
    · rintro ⟨rfl, hc⟩
      exact ⟨rfl, mem_view_classes.2 ⟨c, hc, rfl⟩⟩
    · rintro ⟨rfl, hshown⟩
      obtain ⟨d, hd, heq⟩ := mem_view_classes.1 hshown
      have hcd : d = c := ClassRecord.shown_inj heq
      exact ⟨rfl, hcd ▸ hd⟩

end Inventory

end CallTrace
