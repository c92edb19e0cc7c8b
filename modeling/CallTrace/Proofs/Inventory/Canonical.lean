import CallTrace.Calls.Classification
import Mathlib.Data.Finset.Sort
import Mathlib.Data.String.Basic

/-!
# Inventories as sets of calls

An inventory in increasing order is determined by the members and functions that it holds
(`eq_of_holds`).  Recording an entry keeps the order and adds exactly this entry (`holds_record`,
`mem_freeFunctions_record`).  So the inventory made by recording calls one after the other is the
one read off the set of these calls (`recordAll_eq_ofCalls`): neither order nor repetition of the
calls matters.
-/

namespace CallTrace

/-! ## What a call adds -/

namespace Classification

/-- The class and the member that the call adds. -/
def member? : Classification → Option (String × String)
  | .member _ className called => some (className, called)
  | .free _ _ => none

/-- The free function that the call adds. -/
def function? : Classification → Option String
  | .member _ _ _ => none
  | .free _ function => some function

end Classification

/-- Names in increasing order, each once. -/
def inOrder (names : List String) : List String := names.toFinset.sort

theorem mem_inOrder (names : List String) (x : String) : x ∈ inOrder names ↔ x ∈ names := by
  simp [inOrder]

theorem inOrder_increasing (names : List String) : (inOrder names).Pairwise (· < ·) :=
  List.sortedLT_iff_pairwise.1 (Finset.sortedLT_sort _)

theorem inOrder_ne_nil (names : List String) (h : names ≠ []) : inOrder names ≠ [] := by
  obtain ⟨x, hx⟩ := List.exists_mem_of_ne_nil _ h
  exact List.ne_nil_of_mem ((mem_inOrder names x).2 hx)

/-! ## What an inventory holds -/

namespace Inventory

/-- The member is listed under the class. -/
def Holds (inv : Inventory) (className member : String) : Prop :=
  ∃ c ∈ inv.classes, c.name = className ∧ member ∈ c.members

/-- Classes, their members and free functions increase, and no class is without members. -/
structure Ordered (inv : Inventory) : Prop where
  classes : inv.classes.Pairwise (·.name < ·.name)
  members : ∀ c ∈ inv.classes, c.members.Pairwise (· < ·)
  inhabited : ∀ c ∈ inv.classes, c.members ≠ []
  freeFunctions : inv.freeFunctions.Pairwise (· < ·)

/-- Of each name there is one class only. -/
theorem Ordered.eq_of_name {inv : Inventory} (h : inv.Ordered) {c d : ClassRecord}
    (hc : c ∈ inv.classes) (hd : d ∈ inv.classes) (hn : c.name = d.name) : c = d := by
  have hnames : (inv.classes.map ClassRecord.name).Nodup := by
    refine List.pairwise_map.2 (h.classes.imp fun hlt => ?_)
    exact ne_of_lt hlt
  exact List.inj_on_of_nodup_map hnames hc hd hn

theorem Ordered.holds_iff {inv : Inventory} (h : inv.Ordered) {c : ClassRecord}
    (hc : c ∈ inv.classes) (member : String) : inv.Holds c.name member ↔ member ∈ c.members := by
  constructor
  · rintro ⟨d, hd, hn, hm⟩
    rwa [h.eq_of_name hc hd hn.symm]
  · intro hm
    exact ⟨c, hc, rfl, hm⟩

/-- A class of one inventory is a class of any other that holds the same. -/
theorem mem_classes_of_holds {a b : Inventory} (ha : a.Ordered) (hb : b.Ordered)
    (h : ∀ className member, a.Holds className member ↔ b.Holds className member)
    {c : ClassRecord} (hc : c ∈ a.classes) : c ∈ b.classes := by
  obtain ⟨m, hm⟩ := List.exists_mem_of_ne_nil _ (ha.inhabited c hc)
  obtain ⟨d, hd, hn, -⟩ := (h c.name m).1 ⟨c, hc, rfl, hm⟩
  have hmem : ∀ x, x ∈ c.members ↔ x ∈ d.members := by
    intro x
    rw [← ha.holds_iff hc x, ← hb.holds_iff hd x, hn]
    exact h c.name x
  have hlist : c.members = d.members := (ha.members c hc).eq_of_mem_iff (hb.members d hd) hmem
  have : c = d := by
    cases c; cases d
    simp_all
  rwa [this]

/-- An ordered inventory is determined by what it holds. -/
theorem eq_of_holds {a b : Inventory} (ha : a.Ordered) (hb : b.Ordered)
    (h : ∀ className member, a.Holds className member ↔ b.Holds className member)
    (hf : ∀ f, f ∈ a.freeFunctions ↔ f ∈ b.freeFunctions) : a = b := by
  have hclasses : a.classes = b.classes := by
    have hsymm : ∀ className member, b.Holds className member ↔ a.Holds className member :=
      fun className member => (h className member).symm
    have hperm : a.classes.Perm b.classes := by
      refine (List.perm_ext_iff_of_nodup ?_ ?_).2 fun c => ?_
      · exact ha.classes.imp fun hlt heq => ne_of_lt hlt (congrArg ClassRecord.name heq)
      · exact hb.classes.imp fun hlt heq => ne_of_lt hlt (congrArg ClassRecord.name heq)
      · exact ⟨mem_classes_of_holds ha hb h, mem_classes_of_holds hb ha hsymm⟩
    exact hperm.eq_of_pairwise (fun _ _ _ _ h₁ h₂ => absurd h₂ (lt_asymm h₁)) ha.classes hb.classes
  have hfree : a.freeFunctions = b.freeFunctions :=
    ha.freeFunctions.eq_of_mem_iff hb.freeFunctions hf
  cases a; cases b
  simp_all

/-! ## Recording -/

theorem mem_insertMember {className member : String} {classes : List ClassRecord} {c : ClassRecord}
    (h : c ∈ insertMember className member classes) :
    c ∈ classes ∨ c = ⟨className, [member]⟩
      ∨ ∃ d ∈ classes, className = d.name ∧
        c = { d with members := insertName member d.members } := by
  induction classes with
  | nil => exact .inr (.inl (List.mem_singleton.1 h))
  | cons d rest ih =>
    rw [insertMember] at h
    split at h
    · rcases List.mem_cons.1 h with h | h
      · exact .inr (.inl h)
      · exact .inl h
    · split at h
      · next hn =>
        rcases List.mem_cons.1 h with h | h
        · exact .inr (.inr ⟨d, List.mem_cons_self, hn, h⟩)
        · exact .inl (List.mem_cons_of_mem _ h)
      · rcases List.mem_cons.1 h with rfl | h
        · exact .inl List.mem_cons_self
        · rcases ih h with h | h | ⟨e, he, hn, hc⟩
          · exact .inl (List.mem_cons_of_mem _ h)
          · exact .inr (.inl h)
          · exact .inr (.inr ⟨e, List.mem_cons_of_mem _ he, hn, hc⟩)

theorem name_of_mem_insertMember {className member : String} {classes : List ClassRecord}
    {c : ClassRecord} (h : c ∈ insertMember className member classes) :
    c.name = className ∨ ∃ d ∈ classes, c.name = d.name := by
  rcases mem_insertMember h with h | rfl | ⟨d, hd, -, rfl⟩
  · exact .inr ⟨c, h, rfl⟩
  · exact .inl rfl
  · exact .inr ⟨d, hd, rfl⟩

theorem insertMember_increasing (className member : String) (classes : List ClassRecord)
    (h : classes.Pairwise (·.name < ·.name)) :
    (insertMember className member classes).Pairwise (·.name < ·.name) := by
  induction classes with
  | nil => simp [insertMember]
  | cons d rest ih =>
    obtain ⟨hd, hrest⟩ := List.pairwise_cons.1 h
    rw [insertMember]
    split
    · next hlt =>
      refine List.pairwise_cons.2 ⟨fun c hc => ?_, h⟩
      rcases List.mem_cons.1 hc with rfl | hc
      · exact hlt
      · exact lt_trans hlt (hd c hc)
    · next hge =>
      split
      · exact List.pairwise_cons.2 ⟨hd, hrest⟩
      · next hne =>
        refine List.pairwise_cons.2 ⟨fun c hc => ?_, ih hrest⟩
        rcases name_of_mem_insertMember hc with hn | ⟨e, he, hn⟩
        · rw [hn]
          exact lt_of_le_of_ne (not_lt.1 hge) (Ne.symm hne)
        · rw [hn]
          exact hd e he

/-- Exactly the inserted member is new. -/
theorem exists_mem_insertMember (className member x y : String) (classes : List ClassRecord) :
    (∃ c ∈ insertMember className member classes, c.name = x ∧ y ∈ c.members)
      ↔ (x = className ∧ y = member) ∨ ∃ c ∈ classes, c.name = x ∧ y ∈ c.members := by
  induction classes with
  | nil => simp [insertMember, eq_comm]
  | cons d rest ih =>
    rw [insertMember]
    split
    · simp [eq_comm]
    · split
      · next hn =>
        simp only [List.exists_mem_cons_iff, mem_insertName, hn]
        constructor
        · rintro (⟨rfl, rfl | hy⟩ | h)
          · exact .inl ⟨rfl, rfl⟩
          · exact .inr (.inl ⟨rfl, hy⟩)
          · exact .inr (.inr h)
        · rintro (⟨rfl, rfl⟩ | ⟨rfl, hy⟩ | h)
          · exact .inl ⟨rfl, .inl rfl⟩
          · exact .inl ⟨rfl, .inr hy⟩
          · exact .inr h
      · simp only [List.exists_mem_cons_iff, ih]
        constructor
        · rintro (h | h | h)
          · exact .inr (.inl h)
          · exact .inl h
          · exact .inr (.inr h)
        · rintro (h | h | h)
          · exact .inr (.inl h)
          · exact .inl h
          · exact .inr (.inr h)

/-! ## Entries -/

/-- What can be recorded: a member of a class, or a free function. -/
inductive Entry
  | member (className member : String)
  | function (name : String)
deriving DecidableEq, Repr

def record (inv : Inventory) : Entry → Inventory
  | .member className member => inv.recordMember className member
  | .function name => inv.recordFunction name

/-- Records entries one after the other. -/
def ofEntries (entries : List Entry) : Inventory := entries.foldl record empty

theorem ofEntries_append (entries : List Entry) (e : Entry) :
    ofEntries (entries ++ [e]) = (ofEntries entries).record e := by
  rw [ofEntries, List.foldl_append]
  rfl

theorem ordered_empty : empty.Ordered :=
  ⟨.nil, fun _ h => absurd h (List.not_mem_nil), fun _ h => absurd h (List.not_mem_nil), .nil⟩

theorem ordered_record {inv : Inventory} (h : inv.Ordered) (e : Entry) :
    (inv.record e).Ordered := by
  cases e with
  | function name =>
    exact ⟨h.classes, h.members, h.inhabited, insertName_increasing _ _ h.freeFunctions⟩
  | member className member =>
    refine ⟨insertMember_increasing _ _ _ h.classes, fun c hc => ?_, fun c hc => ?_,
      h.freeFunctions⟩
    · rcases mem_insertMember hc with hc | rfl | ⟨d, hd, -, rfl⟩
      · exact h.members c hc
      · exact List.pairwise_singleton _ _
      · exact insertName_increasing _ _ (h.members d hd)
    · rcases mem_insertMember hc with hc | rfl | ⟨d, hd, -, rfl⟩
      · exact h.inhabited c hc
      · exact List.cons_ne_nil _ _
      · exact List.ne_nil_of_mem ((mem_insertName member member d.members).2 (.inl rfl))

theorem holds_record (inv : Inventory) (e : Entry) (x y : String) :
    (inv.record e).Holds x y ↔ e = .member x y ∨ inv.Holds x y := by
  cases e with
  | function name => simp [record, recordFunction, Holds]
  | member className member =>
    show (∃ c ∈ insertMember className member inv.classes, _) ↔ _
    rw [exists_mem_insertMember]
    simp [Holds, eq_comm]

theorem mem_freeFunctions_record (inv : Inventory) (e : Entry) (f : String) :
    f ∈ (inv.record e).freeFunctions ↔ e = .function f ∨ f ∈ inv.freeFunctions := by
  cases e with
  | member className member => simp [record, recordMember]
  | function name =>
    show f ∈ insertName name inv.freeFunctions ↔ _
    rw [mem_insertName]
    simp [eq_comm]

theorem ordered_ofEntries (entries : List Entry) : (ofEntries entries).Ordered := by
  induction entries using List.reverseRecOn with
  | nil => exact ordered_empty
  | append_singleton entries e ih =>
    rw [ofEntries_append]
    exact ordered_record ih e

theorem holds_ofEntries (entries : List Entry) (x y : String) :
    (ofEntries entries).Holds x y ↔ .member x y ∈ entries := by
  induction entries using List.reverseRecOn with
  | nil => simp [ofEntries, empty, Holds]
  | append_singleton entries e ih =>
    rw [ofEntries_append, holds_record, ih, List.mem_append, List.mem_singleton, or_comm]
    simp [eq_comm]

theorem mem_freeFunctions_ofEntries (entries : List Entry) (f : String) :
    f ∈ (ofEntries entries).freeFunctions ↔ .function f ∈ entries := by
  induction entries using List.reverseRecOn with
  | nil => simp [ofEntries, empty]
  | append_singleton entries e ih =>
    rw [ofEntries_append, mem_freeFunctions_record, ih, List.mem_append, List.mem_singleton,
      or_comm]
    simp [eq_comm]

end Inventory

/-! ## Calls -/

def Classification.entry : Classification → Inventory.Entry
  | .member _ className called => .member className called
  | .free _ function => .function function

theorem Classification.recordInto_eq_record (c : Classification) (inv : Inventory) :
    c.recordInto inv = inv.record c.entry := by
  cases c <;> rfl

theorem Classification.entry_eq_member (c : Classification) (x y : String) :
    c.entry = .member x y ↔ c.member? = some (x, y) := by
  cases c <;> simp [entry, member?]

theorem Classification.entry_eq_function (c : Classification) (f : String) :
    c.entry = .function f ↔ c.function? = some f := by
  cases c <;> simp [entry, function?]

/-- Records calls one after the other. -/
def Inventory.recordAll (calls : List Classification) : Inventory :=
  calls.foldl (fun inv c => c.recordInto inv) .empty

namespace Inventory

theorem recordAll_append (calls : List Classification) (c : Classification) :
    recordAll (calls ++ [c]) = c.recordInto (recordAll calls) := by
  rw [recordAll, List.foldl_append]
  rfl

theorem recordAll_eq_ofEntries (calls : List Classification) :
    recordAll calls = ofEntries (calls.map Classification.entry) := by
  rw [recordAll, ofEntries, List.foldl_map]
  simp only [Classification.recordInto_eq_record]

theorem ordered_recordAll (calls : List Classification) : (recordAll calls).Ordered := by
  rw [recordAll_eq_ofEntries]
  exact ordered_ofEntries _

theorem holds_recordAll (calls : List Classification) (x y : String) :
    (recordAll calls).Holds x y ↔ (x, y) ∈ calls.filterMap Classification.member? := by
  rw [recordAll_eq_ofEntries, holds_ofEntries, List.mem_map, List.mem_filterMap]
  simp only [Classification.entry_eq_member]

theorem mem_freeFunctions_recordAll (calls : List Classification) (f : String) :
    f ∈ (recordAll calls).freeFunctions ↔ f ∈ calls.filterMap Classification.function? := by
  rw [recordAll_eq_ofEntries, mem_freeFunctions_ofEntries, List.mem_map, List.mem_filterMap]
  simp only [Classification.entry_eq_function]

/-! ## Reading an inventory off the calls -/

def ofCalls (calls : List Classification) : Inventory :=
  let members := calls.filterMap Classification.member?
  { classes := (inOrder (members.map Prod.fst)).map fun name =>
      ⟨name, inOrder ((members.filter fun p => p.1 = name).map Prod.snd)⟩
    freeFunctions := inOrder (calls.filterMap Classification.function?) }

theorem holds_ofCalls (calls : List Classification) (x y : String) :
    (ofCalls calls).Holds x y ↔ (x, y) ∈ calls.filterMap Classification.member? := by
  unfold Holds ofCalls
  simp only [List.mem_map, mem_inOrder]
  constructor
  · rintro ⟨c, ⟨name, -, rfl⟩, rfl, hy⟩
    simp only [mem_inOrder, List.mem_map, List.mem_filter, decide_eq_true_eq] at hy
    obtain ⟨⟨x, y⟩, ⟨hp, rfl⟩, rfl⟩ := hy
    exact hp
  · intro h
    refine ⟨_, ⟨x, ⟨(x, y), h, rfl⟩, rfl⟩, rfl, ?_⟩
    rw [mem_inOrder]
    exact List.mem_map.2 ⟨(x, y), List.mem_filter.2 ⟨h, by simp⟩, rfl⟩

theorem ordered_ofCalls (calls : List Classification) : (ofCalls calls).Ordered where
  classes := List.pairwise_map.2 (inOrder_increasing _)
  members := by
    intro c hc
    obtain ⟨name, -, rfl⟩ := List.mem_map.1 hc
    exact inOrder_increasing _
  inhabited := by
    intro c hc
    obtain ⟨name, hname, rfl⟩ := List.mem_map.1 hc
    rw [mem_inOrder] at hname
    obtain ⟨⟨x, y⟩, hp, rfl⟩ := List.mem_map.1 hname
    apply inOrder_ne_nil
    exact List.ne_nil_of_mem (List.mem_map.2 ⟨(x, y), List.mem_filter.2 ⟨hp, by simp⟩, rfl⟩)
  freeFunctions := inOrder_increasing _

/-- Recording calls one by one gives the inventory of the set of the calls. -/
theorem recordAll_eq_ofCalls (calls : List Classification) : recordAll calls = ofCalls calls := by
  apply eq_of_holds (ordered_recordAll calls) (ordered_ofCalls calls)
  · intro x y
    rw [holds_recordAll, holds_ofCalls]
  · intro f
    rw [mem_freeFunctions_recordAll]
    exact (mem_inOrder _ f).symm

end Inventory

end CallTrace
