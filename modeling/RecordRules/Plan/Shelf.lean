import RecordRules.Plan.Basic

set_option autoImplicit false

namespace RecordRules

abbrev Slot := Nat

-- A slot can be handed out before its plan is made, so that the plans of types that refer to each
-- other can be linked. It is filled at most once.
structure Shelf (n : Nat) where
  slots : List (Option (Plan n Slot))
  index : List (Fin n × Slot)

namespace Shelf

variable {n : Nat}

def empty : Shelf n := ⟨[], []⟩

def ids (shelf : Shelf n) : List (Fin n) := shelf.index.map (·.1)

def slot? (shelf : Shelf n) (id : Fin n) : Option Slot := shelf.index.lookup id

def inSlot? (shelf : Shelf n) (slot : Slot) : Option (Plan n Slot) := shelf.slots[slot]?.join

def plan? (shelf : Shelf n) (id : Fin n) : Option (Plan n Slot) := (shelf.slot? id).bind shelf.inSlot?

def size (shelf : Shelf n) : Nat := shelf.index.countP (fun entry => (shelf.inSlot? entry.2).isSome)

def nextSlot (shelf : Shelf n) : Slot := shelf.slots.length

def hold (shelf : Shelf n) (content : Option (Plan n Slot)) : Shelf n :=
  { shelf with slots := shelf.slots ++ [content] }

def place (shelf : Shelf n) (id : Fin n) (slot : Slot) : Shelf n :=
  { shelf with index := (id, slot) :: shelf.index.filter (·.1 ≠ id) }

def fill (shelf : Shelf n) (slot : Slot) (plan : Plan n Slot) : Shelf n :=
  { shelf with slots := shelf.slots.modify slot (·.or (some plan)) }

-- Takes record types out of the index, and gives back all slots but the first `count`.
def withdraw (shelf : Shelf n) (ids : List (Fin n)) (count : Nat) : Shelf n :=
  ⟨shelf.slots.take count, shelf.index.filter (fun entry => !ids.contains entry.1)⟩

theorem ids_place (shelf : Shelf n) (id : Fin n) (slot : Slot) :
    (shelf.place id slot).ids = id :: shelf.ids.filter (· ≠ id) := by
  simp [ids, place, List.filter_map, Function.comp_def]

theorem slot_place (shelf : Shelf n) (id other : Fin n) (slot : Slot) :
    (shelf.place id slot).slot? other = if other = id then some slot else shelf.slot? other := by
  by_cases same : other = id
  · simp [slot?, place, same]
  · have kept : ∀ entries : List (Fin n × Slot),
        (entries.filter (·.1 ≠ id)).lookup other = entries.lookup other := by
      intro entries
      induction entries with
      | nil => rfl
      | cons entry rest ih =>
          obtain ⟨key, old⟩ := entry
          by_cases removed : key = id
          · simp [List.lookup_cons, removed, beq_false_of_ne same, ← ih]
          · simp [List.lookup_cons, removed, ← ih]
    simpa [slot?, place, List.lookup_cons, beq_false_of_ne same, same] using kept shelf.index

theorem in_slot_hold (shelf : Shelf n) (content : Option (Plan n Slot)) (slot : Slot) :
    (shelf.hold content).inSlot? slot =
      if slot = shelf.nextSlot then content else shelf.inSlot? slot := by
  rw [inSlot?, inSlot?, hold, nextSlot]
  rcases Nat.lt_trichotomy slot shelf.slots.length with before | same | behind
  · rw [List.getElem?_append_left before, if_neg (Nat.ne_of_lt before)]
  · simp [same]
  · rw [if_neg (Nat.ne_of_gt behind), List.getElem?_eq_none (Nat.le_of_lt behind),
      List.getElem?_eq_none (by rw [List.length_append]; exact behind)]

theorem in_slot_fill (shelf : Shelf n) (slot other : Slot) (plan : Plan n Slot)
    (there : slot < shelf.slots.length) (pending : shelf.inSlot? slot = none) :
    (shelf.fill slot plan).inSlot? other =
      if other = slot then some plan else shelf.inSlot? other := by
  rw [inSlot?, inSlot?, fill, List.getElem?_modify]
  by_cases same : other = slot
  · subst same
    rw [inSlot?, List.getElem?_eq_getElem there] at pending
    simp_all
  · simp [same, Ne.symm same]

theorem slot_isSome (shelf : Shelf n) (id : Fin n) : (shelf.slot? id).isSome ↔ id ∈ shelf.ids := by
  simp [slot?, ids]

theorem slot_eq_none (shelf : Shelf n) (id : Fin n) : shelf.slot? id = none ↔ id ∉ shelf.ids := by
  rw [← slot_isSome, Option.not_isSome_iff_eq_none]

end Shelf

end RecordRules
