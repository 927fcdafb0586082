/-
The memo of a resolution: for each data type met so far either its descriptor
or, while its typedef is being followed, a mark.

The slots are a partial map from data types, kept as an array that grows to the
highest one marked. `slot?_put` and `slot?_clearSlot` say all there is to know
about it.
-/
import SchemaTypes.Resolution.Descriptor

namespace SchemaTypes

inductive Slot where
  /-- The data type names a typedef that is being followed. -/
  | inProgress (t : TypedefId)
  /-- The place of the data type's descriptor. -/
  | resolved (place : Nat)
deriving DecidableEq, Repr

structure Memo where
  slots : Array (Option Slot) := #[]
  /-- The descriptors in the order in which they were found. -/
  descriptors : Array Descriptor := #[]
deriving DecidableEq, Repr

namespace Memo

def empty : Memo := {}

def slot? (m : Memo) (id : DataTypeId) : Option Slot :=
  m.slots[id.index]?.join

/-- The slots with a place written, which are made to reach it first. -/
def writeSlot (slots : Array (Option Slot)) (i : Nat) (v : Option Slot) : Array (Option Slot) :=
  if i < slots.size then slots.setIfInBounds i v
  else (slots ++ Array.replicate (i - slots.size) none).push v

def put (m : Memo) (id : DataTypeId) (slot : Slot) : Memo :=
  { m with slots := writeSlot m.slots id.index (some slot) }

/-- Marks a data type while the typedef that it names is followed. -/
def mark (m : Memo) (id : DataTypeId) (t : TypedefId) : Memo :=
  m.put id (.inProgress t)

/-- Takes the slot of a data type away. -/
def clearSlot (m : Memo) (id : DataTypeId) : Memo :=
  { m with slots := writeSlot m.slots id.index none }

/-- Appends a descriptor and makes it that of its origin. -/
def remember (m : Memo) (d : Descriptor) : Memo :=
  { m.put d.origin (.resolved m.descriptors.size) with descriptors := m.descriptors.push d }

/-- The descriptor of a data type that was resolved before. -/
def get? (m : Memo) (id : DataTypeId) : Option Descriptor :=
  match m.slot? id with
  | some (.resolved place) => m.descriptors[place]?
  | _ => none

/-- The memo with everything forgotten. Handles of different schemas look alike, so a memo is
cleared before it serves another one. -/
def clear (_ : Memo) : Memo :=
  .empty

/-- The number of descriptors. -/
def size (m : Memo) : Nat :=
  m.descriptors.size

def isEmpty (m : Memo) : Bool :=
  m.descriptors.isEmpty

/-! ## The slots are a map -/

theorem join_getElem?_writeSlot (slots : Array (Option Slot)) (i j : Nat) (v : Option Slot) :
    (writeSlot slots i v)[j]?.join = if i = j then v else slots[j]?.join := by
  unfold writeSlot
  split
  · rename_i h
    rw [Array.getElem?_setIfInBounds]
    by_cases hij : i = j
    · simp [hij, hij ▸ h]
    · simp [hij]
  · rename_i h
    rw [Array.getElem?_push]
    have hsize : (slots ++ Array.replicate (i - slots.size) none).size = i := by
      simp; omega
    rw [hsize]
    by_cases hij : i = j
    · simp [hij]
    · have hji : ¬j = i := fun e => hij e.symm
      simp only [hji, if_false, hij]
      by_cases hj : j < slots.size
      · rw [Array.getElem?_append_left hj]
      · rw [Array.getElem?_append_right (by omega), Array.getElem?_replicate,
          Array.getElem?_eq_none (by omega)]
        split <;> rfl

@[simp]
theorem slot?_put (m : Memo) (id other : DataTypeId) (slot : Slot) :
    (m.put id slot).slot? other = if id = other then some slot else m.slot? other := by
  obtain ⟨i⟩ := id
  obtain ⟨j⟩ := other
  simp [slot?, put, join_getElem?_writeSlot]

@[simp]
theorem slot?_mark (m : Memo) (id other : DataTypeId) (t : TypedefId) :
    (m.mark id t).slot? other = if id = other then some (.inProgress t) else m.slot? other :=
  slot?_put m id other _

@[simp]
theorem slot?_clearSlot (m : Memo) (id other : DataTypeId) :
    (m.clearSlot id).slot? other = if id = other then none else m.slot? other := by
  obtain ⟨i⟩ := id
  obtain ⟨j⟩ := other
  simp [slot?, clearSlot, join_getElem?_writeSlot]

@[simp]
theorem slot?_remember (m : Memo) (d : Descriptor) (other : DataTypeId) :
    (m.remember d).slot? other =
      if d.origin = other then some (.resolved m.descriptors.size) else m.slot? other :=
  slot?_put m d.origin other _

end Memo

end SchemaTypes
