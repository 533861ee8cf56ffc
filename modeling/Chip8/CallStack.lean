/-!
# The call stack

Sixteen slots for return addresses and a pointer to the first free one.  A call is made only
when a slot is free and a return only when one is taken, so the behaviour of `push` and `pop`
beyond these limits never shows in a run from power-on.  There they follow the rule of memory: a
read saturates at the last slot and a write past it is dropped.  `slot_push` and `slot_pop` say
what the two operations do to the slots, and `snd_pop_push` that a return goes back to the last
call.
-/

namespace Chip8

/-- Return addresses in the slots below the pointer. -/
@[ext]
structure CallStack where
  slots : Vector UInt16 16
  pointer : UInt8
deriving DecidableEq

namespace CallStack

def empty : CallStack := ⟨Vector.replicate 16 0, 0⟩

/-- Whether no return is pending. -/
def isEmpty (c : CallStack) : Bool := c.pointer == 0

/-- Whether no further call can be made. -/
def isFull (c : CallStack) : Bool := decide (16 ≤ c.pointer)

/-- The address in a slot. -/
def slot (c : CallStack) (i : Nat) : UInt16 := c.slots[min i 15]

/-- Replace the address in a slot. -/
def setSlot (c : CallStack) (i : Nat) (a : UInt16) : CallStack :=
  { c with slots := c.slots.setIfInBounds i a }

/-- Save a return address. -/
def push (c : CallStack) (a : UInt16) : CallStack :=
  { c.setSlot c.pointer.toNat a with pointer := c.pointer + 1 }

/-- The address saved last, and the stack without it.  The slot it leaves is cleared. -/
def pop (c : CallStack) : CallStack × UInt16 :=
  let top := c.pointer - 1
  ({ c.setSlot top.toNat 0 with pointer := top }, c.slot top.toNat)

theorem slot_setSlot (c : CallStack) (i j : Nat) (a : UInt16) (hj : j < 16) :
    (c.setSlot i a).slot j = if i = j then a else c.slot j := by
  have : min j 15 = j := Nat.min_eq_left (Nat.le_of_lt_succ hj)
  simp [slot, setSlot, this, Vector.getElem_setIfInBounds]

@[simp] theorem pointer_push (c : CallStack) (a : UInt16) :
    (c.push a).pointer = c.pointer + 1 := rfl

@[simp] theorem pointer_pop (c : CallStack) : c.pop.1.pointer = c.pointer - 1 := rfl

theorem slot_push (c : CallStack) (a : UInt16) (i : Nat) (hi : i < 16) :
    (c.push a).slot i = if c.pointer.toNat = i then a else c.slot i :=
  slot_setSlot c c.pointer.toNat i a hi

theorem slot_pop (c : CallStack) (i : Nat) (hi : i < 16) :
    c.pop.1.slot i = if (c.pointer - 1).toNat = i then 0 else c.slot i :=
  slot_setSlot c (c.pointer - 1).toNat i 0 hi

theorem snd_pop (c : CallStack) : c.pop.2 = c.slot (c.pointer - 1).toNat := rfl

/-- A return goes back to the address that the last call saved. -/
theorem snd_pop_push (c : CallStack) (a : UInt16) (h : c.pointer < 16) :
    (c.push a).pop.2 = a := by
  have hlt : c.pointer.toNat < 16 := UInt8.lt_iff_toNat_lt.1 h
  rw [snd_pop, pointer_push, UInt8.add_sub_cancel, slot_push c a _ hlt, if_pos rfl]

end CallStack

end Chip8
