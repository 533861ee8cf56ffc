/-!
# Memory

4096 bytes.  Reading saturates at the last byte and writing past the end is dropped, so both are
total; the instructions check their addresses first, and `read_write` describes every access they
make.
-/

namespace Chip8

/-- The memory of the machine. -/
@[ext]
structure Memory where
  bytes : Vector UInt8 4096
deriving DecidableEq

namespace Memory

/-- The number of bytes. -/
def size : Nat := 4096

def blank : Memory := ⟨Vector.replicate 4096 0⟩

/-- The byte at an address. -/
def read (m : Memory) (a : Nat) : UInt8 := m.bytes[min a 4095]

/-- Replace the byte at an address. -/
def write (m : Memory) (a : Nat) (b : UInt8) : Memory := ⟨m.bytes.setIfInBounds a b⟩

/-- The bytes of a range of addresses. -/
def slice (m : Memory) (a count : Nat) : List UInt8 :=
  (List.range count).map fun i => m.read (a + i)

/-- Write bytes to consecutive addresses, leaving out the addresses that `keep` rejects. -/
def storeWhere (keep : Nat → Bool) (m : Memory) (a : Nat) : List UInt8 → Memory
  | [] => m
  | b :: bs => storeWhere keep (if keep a then m.write a b else m) (a + 1) bs

/-- Write bytes to consecutive addresses. -/
def store (m : Memory) (a : Nat) (bs : List UInt8) : Memory := m.storeWhere (fun _ => true) a bs

@[simp] theorem length_slice (m : Memory) (a count : Nat) : (m.slice a count).length = count := by
  rw [slice, List.length_map, List.length_range]

theorem getD_slice (m : Memory) (a count i : Nat) (hi : i < count) :
    (m.slice a count).getD i 0 = m.read (a + i) := by
  simp [slice, hi]

/-! ## Reading after writing -/

/-- Two memories that read the same at every address are the same. -/
theorem ext_read {m m' : Memory} (h : ∀ a, a < 4096 → m.read a = m'.read a) : m = m' := by
  refine Memory.ext (Vector.ext fun a ha => ?_)
  have hmin : min a 4095 = a := Nat.min_eq_left (Nat.le_of_lt_succ ha)
  have := h a ha
  simpa only [read, hmin] using this

theorem read_write (m : Memory) (a k : Nat) (b : UInt8) (hk : k < 4096) :
    (m.write a b).read k = if a = k then b else m.read k := by
  have : min k 4095 = k := Nat.min_eq_left (Nat.le_of_lt_succ hk)
  simp [read, write, this, Vector.getElem_setIfInBounds]

theorem read_storeWhere (keep : Nat → Bool) (m : Memory) (a k : Nat) (bs : List UInt8)
    (hk : k < 4096) :
    (m.storeWhere keep a bs).read k =
      if a ≤ k ∧ k < a + bs.length ∧ keep k = true then bs.getD (k - a) 0 else m.read k := by
  induction bs generalizing m a with
  | nil =>
    rw [storeWhere, if_neg]
    simp only [List.length_nil]
    omega
  | cons b bs ih =>
    rw [storeWhere, ih]
    by_cases hak : a = k
    · subst hak
      have hout : ¬ (a + 1 ≤ a ∧ a < a + 1 + bs.length ∧ keep a = true) := by omega
      rw [if_neg hout]
      by_cases hkeep : keep a = true
      · have hin : a ≤ a ∧ a < a + (b :: bs).length ∧ keep a = true :=
          ⟨Nat.le_refl a, by simp only [List.length_cons]; omega, hkeep⟩
        rw [if_pos hkeep, if_pos hin, read_write _ _ _ _ hk, if_pos rfl, Nat.sub_self,
          List.getD_cons_zero]
      · rw [if_neg hkeep, if_neg fun hc => hkeep hc.2.2]
    · have hread : (if keep a = true then m.write a b else m).read k = m.read k := by
        split
        · rw [read_write _ _ _ _ hk, if_neg hak]
        · rfl
      rw [hread]
      by_cases hin : a ≤ k ∧ k < a + (b :: bs).length ∧ keep k = true
      · have hlt : k < a + 1 + bs.length := by
          have := hin.2.1
          simp only [List.length_cons] at this
          omega
        have hsub : k - a = (k - (a + 1)) + 1 := by omega
        rw [if_pos ⟨by omega, hlt, hin.2.2⟩, if_pos hin, hsub, List.getD_cons_succ]
      · rw [if_neg hin, if_neg]
        simp only [List.length_cons] at hin
        intro h
        exact hin ⟨by omega, by omega, h.2.2⟩

theorem read_store (m : Memory) (a k : Nat) (bs : List UInt8) (hk : k < 4096) :
    (m.store a bs).read k =
      if a ≤ k ∧ k < a + bs.length then bs.getD (k - a) 0 else m.read k := by
  simp [store, read_storeWhere _ _ _ _ _ hk]

end Memory

end Chip8
