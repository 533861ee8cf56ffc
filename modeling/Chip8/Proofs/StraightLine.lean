import Chip8.Proofs.Loading
import Chip8.Proofs.ProgramCounter
import Chip8.Proofs.Writes

/-!
# Straight-line programs

A straight word never faults, leaves the program counter to the fetch and does not write memory.
So a program of straight words, once it is loaded, is fetched from its first word to its last, and a
run of it comes to executing the words of the list one after the other
(`straight_line_refines_list`).
-/

namespace Chip8

namespace Word

/-- The bytes of a word, the high one first. -/
def bytes (w : Word) : List UInt8 := [(w >>> 8).toUInt8, nn w]

/-- Whether a word belongs to straight-line code: it cannot fault, neither jumps, skips nor waits,
and does not write memory. -/
def IsStraight (w : Word) : Prop :=
  (group w = 0x0 ∧ w ≠ 0x00EE) ∨ group w ∈ [0x6, 0x7, 0x8, 0xA, 0xC] ∨
    IsDevice w [0x07, 0x15, 0x18, 0x1E, 0x29] ∨ IsUndefined w

instance (w : Word) : Decidable (IsStraight w) :=
  inferInstanceAs (Decidable (_ ∨ _ ∨ (_ ∧ _) ∨ _))

theorem ofBytes_bytes (w : Word) : ofBytes (w >>> 8).toUInt8 (nn w) = w := by
  have hw := w.toNat_lt
  have hhigh : (w >>> 8).toUInt8.toNat = w.toNat / 256 := by
    rw [UInt16.toNat_toUInt8, UInt16.toNat_shiftRight]
    change w.toNat >>> 8 % 256 = _
    rw [Nat.shiftRight_eq_div_pow]
    omega
  have hlow : (nn w).toNat = w.toNat % 256 := UInt16.toNat_toUInt8 w
  rw [ofBytes_eq, hhigh, hlow, Nat.div_add_mod]
  exact UInt16.ofNat_toNat

theorem length_flatMap_bytes (ws : List Word) : (ws.flatMap bytes).length = 2 * ws.length := by
  induction ws with
  | nil => rfl
  | cons w ws ih =>
    rw [List.flatMap_cons, List.length_append, ih, List.length_cons]
    change 2 + 2 * ws.length = _
    omega

end Word

/-- Whether an instruction is the meaning of a straight word. -/
def Instruction.isStraight : Instruction → Bool
  | .clear | .hostRoutine _ | .setByte _ _ | .addByte _ _ | .arithmetic _ _ _ | .setIndex _
  | .random _ _ | .readDelay _ | .setDelay _ | .setSound _ | .addIndex _ | .glyph _
  | .undefined _ => true
  | _ => false

/-! ## Words in memory -/

namespace Memory

/-- The words from an address on are these. -/
def HoldsWords (m : Memory) (a : Nat) : List Word → Prop
  | [] => True
  | w :: ws => Word.ofBytes (m.read a) (m.read (a + 1)) = w ∧ HoldsWords m (a + 2) ws

theorem holdsWords_store (m : Memory) {a : Nat} {ws : List Word} (h : a + 2 * ws.length ≤ 4096) :
    (m.store a (ws.flatMap Word.bytes)).HoldsWords a ws := by
  induction ws generalizing m a with
  | nil => trivial
  | cons w ws ih =>
    rw [List.length_cons] at h
    let m' := (m.write a (w >>> 8).toUInt8).write (a + 1) (Word.nn w)
    have hstore : m.store a ((w :: ws).flatMap Word.bytes) =
        m'.store (a + 2) (ws.flatMap Word.bytes) := rfl
    -- The later words are stored behind the two bytes of the first one.
    have hhigh : (m'.store (a + 2) (ws.flatMap Word.bytes)).read a = (w >>> 8).toUInt8 := by
      rw [read_store_of_outside _ _ (by omega) (.inl (by omega)),
        read_write _ _ _ _ (by omega), if_neg (by omega), read_write _ _ _ _ (by omega),
        if_pos rfl]
    have hlow : (m'.store (a + 2) (ws.flatMap Word.bytes)).read (a + 1) = Word.nn w := by
      rw [read_store_of_outside _ _ (by omega) (.inl (by omega)),
        read_write _ _ _ _ (by omega), if_pos rfl]
    rw [hstore, HoldsWords, hhigh, hlow]
    exact ⟨w.ofBytes_bytes, ih m' (by omega)⟩

end Memory

/-! ## Straight instructions -/

namespace Instruction

variable {i : Instruction}

theorem steers_of_isStraight (hi : i.isStraight = true) : i.steers = false := by
  cases i with
  | ret | jump | call | skipIfByte | skipUnlessByte | skipIfEqual | skipUnlessEqual | jumpOffset
  | skipIfDown | skipIfUp | awaitKey => cases hi
  | _ => rfl

theorem obstacle_of_isStraight (hi : i.isStraight = true) (s : State) : s.obstacle i = none := by
  cases i with
  | ret | call | draw | storeDecimal | storeRegisters | loadRegisters => cases hi
  | _ => rfl

theorem not_writes_memory_of_isStraight (hi : i.isStraight = true) : ¬ i.Writes .memory := by
  cases i with
  | storeDecimal | storeRegisters => cases hi
  | _ => simp [Writes]

theorem isStraight_of_hasForm {w : Word} (hw : w.IsStraight) (hform : i.HasForm w) :
    i.isStraight = true := by
  cases i with
  | ret =>
    cases hform
    revert hw
    decide
  | jump | call | jumpOffset | draw =>
    simp [Word.IsStraight, Word.IsDevice, Word.IsUndefined, hform.1] at hw
  | skipIfByte | skipUnlessByte =>
    simp [Word.IsStraight, Word.IsDevice, Word.IsUndefined, hform.1] at hw
  | skipIfEqual | skipUnlessEqual | skipIfDown | skipIfUp | awaitKey | storeDecimal
  | storeRegisters | loadRegisters =>
    simp [Word.IsStraight, Word.IsDevice, Word.IsUndefined, hform.1, hform.2.1] at hw
  | _ => rfl

theorem isStraight_decode {w : Word} (hw : w.IsStraight) : (decode w).isStraight = true :=
  isStraight_of_hasForm hw (hasForm_decode w)

end Instruction

namespace State

variable {s : State} {w : Word}

/-! ## One word -/

theorem execute_withPc (hw : w.IsStraight) (pc : UInt16) :
    { s with pc := pc }.execute w = { s.execute w with pc := pc } := by
  have hi := Instruction.isStraight_decode hw
  exact perform_withPc (s := { s with opcode := w }) (Instruction.steers_of_isStraight hi)
    (Instruction.obstacle_of_isStraight hi _) pc

theorem fault_execute (hw : w.IsStraight) : (s.execute w).fault = s.fault :=
  fault_perform (s := { s with opcode := w })
    (Instruction.obstacle_of_isStraight (Instruction.isStraight_decode hw) _)

theorem memory_execute (hw : w.IsStraight) : (s.execute w).memory = s.memory := by
  have hsame : SameAt { s with opcode := w } (s.execute w) .memory :=
    sameAt_perform (Instruction.not_writes_memory_of_isStraight (Instruction.isStraight_decode hw))
  exact hsame

theorem cycle_of_isStraight {a : Nat} (hs : s.fault = none) (hpc : s.pc = UInt16.ofNat a)
    (ha : a < 4095) (hword : Word.ofBytes (s.memory.read a) (s.memory.read (a + 1)) = w)
    (hw : w.IsStraight) : s.cycle = { s.execute w with pc := UInt16.ofNat (a + 2) } := by
  have htoNat : s.pc.toNat = a := by
    rw [hpc]
    exact UInt16.toNat_ofNat_of_lt' (Nat.lt_trans ha (by decide))
  have hnext : s.nextWord = w := by
    rw [nextWord, htoNat, if_pos ha, ← Word.ofBytes_eq, hword]
  have hsum : s.pc + 2 = UInt16.ofNat (a + 2) := by
    rw [hpc, UInt16.ofNat_add]
    rfl
  rw [cycle_of_lt hs (htoNat ▸ ha), hnext, hsum]
  exact execute_withPc (s := s) hw (UInt16.ofNat (a + 2))

/-! ## Lists of words -/

theorem foldl_execute_withPc {ws : List Word} (hws : ∀ w ∈ ws, w.IsStraight) (pc : UInt16) :
    ws.foldl execute { s with pc := pc } = { ws.foldl execute s with pc := pc } := by
  induction ws generalizing s with
  | nil => rfl
  | cons w ws ih =>
    obtain ⟨hw, hlater⟩ := List.forall_mem_cons.1 hws
    rw [List.foldl_cons, execute_withPc hw, ih hlater, List.foldl_cons]

theorem cycles_of_holdsWords {a : Nat} {ws : List Word} (hws : ∀ w ∈ ws, w.IsStraight)
    (hs : s.fault = none) (hpc : s.pc = UInt16.ofNat a) (hend : a + 2 * ws.length ≤ 4096)
    (hholds : s.memory.HoldsWords a ws) :
    s.cycles ws.length = { ws.foldl execute s with pc := UInt16.ofNat (a + 2 * ws.length) } := by
  induction ws generalizing s a with
  | nil =>
    change s = { s with pc := UInt16.ofNat a }
    rw [← hpc]
  | cons w ws ih =>
    obtain ⟨hw, hlater⟩ := List.forall_mem_cons.1 hws
    obtain ⟨hword, hrest⟩ := hholds
    rw [List.length_cons] at hend
    let t : State := { s.execute w with pc := UInt16.ofNat (a + 2) }
    have hcycle : s.cycle = t := cycle_of_isStraight hs hpc (by omega) hword hw
    have htfault : t.fault = none := (fault_execute hw).trans hs
    -- The words still to come are where they were, since no straight word writes memory.
    have htholds : t.memory.HoldsWords (a + 2) ws := by
      have hmemory : t.memory = s.memory := memory_execute hw
      rwa [hmemory]
    have htcycles := ih hlater htfault rfl (by omega) htholds
    have hfold : ws.foldl execute t =
        { ws.foldl execute (s.execute w) with pc := UInt16.ofNat (a + 2) } :=
      foldl_execute_withPc hlater _
    have hsum : a + 2 + 2 * ws.length = a + 2 * (w :: ws).length := by
      rw [List.length_cons]
      omega
    rw [List.length_cons, cycles, hcycle, htcycles, hfold, hsum]
    rfl

/-- A program of straight words that is loaded where the machine stands runs as the list of its
words. -/
theorem straight_line_refines_list (s : State) (hs : s.fault = none) (hpc : s.pc = 0x200)
    {ws : List Word} (hlength : ws.length ≤ 1792) (hws : ∀ w ∈ ws, w.IsStraight) :
    ∃ t, (s.loadProgram (.bytes (ws.flatMap Word.bytes))).result = .ok t ∧
      t.cycles ws.length =
        { ws.foldl execute t with pc := UInt16.ofNat (0x200 + 2 * ws.length) } := by
  have hbytes := Word.length_flatMap_bytes ws
  have hfits : (Program.bytes (ws.flatMap Word.bytes)).size ≤ programCapacity := by
    change (ws.flatMap Word.bytes).length ≤ 3584
    omega
  have hend : 0x200 + 2 * ws.length ≤ 4096 := by omega
  refine ⟨_, s.result_loadProgram_of_le hfits, ?_⟩
  apply cycles_of_holdsWords hws
  · exact hs
  · exact hpc
  · exact hend
  · exact s.memory.holdsWords_store hend

/-- A sum with a carry, a random byte, an undefined word and a tone, with the display cleared in
between. -/
theorem straight_line_refines_list_sum :
    let s := powerOn ⟨0, 0⟩ {}
    let ws : List Word := [0x60FF, 0x8004, 0xC1FF, 0x00E0, 0x5121, 0xF118]
    s.fault = none ∧ s.pc = 0x200 ∧ ws.length ≤ 1792 ∧ (∀ w ∈ ws, w.IsStraight) ∧
      ∃ t, (s.loadProgram (.bytes (ws.flatMap Word.bytes))).result = .ok t ∧
        t.cycles ws.length =
          { ws.foldl execute t with pc := UInt16.ofNat (0x200 + 2 * ws.length) } := by
  intro s ws
  have hlength : ws.length ≤ 1792 := Nat.le_of_ble_eq_true rfl
  have hall : ws.all (fun w => decide w.IsStraight) = true := by decide
  have hws : ∀ w ∈ ws, w.IsStraight := by
    intro w hw
    exact of_decide_eq_true (List.all_eq_true.1 hall w hw)
  exact ⟨rfl, rfl, hlength, hws, straight_line_refines_list s rfl rfl hlength hws⟩

end State

end Chip8
